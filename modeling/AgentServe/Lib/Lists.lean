import Mathlib.Data.List.GetD
import Mathlib.Data.List.Sort

/-!
# Lists

Facts about lists: parts of a list that can be told apart are found again
(`filter_flatMap_of_nodup`), a fallible map over values that were made by another map
(`mapM_map_eq_some`), and places in a sorted list (`countP_getElem_of_sorted`).
-/

set_option autoImplicit false

namespace AgentServe.Lib

universe u v w

/-- Among parts that are told apart, one part is found again. -/
theorem filter_flatMap_of_nodup {κ : Type u} {α : Type v} [DecidableEq κ] {order : List κ}
    (distinct : order.Nodup) {part : κ → List α} {own : α → Bool} {k : κ}
    (mine : ∀ a ∈ part k, own a = true)
    (others : ∀ j ∈ order, j ≠ k → ∀ a ∈ part j, own a = false) :
    (order.flatMap part).filter own = if k ∈ order then part k else [] := by
  induction order with
  | nil => rfl
  | cons j rest ih =>
      obtain ⟨fresh, later⟩ := List.nodup_cons.mp distinct
      rw [List.flatMap_cons, List.filter_append,
        ih later fun i member => others i (List.mem_cons_of_mem _ member)]
      by_cases equal : j = k
      · subst equal
        rw [List.filter_eq_self.mpr mine, if_neg fresh, if_pos List.mem_cons_self,
          List.append_nil]
      · have nothing : (part j).filter own = [] := by
          apply List.filter_eq_nil_iff.mpr
          intro a member
          simp [others j List.mem_cons_self equal a member]
        have here : k ∈ j :: rest ↔ k ∈ rest := by
          rw [List.mem_cons]
          exact or_iff_right fun same => equal same.symm
        rw [nothing, List.nil_append]
        simp only [here]

/-- A fallible map has a result on values for each of which it has one. -/
theorem mapM_map_eq_some {α : Type u} {β : Type v} {γ : Type w} {l : List α} {f : α → β}
    {g : β → Option γ} {h : α → γ} (each : ∀ a ∈ l, g (f a) = some (h a)) :
    (l.map f).mapM g = some (l.map h) := by
  induction l with
  | nil => rfl
  | cons a rest ih =>
      have later := ih fun other member => each other (List.mem_cons_of_mem _ member)
      rw [List.map_cons, List.mapM_cons, each a List.mem_cons_self, later]
      rfl

/-- In a sorted list, no more values are below the value at a place than there are places before it,
and as many as there are places up to it are not above it. -/
theorem countP_getElem_of_sorted {α : Type u} [LinearOrder α] {s : List α}
    (sorted : s.Pairwise (· ≤ ·)) {i : ℕ} (inside : i < s.length) :
    s.countP (fun v => v < s[i]) ≤ i ∧ i < s.countP (fun v => v ≤ s[i]) := by
  have split : s = s.take i ++ s[i] :: s.drop (i + 1) := by
    rw [← List.drop_eq_getElem_cons inside, List.take_append_drop]
  obtain ⟨x, here⟩ : ∃ x, s[i] = x := ⟨_, rfl⟩
  rw [here] at split ⊢
  have short : (s.take i).length = i := List.length_take_of_le inside.le
  rw [split] at sorted
  obtain ⟨_, later, across⟩ := List.pairwise_append.mp sorted
  have above : ∀ v ∈ x :: s.drop (i + 1), ¬ v < x := by
    intro v member
    rcases List.mem_cons.mp member with rfl | member
    · exact lt_irrefl v
    · exact not_lt.mpr ((List.pairwise_cons.mp later).1 v member)
  have below : ∀ v ∈ s.take i, v ≤ x := fun v member => across v member x List.mem_cons_self
  constructor
  · rw [split, List.countP_append]
    have none_above : (x :: s.drop (i + 1)).countP (fun v => v < x) = 0 := by
      apply List.countP_eq_zero.mpr
      intro v member
      simpa using above v member
    rw [none_above, Nat.add_zero]
    calc (s.take i).countP (fun v => v < x) ≤ (s.take i).length := List.countP_le_length
      _ = i := short
  · rw [split, List.countP_append, List.countP_cons]
    have all_below : (s.take i).countP (fun v => v ≤ x) = i := by
      refine (List.countP_eq_length.mpr ?_).trans short
      intro v member
      simpa using below v member
    rw [all_below]
    simp

end AgentServe.Lib
