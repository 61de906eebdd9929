import Mathlib.Data.List.MinMax
import Mathlib.Data.List.Perm.Basic
import Mathlib.Data.Set.Function

/-!
# Choosing the highest score

The maximum of a list by a score is the first of its members with the highest score. When
distinct members have distinct scores there is only one, so neither the order of the list
nor members that come or go beside it can change the choice (`argmax_of_subset`,
`argmax_perm`, `argmax_change`).
-/

set_option autoImplicit false

namespace AgentServe.Lib

universe u v

variable {α : Type u} {β : Type v} [LinearOrder β] {f : α → β} {l m : List α} {a b : α}

/-- A member that scores higher than every other one is chosen. -/
theorem argmax_of_strict (member : a ∈ l) (strict : ∀ b ∈ l, b ≠ a → f b < f a) :
    l.argmax f = some a := by
  cases chosen : l.argmax f with
  | none =>
      rw [List.argmax_eq_none.mp chosen] at member
      cases member
  | some b =>
      by_contra other
      have differ : b ≠ a := fun same => other (congrArg some same)
      exact List.not_lt_of_mem_argmax member chosen (strict b (List.argmax_mem chosen) differ)

/-- With distinct scores the chosen member scores higher than every other one. -/
theorem lt_of_argmax (distinct : Set.InjOn f {x | x ∈ l}) (chosen : l.argmax f = some a)
    (member : b ∈ l) (differ : b ≠ a) : f b < f a := by
  apply lt_of_le_of_ne (List.le_of_mem_argmax member chosen)
  intro same
  exact differ (distinct member (List.argmax_mem chosen) same)

/-- **Fewer members.** A choice that is still there is still the choice. -/
theorem argmax_of_subset (distinct : Set.InjOn f {x | x ∈ m}) (subset : l ⊆ m)
    (chosen : m.argmax f = some a) (member : a ∈ l) : l.argmax f = some a :=
  argmax_of_strict member fun _ inside differ =>
    lt_of_argmax distinct chosen (subset inside) differ

/-- The order of the members does not matter. -/
theorem argmax_perm (distinct : Set.InjOn f {x | x ∈ m}) (perm : l.Perm m) :
    l.argmax f = m.argmax f := by
  cases chosen : m.argmax f with
  | none =>
      rw [List.argmax_eq_none] at chosen
      rw [chosen] at perm
      rw [perm.eq_nil, List.argmax_nil]
  | some a =>
      exact argmax_of_subset distinct perm.subset chosen
        (perm.mem_iff.mpr (List.argmax_mem chosen))

/-- A choice changes only to or from a member that is not in both lists. -/
theorem argmax_change (distinct : Set.InjOn f {x | x ∈ m}) (subset : l ⊆ m)
    (changed : l.argmax f ≠ m.argmax f) : ∃ a, m.argmax f = some a ∧ a ∉ l := by
  cases chosen : m.argmax f with
  | none =>
      rw [List.argmax_eq_none] at chosen
      rw [chosen] at subset changed
      rw [List.subset_nil.mp subset] at changed
      exact absurd rfl changed
  | some a =>
      refine ⟨a, rfl, fun member => changed ?_⟩
      rw [chosen]
      exact argmax_of_subset distinct subset chosen member

end AgentServe.Lib
