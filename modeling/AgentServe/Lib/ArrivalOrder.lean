import AgentServe.Lib.Semaphore
import Mathlib.Logic.Relation
import Mathlib.Data.List.Pairwise

/-!
# Arrival order at a semaphore

A semaphore grants its slots in the order in which its waiters arrived. Every
operation that wakes somebody repeats one step, the grant to the first pending
waiter (`Wakes`), so an invariant of that step is an invariant of the semaphore.

A waiter is not granted a slot while one that arrived earlier is pending
(`Orderly`). The pending waiters ahead of a waiter (`ahead`) never become more,
and every slot that is given back while the waiter is pending makes them one less
(`ahead_release`): new arrivals stand behind it, and the slot goes to one of those
in front of it.
-/

set_option autoImplicit false

namespace AgentServe.Lib

universe u

/-- Two elements of a part of a list stand in it as they stand in the list. -/
theorem pair_sublist_of_sublist {α : Type u} {part whole : List α} (inside : part.Sublist whole)
    (distinct : whole.Nodup) {a b : α} (order : [a, b].Sublist whole) (first : a ∈ part)
    (second : b ∈ part) : [a, b].Sublist part := by
  induction inside with
  | slnil => cases first
  | @cons part whole x inside ih =>
      obtain ⟨fresh, rest⟩ := List.nodup_cons.mp distinct
      rcases List.sublist_cons_iff.mp order with later | ⟨tail, same, _⟩
      · exact ih rest later first second
      · cases same
        exact absurd (inside.subset first) fresh
  | @cons_cons part whole x inside ih =>
      obtain ⟨fresh, rest⟩ := List.nodup_cons.mp distinct
      rcases List.sublist_cons_iff.mp order with later | ⟨tail, same, remaining⟩
      · have differ : ∀ c ∈ [a, b], c ≠ x := fun c member equal =>
          fresh (equal ▸ later.subset member)
        have within : ∀ c ∈ [a, b], c ∈ x :: part → c ∈ part := fun c member present =>
          (List.mem_cons.mp present).resolve_left (differ c member)
        exact (ih rest later (within a (by simp) first) (within b (by simp) second)).cons x
      · cases same
        have other : b ≠ a := fun equal => fresh (equal ▸ remaining.subset (by simp))
        have member : b ∈ part := (List.mem_cons.mp second).resolve_left other
        exact (List.singleton_sublist.mpr member).cons_cons a

namespace Semaphore

variable {ι : Type u}

/-- No waiter is granted a slot while one that arrived earlier is pending. -/
def Orderly (s : Semaphore ι) : Prop :=
  s.waiters.items.Pairwise fun x y => x.2 = .pending → y.2 ≠ .granted

theorem orderly_new (n : ℕ) : Orderly (new n : Semaphore ι) := List.Pairwise.nil

theorem Orderly.of_sublist {s t : Semaphore ι} (orderly : Orderly s)
    (part : t.waiters.items.Sublist s.waiters.items) : Orderly t :=
  List.Pairwise.sublist part orderly

variable [DecidableEq ι]

/-- The pending waiters that arrived before a waiter. -/
def ahead (s : Semaphore ι) (k : ι) : ℕ :=
  (s.waiters.items.takeWhile fun e => e.1 ≠ k).countP fun e => e.2 == .pending

/-- Grants to the first pending waiter, any number of them. -/
def Wakes : Semaphore ι → Semaphore ι → Prop :=
  Relation.ReflTransGen fun s t => s.wakeUpNext = some t

theorem wakeWhile_wakes (n : ℕ) (s : Semaphore ι) : Wakes s (wakeWhile n s) := by
  induction n generalizing s with
  | zero => exact Relation.ReflTransGen.refl
  | succ n ih =>
      unfold wakeWhile
      split
      · exact Relation.ReflTransGen.refl
      · rename_i t woke
        exact Relation.ReflTransGen.head woke (ih t)

theorem release_wakes (s : Semaphore ι) : Wakes ⟨s.value + 1, s.waiters⟩ s.release := by
  unfold release
  split
  · exact Relation.ReflTransGen.refl
  · rename_i t woke
    exact Relation.ReflTransGen.single woke

/-- A waiter that resumes leaves the queue, and wakes others. -/
theorem resume_wakes {s t : Semaphore ι} {k : ι} {interrupted kept : Bool}
    (resumed : s.resume k interrupted = some (t, kept)) :
    ∃ m : Semaphore ι, m.waiters = s.waiters.erase k ∧ Wakes m t := by
  unfold resume at resumed
  split at resumed
  · cases resumed
  · cases resumed
  · split at resumed
    · cases resumed
      exact ⟨_, rfl, wakeWhile_wakes _ _⟩
    · cases resumed
      exact ⟨_, rfl, wakeWhile_wakes _ _⟩
  · cases resumed
    exact ⟨_, rfl, wakeWhile_wakes _ _⟩

/-- **One wake.** The first pending waiter is granted a slot, in its place. -/
theorem wakeUpNext_items {s t : Semaphore ι} (woke : s.wakeUpNext = some t) :
    ∃ front k back, s.waiters.items = front ++ (k, .pending) :: back ∧
      (∀ e ∈ front, e.2 ≠ .pending) ∧ t.waiters.items = front ++ (k, .granted) :: back := by
  unfold wakeUpNext at woke
  split at woke
  · cases woke
  · rename_i e found
    cases woke
    obtain ⟨test, front, back, split, earlier⟩ := List.find?_eq_some_iff_append.mp found
    obtain ⟨k, f⟩ := e
    obtain rfl : f = .pending := by simpa using test
    exact ⟨front, k, back, split, fun x member => by simpa using earlier x member,
      Dict.items_set_of_items_eq split .granted⟩

/-- A grant reaches one pending waiter. -/
theorem get?_wakeUpNext {s t : Semaphore ι} (woke : s.wakeUpNext = some t) (k : ι) :
    t.waiters.get? k = s.waiters.get? k ∨
      (s.waiters.get? k = some .pending ∧ t.waiters.get? k = some .granted) := by
  obtain ⟨front, j, back, before, _, after⟩ := wakeUpNext_items woke
  have first : s.waiters.get? j = some .pending := Dict.mem_items_iff.mp (by rw [before]; simp)
  have same : t.waiters = s.waiters.set j .granted :=
    Dict.ext_items (after.trans (Dict.items_set_of_items_eq before .granted).symm)
  rw [same, Dict.get?_set]
  split
  · rename_i own
    exact .inr ⟨own ▸ first, rfl⟩
  · exact .inl rfl

/-- Waking makes nobody pending. -/
theorem pending_of_wakes {s t : Semaphore ι} (wakes : Wakes s t) {k : ι}
    (pending : t.waiters.get? k = some .pending) : s.waiters.get? k = some .pending := by
  induction wakes with
  | refl => exact pending
  | tail _ woke ih =>
      rcases get?_wakeUpNext woke k with same | ⟨before, _⟩
      · exact ih (same ▸ pending)
      · exact ih before

/-- Waking takes no grant back. -/
theorem alive_of_wakes {s t : Semaphore ι} (wakes : Wakes s t) {k : ι}
    (alive : s.waiters.get? k = some .pending ∨ s.waiters.get? k = some .granted) :
    t.waiters.get? k = some .pending ∨ t.waiters.get? k = some .granted := by
  induction wakes with
  | refl => exact alive
  | tail _ woke ih =>
      rcases get?_wakeUpNext woke k with same | ⟨_, granted⟩
      · rw [same]
        exact ih
      · exact .inr granted

/-! ## No overtaking -/

theorem keys_of_wakes {s t : Semaphore ι} (wakes : Wakes s t) :
    t.waiters.keys = s.waiters.keys := by
  induction wakes with
  | refl => rfl
  | tail _ woke ih =>
      obtain ⟨front, k, back, before, _, after⟩ := wakeUpNext_items woke
      rw [← ih, Dict.keys, Dict.keys, before, after]
      simp

/-- A grant to the first pending waiter overtakes nobody. -/
theorem Orderly.wakes {s t : Semaphore ι} (orderly : Orderly s) (wakes : Wakes s t) :
    Orderly t := by
  induction wakes with
  | refl => exact orderly
  | tail _ woke ih =>
      obtain ⟨front, k, back, before, earlier, after⟩ := wakeUpNext_items woke
      unfold Orderly at ih ⊢
      rw [before, List.pairwise_append, List.pairwise_cons] at ih
      rw [after, List.pairwise_append, List.pairwise_cons]
      obtain ⟨first, ⟨_, rest⟩, _⟩ := ih
      exact ⟨first, ⟨nofun, rest⟩, fun x inside _ _ pending => absurd pending (earlier x inside)⟩

theorem Orderly.enqueue {s : Semaphore ι} (orderly : Orderly s) {k : ι}
    (absent : s.waiters.get? k = none) : Orderly (s.enqueue k) := by
  have placed := Dict.items_set_of_get?_none absent FutureState.pending
  unfold Orderly
  rw [Semaphore.enqueue, placed, List.pairwise_append]
  refine ⟨orderly, List.pairwise_singleton _ _, ?_⟩
  intro x _ y last _
  rw [List.mem_singleton.mp last]
  simp

/-- A cancellation keeps every place. -/
theorem cancel_items (s : Semaphore ι) (k : ι) :
    (s.cancel k).waiters.items = s.waiters.items ∨
      ∃ front back, s.waiters.items = front ++ (k, .pending) :: back ∧
        (s.cancel k).waiters.items = front ++ (k, .cancelled) :: back := by
  unfold cancel Dict.modify
  cases found : s.waiters.get? k with
  | none => exact .inl rfl
  | some f =>
      obtain ⟨front, back, split⟩ := List.append_of_mem (Dict.mem_items_iff.mpr found)
      by_cases pending : f = .pending
      · subst pending
        exact .inr ⟨front, back, split, Dict.items_set_of_items_eq split .cancelled⟩
      · left
        simp only [pending, if_false]
        rw [Dict.items_set_of_items_eq split f, split]

theorem Orderly.cancel {s : Semaphore ι} (orderly : Orderly s) (k : ι) :
    Orderly (s.cancel k) := by
  unfold Orderly at orderly ⊢
  rcases cancel_items s k with same | ⟨front, back, before, after⟩
  · rw [same]
    exact orderly
  · rw [before, List.pairwise_append, List.pairwise_cons] at orderly
    rw [after, List.pairwise_append, List.pairwise_cons]
    obtain ⟨first, ⟨_, rest⟩, across⟩ := orderly
    refine ⟨first, ⟨nofun, rest⟩, ?_⟩
    intro x inside y later pending
    rcases List.mem_cons.mp later with rfl | behind
    · exact nofun
    · exact across x inside y (List.mem_cons_of_mem _ behind) pending

theorem keys_cancel (s : Semaphore ι) (k : ι) : (s.cancel k).waiters.keys = s.waiters.keys := by
  unfold Dict.keys
  rcases cancel_items s k with same | ⟨front, back, before, after⟩
  · rw [same]
  · rw [before, after]
    simp

/-- **No overtaking.** A waiter that arrived after a pending one is not granted a slot. -/
theorem Orderly.not_granted {s : Semaphore ι} (orderly : Orderly s) {a b : ι}
    (order : [a, b].Sublist s.waiters.keys) (pending : s.waiters.get? a = some .pending) :
    s.waiters.get? b ≠ some .granted := by
  intro granted
  obtain ⟨entries, part, names⟩ := List.sublist_map_iff.mp order
  obtain ⟨x, rest, rfl, rfl, tail⟩ := List.map_eq_cons_iff.mp names.symm
  obtain ⟨y, others, rfl, rfl, last⟩ := List.map_eq_cons_iff.mp tail
  obtain rfl := List.map_eq_nil_iff.mp last
  have first : s.waiters.get? x.1 = some x.2 := Dict.mem_items_iff.mp (part.subset (by simp))
  have second : s.waiters.get? y.1 = some y.2 := Dict.mem_items_iff.mp (part.subset (by simp))
  rw [first, Option.some_inj] at pending
  rw [second, Option.some_inj] at granted
  exact List.pairwise_iff_forall_sublist.mp orderly part pending granted

/-! ## The waiters ahead -/

theorem ahead_congr {s t : Semaphore ι} (same : t.waiters.items = s.waiters.items) (k : ι) :
    t.ahead k = s.ahead k := by
  unfold ahead
  rw [same]

/-- A waiter that stops being pending was ahead of those behind it. -/
theorem ahead_change {s t : Semaphore ι} {front back : List (ι × FutureState)} {j : ι}
    {f : FutureState} (before : s.waiters.items = front ++ (j, .pending) :: back)
    (after : t.waiters.items = front ++ (j, f) :: back) (settled : f ≠ .pending) (k : ι) :
    t.ahead k + (if k ∈ (front.map Prod.fst) ++ [j] then 0 else 1) = s.ahead k := by
  unfold ahead
  rw [before, after]
  clear before after
  induction front with
  | nil =>
      by_cases own : k = j
      · simp [own]
      · have differ : j ≠ k := fun equal => own equal.symm
        simp [own, differ, settled]
  | cons e rest ih =>
      by_cases own : k = e.1
      · simp [own]
      · have differ : e.1 ≠ k := fun equal => own equal.symm
        simp only [List.cons_append, List.takeWhile_cons, differ, ne_eq, not_false_eq_true,
          decide_true, if_true, List.countP_cons, List.map_cons, List.mem_cons, own,
          false_or] at ih ⊢
        omega

theorem ahead_cancel_le (s : Semaphore ι) (j k : ι) : (s.cancel j).ahead k ≤ s.ahead k := by
  rcases cancel_items s j with same | ⟨front, back, before, after⟩
  · exact Nat.le_of_eq (ahead_congr same k)
  · have changed := ahead_change before after (by decide) k
    omega

theorem ahead_wakes_le {s t : Semaphore ι} (wakes : Wakes s t) (k : ι) :
    t.ahead k ≤ s.ahead k := by
  induction wakes with
  | refl => exact Nat.le_refl _
  | tail _ woke ih =>
      obtain ⟨front, j, back, before, _, after⟩ := wakeUpNext_items woke
      have changed := ahead_change before after (by decide) k
      omega

/-- Those ahead of a waiter are the pending ones in front of its entry. -/
theorem ahead_of_items_eq {s : Semaphore ι} {front back : List (ι × FutureState)} {k : ι}
    {f : FutureState} (split : s.waiters.items = front ++ (k, f) :: back) :
    s.ahead k = front.countP fun e => e.2 == .pending := by
  have earlier : ∀ e ∈ front, decide (e.1 ≠ k) = true := by
    intro e member
    have absent := Dict.notMem_of_items_eq split
    exact decide_eq_true fun same => absent (same ▸ List.mem_map_of_mem member)
  rw [ahead, split, List.takeWhile_append_of_pos earlier]
  simp

/-- A new arrival stands behind every waiter. -/
theorem ahead_enqueue {s : Semaphore ι} {j k : ι} (absent : s.waiters.get? j = none)
    {f : FutureState} (waits : s.waiters.get? k = some f) :
    (s.enqueue j).ahead k = s.ahead k := by
  have placed : (s.enqueue j).waiters.items = s.waiters.items ++ [(j, .pending)] :=
    Dict.items_set_of_get?_none absent FutureState.pending
  obtain ⟨front, back, split⟩ := List.append_of_mem (Dict.mem_items_iff.mpr waits)
  rw [split, List.append_assoc, List.cons_append] at placed
  rw [ahead_of_items_eq placed, ahead_of_items_eq split]

/-- A waiter that leaves was ahead of those behind it. -/
theorem ahead_erase_le {s t : Semaphore ι} {j : ι} (left : t.waiters = s.waiters.erase j)
    {k : ι} (differ : k ≠ j) {f : FutureState} (waits : s.waiters.get? k = some f) :
    t.ahead k ≤ s.ahead k := by
  obtain ⟨front, back, split⟩ := List.append_of_mem (Dict.mem_items_iff.mpr waits)
  have kept : t.waiters.items = front.filter (fun e => e.1 ≠ j) ++
      (k, f) :: back.filter fun e => e.1 ≠ j := by
    rw [left, Dict.erase, Dict.filter]
    simp [split, differ]
  rw [ahead_of_items_eq kept, ahead_of_items_eq split]
  exact List.Sublist.countP_le List.filter_sublist

/-- **Handing a slot on.** While a waiter is pending, a slot that is given back goes to one
ahead of it. -/
theorem ahead_release {s : Semaphore ι} {k : ι}
    (pending : s.release.waiters.get? k = some .pending) :
    s.release.ahead k + 1 = s.ahead k := by
  cases woke : (⟨s.value + 1, s.waiters⟩ : Semaphore ι).wakeUpNext with
  | none =>
      have nobody := not_pending_of_wakeUpNext woke k
      rw [release, woke] at pending
      exact absurd pending nobody
  | some t =>
      have next : s.release = t := by rw [release, woke]
      rw [next] at pending ⊢
      obtain ⟨front, j, back, before, earlier, after⟩ := wakeUpNext_items woke
      have changed := ahead_change before after (by decide) k
      have member := Dict.mem_items_iff.mpr pending
      rw [after, List.mem_append] at member
      have inside : (k, FutureState.pending) ∈ back := by
        rcases member with first | later
        · have old : (k, FutureState.pending) ∈ front := first
          exact absurd rfl (earlier _ old)
        · refine (List.mem_cons.mp later).resolve_left fun same => ?_
          cases same
      have distinct := t.waiters.nodup
      rw [after, List.map_append, List.map_cons, List.nodup_append', List.nodup_cons] at distinct
      have behind : k ∉ front.map Prod.fst ++ [j] := by
        have tail : k ∈ back.map Prod.fst := List.mem_map_of_mem inside
        rw [List.mem_append, List.mem_singleton]
        rintro (ahead | rfl)
        · exact distinct.2.2 ahead (List.mem_cons_of_mem _ tail)
        · exact distinct.2.1.1 tail
      rw [if_neg behind] at changed
      exact changed

end Semaphore

end AgentServe.Lib
