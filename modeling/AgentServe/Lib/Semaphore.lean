import AgentServe.Lib.Dict
import Mathlib.Tactic.Common

/-!
# The counting semaphore of an event loop

A semaphore holds a number of free slots and a queue of waiters, each with a
future. Between two awaits a coroutine is not interrupted, so every operation
is one function. A caller that finds a free slot and no live waiter takes the
slot at once. Any other caller appends a pending future and is suspended.
Giving a slot back grants it to the first pending future, in order of arrival.

A suspended caller resumes when its future is granted, or when it was
cancelled. A cancellation that arrives after the grant does not take effect on
the future: the caller is thrown out on resumption and returns its slot. Either
way the resuming caller leaves the queue and wakes as many pending waiters as
there are free slots.

A slot is free or granted to a waiter that has not resumed. Their number
(`slots`) is what the operations account for: taking a slot at once removes one
(`slots_tryAcquire`), giving one back adds one (`slots_release`), and resuming
removes one exactly when the caller keeps its slot (`resume_spec`). Waking
moves slots between the two kinds and changes nothing else (`Woken`).

A slot may stay free although a waiter is pending, but only until a granted waiter
resumes (`Prompt`). Every operation keeps this.
-/

set_option autoImplicit false

namespace AgentServe.Lib

universe u

/-- The state of a waiter's future. -/
inductive FutureState where
  | pending
  | granted
  | cancelled
deriving DecidableEq, Repr

/-- A semaphore: its free slots and its waiters in order of arrival. -/
structure Semaphore (ι : Type u) where
  value : ℕ
  waiters : Dict ι FutureState

namespace Semaphore

variable {ι : Type u}

/-- A semaphore with `n` free slots and no waiter. -/
def new (n : ℕ) : Semaphore ι := ⟨n, .empty⟩

/-- A new arrival has to wait: no slot is free, or a waiter is ahead of it. -/
def locked (s : Semaphore ι) : Bool :=
  s.value == 0 || s.waiters.values.any fun f => f != .cancelled

/-- Take a free slot at once. -/
def tryAcquire (s : Semaphore ι) : Option (Semaphore ι) :=
  if s.locked then none else some ⟨s.value - 1, s.waiters⟩

/-- Slots granted to waiters that have not resumed. -/
def granted (s : Semaphore ι) : ℕ := s.waiters.count fun _ f => f == .granted

/-- Slots that no resumed caller holds: the free ones and the granted ones. -/
def slots (s : Semaphore ι) : ℕ := s.value + s.granted

@[simp] theorem value_new (n : ℕ) : (new n : Semaphore ι).value = n := rfl

/-- Taking a slot at once needs a free one. -/
theorem tryAcquire_eq_some {s t : Semaphore ι} (taken : s.tryAcquire = some t) :
    0 < s.value ∧ t = ⟨s.value - 1, s.waiters⟩ := by
  unfold tryAcquire at taken
  split at taken
  · cases taken
  · rename_i unlocked
    have positive : s.value ≠ 0 := fun zero => unlocked (by simp [locked, zero])
    exact ⟨Nat.pos_of_ne_zero positive, (Option.some.inj taken).symm⟩

theorem slots_tryAcquire {s t : Semaphore ι} (taken : s.tryAcquire = some t) :
    t.slots + 1 = s.slots := by
  obtain ⟨positive, rfl⟩ := tryAcquire_eq_some taken
  simp only [slots, granted]
  omega

variable [DecidableEq ι]

/-- Append a pending future. -/
def enqueue (s : Semaphore ι) (k : ι) : Semaphore ι := ⟨s.value, s.waiters.set k .pending⟩

/-- Grant a slot to the first pending waiter. -/
def wakeUpNext (s : Semaphore ι) : Option (Semaphore ι) :=
  match s.waiters.items.find? fun e => e.2 == .pending with
  | none => none
  | some e => some ⟨s.value - 1, s.waiters.set e.1 .granted⟩

/-- Wake pending waiters, at most as often as the first argument says. -/
def wakeWhile : ℕ → Semaphore ι → Semaphore ι
  | 0, s => s
  | n + 1, s =>
    match s.wakeUpNext with
    | none => s
    | some t => wakeWhile n t

/-- Wake pending waiters while slots are free. Every wake uses one of them. -/
def wakeAll (s : Semaphore ι) : Semaphore ι := wakeWhile s.value s

/-- Give a slot back. -/
def release (s : Semaphore ι) : Semaphore ι :=
  match (⟨s.value + 1, s.waiters⟩ : Semaphore ι).wakeUpNext with
  | none => ⟨s.value + 1, s.waiters⟩
  | some t => t

/-- Cancel a waiter. A future that is already granted keeps its grant. -/
def cancel (s : Semaphore ι) (k : ι) : Semaphore ι :=
  ⟨s.value, s.waiters.modify k fun f => if f = .pending then .cancelled else f⟩

/-- A waiter runs again: with its slot, or thrown out by an interruption. A pending waiter
is not runnable. -/
def resume (s : Semaphore ι) (k : ι) (interrupted : Bool) : Option (Semaphore ι × Bool) :=
  match s.waiters.get? k with
  | none => none
  | some .pending => none
  | some .granted =>
    if interrupted then some (wakeAll ⟨s.value + 1, s.waiters.erase k⟩, false)
    else some (wakeAll ⟨s.value, s.waiters.erase k⟩, true)
  | some .cancelled => some (wakeAll ⟨s.value, s.waiters.erase k⟩, false)

/-! ## Waking -/

/-- One state arises from another by granting free slots to pending waiters. -/
structure Woken (s t : Semaphore ι) : Prop where
  slots : t.slots = s.slots
  future : ∀ k, t.waiters.get? k = s.waiters.get? k ∨
    (s.waiters.get? k = some .pending ∧ t.waiters.get? k = some .granted)

theorem Woken.refl (s : Semaphore ι) : Woken s s := ⟨rfl, fun _ => .inl rfl⟩

theorem Woken.trans {s t u : Semaphore ι} (first : Woken s t) (second : Woken t u) :
    Woken s u := by
  refine ⟨second.slots.trans first.slots, ?_⟩
  intro k
  rcases second.future k with same | ⟨pending, granted⟩
  · rw [same]
    exact first.future k
  · rcases first.future k with before | ⟨_, early⟩
    · exact .inr ⟨before ▸ pending, granted⟩
    · rw [early] at pending
      cases pending

/-- Waking keeps a waiter a waiter. -/
theorem Woken.get?_eq_none {s t : Semaphore ι} (woken : Woken s t) {k : ι} :
    t.waiters.get? k = none ↔ s.waiters.get? k = none := by
  rcases woken.future k with same | ⟨pending, granted⟩
  · rw [same]
  · simp [pending, granted]

theorem wakeUpNext_woken {s t : Semaphore ι} (positive : 0 < s.value)
    (woke : s.wakeUpNext = some t) : Woken s t ∧ t.value + 1 = s.value := by
  unfold wakeUpNext at woke
  split at woke
  · cases woke
  · rename_i e found
    cases woke
    have pending : s.waiters.get? e.1 = some .pending := by
      have inside : (e.1, e.2) ∈ _ := List.mem_of_find?_eq_some found
      have member := Dict.mem_items_iff.mp inside
      have state : e.2 = .pending := by simpa using List.find?_some found
      rw [member, state]
    have counted := Dict.count_set_of_get?_some (fun _ f => f == .granted) .granted pending
    simp only [beq_self_eq_true, Bool.toNat_true] at counted
    refine ⟨⟨?_, ?_⟩, by simp only; omega⟩
    · have noPending : (FutureState.pending == FutureState.granted).toNat = 0 := rfl
      simp only [Semaphore.slots, granted]
      omega
    · intro k
      by_cases same : k = e.1
      · subst same
        exact .inr ⟨pending, Dict.get?_set_self _ _ _⟩
      · exact .inl (Dict.get?_set_of_ne _ _ same)

theorem wakeWhile_woken (n : ℕ) {s : Semaphore ι} (enough : n ≤ s.value) :
    Woken s (wakeWhile n s) := by
  induction n generalizing s with
  | zero => exact Woken.refl s
  | succ n ih =>
      unfold wakeWhile
      split
      · exact Woken.refl s
      · rename_i t woke
        obtain ⟨once, value⟩ := wakeUpNext_woken (by omega) woke
        exact once.trans (ih (by omega))

theorem wakeAll_woken (s : Semaphore ι) : Woken s s.wakeAll :=
  wakeWhile_woken s.value (Nat.le_refl _)

/-! ## What each operation does to slots and waiters -/

theorem slots_enqueue {s : Semaphore ι} {k : ι} (absent : s.waiters.get? k = none) :
    (s.enqueue k).slots = s.slots := by
  have counted := Dict.count_set_of_get?_none (fun _ f => f == .granted) FutureState.pending absent
  have noPending : (FutureState.pending == FutureState.granted).toNat = 0 := rfl
  simp only [slots, granted, enqueue]
  omega

theorem get?_enqueue (s : Semaphore ι) (k j : ι) :
    (s.enqueue k).waiters.get? j = if j = k then some .pending else s.waiters.get? j :=
  Dict.get?_set _ _ _ _

/-- Giving a slot back adds a free slot and wakes. -/
theorem release_woken (s : Semaphore ι) : Woken ⟨s.value + 1, s.waiters⟩ s.release := by
  unfold release
  split
  · exact Woken.refl _
  · rename_i t woke
    exact (wakeUpNext_woken (Nat.succ_pos _) woke).1

theorem slots_release (s : Semaphore ι) : s.release.slots = s.slots + 1 := by
  rw [s.release_woken.slots]
  simp only [slots, granted]
  omega

theorem get?_cancel (s : Semaphore ι) (k j : ι) :
    (s.cancel k).waiters.get? j =
      if j = k then (s.waiters.get? j).map fun f => if f = .pending then .cancelled else f
      else s.waiters.get? j :=
  Dict.get?_modify _ _ _ _

/-- A cancellation moves no slot. -/
theorem slots_cancel (s : Semaphore ι) (k : ι) : (s.cancel k).slots = s.slots := by
  simp only [slots, granted]
  apply congrArg (s.value + ·)
  apply Dict.count_eq_of_keys
  intro j
  rw [get?_cancel]
  by_cases same : j = k
  · subst same
    cases s.waiters.get? j with
    | none => simp
    | some f => cases f <;> simp
  · simp [same]

/-- **Resuming.** Only a granted or cancelled waiter resumes. It leaves the queue, and it
keeps its slot exactly when it was granted and not interrupted. -/
theorem resume_spec {s t : Semaphore ι} {k : ι} {interrupted kept : Bool}
    (resumed : s.resume k interrupted = some (t, kept)) :
    ∃ f, s.waiters.get? k = some f ∧ f ≠ .pending ∧
      (kept = true ↔ f = .granted ∧ interrupted = false) ∧
      t.slots + kept.toNat = s.slots ∧
      ∃ m : Semaphore ι, m.waiters = s.waiters.erase k ∧ Woken m t := by
  have counted : ∀ f, s.waiters.get? k = some f →
      (s.waiters.erase k).count (fun _ f => f == .granted) + (f == .granted).toNat = s.granted :=
    fun f found => Dict.count_erase_of_get?_some (fun _ f => f == .granted) found
  unfold resume at resumed
  split at resumed
  · cases resumed
  · cases resumed
  · rename_i found
    have erased := counted _ found
    simp only [beq_self_eq_true, Bool.toNat_true] at erased
    split at resumed
    · rename_i thrown
      cases resumed
      have woken := wakeAll_woken (⟨s.value + 1, s.waiters.erase k⟩ : Semaphore ι)
      refine ⟨_, found, by decide, by simp [thrown], ?_, _, rfl, woken⟩
      rw [woken.slots]
      simp only [slots, granted, Bool.toNat_false] at erased ⊢
      omega
    · rename_i undisturbed
      cases resumed
      have woken := wakeAll_woken (⟨s.value, s.waiters.erase k⟩ : Semaphore ι)
      refine ⟨_, found, by decide, by simpa using undisturbed, ?_, _, rfl, woken⟩
      rw [woken.slots]
      simp only [slots, granted, Bool.toNat_true] at erased ⊢
      omega
  · rename_i found
    have erased := counted _ found
    cases resumed
    have woken := wakeAll_woken (⟨s.value, s.waiters.erase k⟩ : Semaphore ι)
    refine ⟨_, found, by decide, by simp, ?_, _, rfl, woken⟩
    have noCancelled : (FutureState.cancelled == FutureState.granted).toNat = 0 := rfl
    rw [woken.slots]
    simp only [slots, granted, Bool.toNat_false] at erased ⊢
    omega

theorem granted_pos {s : Semaphore ι} {k : ι} (grant : s.waiters.get? k = some .granted) :
    0 < s.granted :=
  Dict.count_pos grant rfl

/-! ## Free slots beside pending waiters -/

/-- No slot is free, or nobody waits for it, or a granted waiter has yet to resume. -/
def Prompt (s : Semaphore ι) : Prop :=
  s.value = 0 ∨ (∀ k, s.waiters.get? k ≠ some .pending) ∨
    ∃ k, s.waiters.get? k = some .granted

theorem prompt_new (n : ℕ) : Prompt (new n : Semaphore ι) := .inr (.inl fun _ => nofun)

/-- Nobody is woken only where nobody is pending. -/
theorem not_pending_of_wakeUpNext {s : Semaphore ι} (woke : s.wakeUpNext = none) (k : ι) :
    s.waiters.get? k ≠ some .pending := by
  intro pending
  unfold wakeUpNext at woke
  split at woke
  · rename_i nobody
    have member := Dict.mem_items_iff.mpr pending
    have other := List.find?_eq_none.mp nobody _ member
    simp at other
  · cases woke

theorem granted_of_wakeUpNext {s t : Semaphore ι} (woke : s.wakeUpNext = some t) :
    ∃ k, t.waiters.get? k = some .granted := by
  unfold wakeUpNext at woke
  split at woke
  · cases woke
  · rename_i e _
    cases woke
    exact ⟨e.1, Dict.get?_set_self _ _ _⟩

/-- Waking goes on until no slot is free or nobody is pending. -/
theorem wakeAll_spent (s : Semaphore ι) :
    s.wakeAll.value = 0 ∨ ∀ k, s.wakeAll.waiters.get? k ≠ some .pending := by
  have spent : ∀ n (s : Semaphore ι), s.value = n →
      (wakeWhile n s).value = 0 ∨ ∀ k, (wakeWhile n s).waiters.get? k ≠ some .pending := by
    intro n
    induction n with
    | zero =>
        intro s none_free
        exact .inl none_free
    | succ n ih =>
        intro s value
        unfold wakeWhile
        split
        · rename_i nobody
          exact .inr (not_pending_of_wakeUpNext nobody)
        · rename_i t woke
          have less := (wakeUpNext_woken (by omega) woke).2
          exact ih t (by omega)
  exact spent s.value s rfl

theorem wakeAll_prompt (s : Semaphore ι) : Prompt s.wakeAll :=
  (wakeAll_spent s).imp_right .inl

theorem tryAcquire_prompt {s t : Semaphore ι} (taken : s.tryAcquire = some t) : Prompt t := by
  unfold tryAcquire at taken
  split at taken
  · cases taken
  · rename_i unlocked
    cases taken
    refine .inr (.inl ?_)
    intro k pending
    have waits : s.waiters.values.any (fun f => f != .cancelled) = true :=
      List.any_eq_true.mpr
        ⟨.pending, List.mem_map.mpr ⟨_, Dict.mem_items_iff.mpr pending, rfl⟩, rfl⟩
    simp [locked, waits] at unlocked

/-- A caller appends its future only where the semaphore is locked. -/
theorem Prompt.enqueue {s : Semaphore ι} (prompt : Prompt s) {k : ι}
    (absent : s.waiters.get? k = none) (full : s.tryAcquire = none) : Prompt (s.enqueue k) := by
  have stays : ∀ j f, s.waiters.get? j = some f → (s.enqueue k).waiters.get? j = some f := by
    intro j f found
    have differ : j ≠ k := fun same => by
      rw [same, absent] at found
      cases found
    rw [get?_enqueue, if_neg differ, found]
  unfold tryAcquire at full
  split at full
  · rename_i locked
    simp only [Semaphore.locked, Bool.or_eq_true, beq_iff_eq, List.any_eq_true] at locked
    rcases locked with none_free | ⟨f, member, alive⟩
    · exact .inl none_free
    · obtain ⟨⟨j, g⟩, inside, rfl⟩ := List.mem_map.mp member
      have found := Dict.mem_items_iff.mp inside
      cases g with
      | granted => exact .inr (.inr ⟨j, stays j _ found⟩)
      | pending =>
          rcases prompt with none_free | nobody | ⟨i, grant⟩
          · exact .inl none_free
          · exact absurd found (nobody j)
          · exact .inr (.inr ⟨i, stays i _ grant⟩)
      | cancelled => cases alive
  · cases full

/-- Giving a slot back grants it, or nobody is pending. -/
theorem release_prompt (s : Semaphore ι) : Prompt s.release := by
  unfold release
  split
  · rename_i nobody
    exact .inr (.inl (not_pending_of_wakeUpNext nobody))
  · rename_i t woke
    exact .inr (.inr (granted_of_wakeUpNext woke))

theorem Prompt.cancel {s : Semaphore ι} (prompt : Prompt s) (k : ι) : Prompt (s.cancel k) := by
  rcases prompt with none_free | nobody | ⟨j, grant⟩
  · exact .inl none_free
  · refine .inr (.inl ?_)
    intro j pending
    rw [get?_cancel] at pending
    split at pending
    · obtain ⟨f, _, becomes⟩ := Option.map_eq_some_iff.mp pending
      cases f <;> simp at becomes
    · exact nobody j pending
  · refine .inr (.inr ⟨j, ?_⟩)
    rw [get?_cancel, grant]
    simp

theorem resume_prompt {s t : Semaphore ι} {k : ι} {interrupted kept : Bool}
    (resumed : s.resume k interrupted = some (t, kept)) : Prompt t := by
  unfold resume at resumed
  split at resumed
  · cases resumed
  · cases resumed
  · split at resumed <;> cases resumed <;> exact wakeAll_prompt _
  · cases resumed
    exact wakeAll_prompt _

end Semaphore

end AgentServe.Lib
