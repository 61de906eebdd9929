import AgentServe.Admission.ControllerRuns

/-!
# Releases by anybody

A release is not bound to the request it is for. Here anybody may call it, at any time, for any
session and with any tier, besides the calls of `gate` and the releases of the requests
themselves.

Every recorded session stands for at most one slot that is out. So the slots of a tier that are
free, or granted inside `gate`, and the sessions recorded with the tier are never more than the
tier was built with (`Bounded`, `bounded_step`), and no release, however often and by whomever it
is called, makes more slots than there were (`over_release_impossible`).
-/

set_option autoImplicit false

namespace AgentServe

open Lib

/-- A step of a request or of what surrounds it, or a release by anybody. -/
inductive OpenEvent (ρ : Type) where
  | call (e : AdmissionEvent ρ)
  | release (session : SessionContext) (tier : Tier)

namespace AdmissionSystem

variable {ρ : Type}

/-- The sessions recorded with a tier. -/
def recordedOn (s : AdmissionSystem ρ) (t : Tier) : ℕ :=
  s.controller.held.count fun _ tier => tier = t

/-- The slots that are free or granted inside `gate`, and the sessions recorded, are no more than
the tier has. -/
def Bounded (capacity : Tier → ℕ) (s : AdmissionSystem ρ) : Prop :=
  ∀ t q, s.queue? t = some q → q.semaphore.slots + s.recordedOn t ≤ capacity t

variable [DecidableEq ρ]

/-- One step, with releases by anybody. -/
def openStep (s : AdmissionSystem ρ) : OpenEvent ρ → Option (AdmissionSystem ρ)
  | .call e => s.step e
  | .release session tier => some ⟨s.controller.release session tier, s.tickets⟩

/-! ## Records -/

omit [DecidableEq ρ] in
theorem recordedOn_eq {s t : AdmissionSystem ρ}
    (held : ∀ sid, t.controller.held.get? sid = s.controller.held.get? sid) (tier : Tier) :
    t.recordedOn tier = s.recordedOn tier :=
  Dict.count_eq_of_keys fun sid => by rw [held]

omit [DecidableEq ρ] in
/-- A request that comes out of `gate` adds at most its own session to the record. -/
theorem recordedOn_of_held {s t : AdmissionSystem ρ} {x : Ticket}
    (held : ∀ sid, t.controller.held.get? sid =
      if sid = x.session.sessionId ∧ x.caller.isHolding = true then some x.tier
      else s.controller.held.get? sid) (tier : Tier) :
    t.recordedOn tier ≤ s.recordedOn tier + ((x.on tier).any Caller.isHolding).toNat := by
  by_cases holds : x.caller.isHolding = true
  · have same : t.recordedOn tier =
        (s.controller.held.set x.session.sessionId x.tier).count fun _ u => u = tier := by
      apply Dict.count_eq_of_keys
      intro sid
      simp only [held, holds, and_true, Dict.get?_set]
    have counted := Dict.count_set (fun _ u => decide (u = tier)) s.controller.held
      x.session.sessionId x.tier
    have own : ((x.on tier).any Caller.isHolding).toNat = (decide (x.tier = tier)).toNat := by
      unfold Ticket.on
      split <;> simp_all
    rw [same, own, recordedOn]
    omega
  · rw [recordedOn_eq (s := s) (t := t) fun sid => by rw [held, if_neg fun own => holds own.2]]
    exact Nat.le_add_right _ _

/-- A release takes the session that it gives a slot back for out of the record. -/
theorem recordedOn_release (s : AdmissionSystem ρ) (session : SessionContext) (tier t : Tier)
    (tickets : Dict ρ Ticket) :
    recordedOn ⟨s.controller.release session tier, tickets⟩ t +
        (decide (s.controller.held.get? session.sessionId = some t)).toNat = s.recordedOn t := by
  unfold recordedOn AdmissionController.release
  cases recorded : s.controller.held.get? session.sessionId with
  | none => simp
  | some heldTier =>
      have erased := Dict.count_erase_of_get?_some (fun _ u => decide (u = t)) recorded
      simpa using erased

/-! ## Steps -/

/-- A request that moves on, recorded only with a slot it gets, keeps the bound. -/
theorem bounded_of_moves {capacity : Tier → ℕ} {s t : AdmissionSystem ρ} {k : ρ} {x : Ticket}
    (moves : Moves k x s t) (empty_handed : ∀ tier, (s.share k tier).any Caller.isHolding = false)
    (held : ∀ sid, t.controller.held.get? sid =
      if sid = x.session.sessionId ∧ x.caller.isHolding = true then some x.tier
      else s.controller.held.get? sid)
    (bounded : s.Bounded capacity) : t.Bounded capacity := by
  intro tier r found
  obtain ⟨q, before, moved⟩ := moves.origin found
  have slots := moved.slots
  have recorded := recordedOn_of_held held tier
  have start := bounded tier q before
  simp only [empty_handed, Bool.toNat_false] at slots
  omega

/-- A release gives back at most the slot of the session it takes out of the record. -/
theorem bounded_of_release {capacity : Tier → ℕ} {s : AdmissionSystem ρ}
    (bounded : s.Bounded capacity) (session : SessionContext) (tier : Tier)
    (tickets : Dict ρ Ticket) :
    Bounded capacity (⟨s.controller.release session tier, tickets⟩ : AdmissionSystem ρ) := by
  intro t r found
  have recorded := recordedOn_release s session tier t tickets
  rw [queue?, queue?_release] at found
  split at found
  · rename_i own
    obtain ⟨q, earlier, rfl⟩ := Option.map_eq_some_iff.mp found
    have start := bounded t q earlier
    have slots : q.release.semaphore.slots = q.semaphore.slots + 1 :=
      Semaphore.slots_release q.semaphore
    simp only [own, decide_true, Bool.toNat_true] at recorded
    omega
  · have start := bounded t r found
    omega

/-- Step lemma: a step of a request keeps the bound. -/
theorem bounded_step {capacity : Tier → ℕ} {s t : AdmissionSystem ρ} {e : AdmissionEvent ρ}
    (sound : s.Sound) (bounded : s.Bounded capacity) (stepped : s.step e = some t) :
    t.Bounded capacity := by
  cases does_of_step stepped with
  | gate fresh gated =>
      refine bounded_of_moves (gate_moves sound fresh gated) ?_
        (AdmissionController.held_gate gated) bounded
      intro tier
      rw [share, fresh]
      rfl
  | interrupt inside =>
      refine bounded_of_moves (interrupt_moves sound inside) ?_ (fun sid => ?_) bounded
      · intro tier
        rw [share_eq inside]
        split <;> rfl
      · simp [AdmissionController.interrupt]
  | resume inside woke =>
      obtain ⟨_, _, _, _, _, held⟩ := AdmissionController.resume_spec woke
      refine bounded_of_moves (resume_moves sound inside woke) ?_ held bounded
      intro tier
      rw [share_eq inside]
      split <;> rfl
  | release => exact bounded_of_release bounded _ _ _
  | debit => exact bounded
  | markStatus => exact bounded

/-- Step lemma: releases by anybody keep the state sound. -/
theorem sound_openStep {s t : AdmissionSystem ρ} {e : OpenEvent ρ} (sound : s.Sound)
    (stepped : s.openStep e = some t) : t.Sound := by
  cases e with
  | call e => exact sound_step sound stepped
  | release session tier =>
      cases stepped
      exact sound_of_release sound session tier (fun _ _ outside => outside)
        fun _ _ found _ => found

/-- Step lemma: they keep the bound as well. -/
theorem bounded_openStep {capacity : Tier → ℕ} {s t : AdmissionSystem ρ} {e : OpenEvent ρ}
    (sound : s.Sound) (bounded : s.Bounded capacity) (stepped : s.openStep e = some t) :
    t.Bounded capacity := by
  cases e with
  | call e => exact bounded_step sound bounded stepped
  | release session tier =>
      cases stepped
      exact bounded_of_release bounded session tier _

section Start

variable (config : AdmissionConfig) (accountant : TokenAccountant) (registry : BackendRegistry)

omit [DecidableEq ρ] in
theorem bounded_new :
    (new config accountant registry : AdmissionSystem ρ).Bounded (totalInflight registry) := by
  intro t q found
  have start := conserved_new config accountant registry t q found
  have nobody : (new config accountant registry : AdmissionSystem ρ).recordedOn t = 0 := rfl
  simp only [Semaphore.slots]
  omega

/-- **Over-release is impossible.** After any calls of `gate`, finished or not, and any releases,
by anybody, the free slots of a tier and the sessions recorded with it are together no more than
the slots the tier was built with. -/
theorem over_release_impossible (events : List (OpenEvent ρ)) (s : AdmissionSystem ρ)
    (ran : run openStep (new config accountant registry) events = some s) (t : Tier)
    (q : BackpressureQueue ρ) (found : s.queue? t = some q) :
    q.semaphore.value + s.recordedOn t ≤ totalInflight registry t ∧
      q.semaphore.value ≤ totalInflight registry t := by
  have kept : s.Sound ∧ s.Bounded (totalInflight registry) :=
    invariant_of_step (P := fun s => s.Sound ∧ s.Bounded (totalInflight registry))
      (fun _ _ _ ⟨sound, bounded⟩ stepped =>
        ⟨sound_openStep sound stepped, bounded_openStep sound bounded stepped⟩)
      ⟨sound_new config accountant registry, bounded_new config accountant registry⟩ ran
  have bound := kept.2 t q found
  simp only [Semaphore.slots] at bound
  omega

end Start

/-! ## Misuse -/

/-- A session is admitted on both tiers, and then released more often than it was admitted. -/
def misuse : List (OpenEvent ℕ) := [
  .release oneSession .big, .call (.gate 0 oneSession .small 50 atStart),
  .call (.gate 1 oneSession .big 50 atStart), .release oneSession .small,
  .release oneSession .small, .call (.release 0)]

/-- The slots after the misuse. -/
theorem over_release_impossible_after_misuse :
    ∃ (s : AdmissionSystem ℕ) (q : BackpressureQueue ℕ),
      run openStep (new shippedConfig.admission (.new shippedConfig.admission)
        (.new shippedConfig)) misuse = some s ∧ s.queue? .small = some q ∧
        q.semaphore.value + s.recordedOn .small ≤ totalInflight (.new shippedConfig) .small ∧
        q.semaphore.value ≤ totalInflight (.new shippedConfig) .small := by
  have present : ((run openStep (new shippedConfig.admission (.new shippedConfig.admission)
      (.new shippedConfig)) misuse).bind fun s => s.queue? .small).isSome = true := by
    decide +kernel
  obtain ⟨q, reached⟩ := Option.isSome_iff_exists.mp present
  obtain ⟨s, ran, found⟩ := Option.bind_eq_some_iff.mp reached
  exact ⟨s, q, ran, found, over_release_impossible _ _ _ misuse s ran .small q found⟩

end AdmissionSystem

end AgentServe
