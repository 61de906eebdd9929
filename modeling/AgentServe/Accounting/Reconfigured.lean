import AgentServe.Accounting.Snapshot
import AgentServe.Accounting.Window

/-!
# Snapshots read under another configuration

A gateway that starts again may have another window than the one that wrote the
snapshot. Reading the snapshot drops what is older than the window it was written
under, and later reads drop what is older than the configured one. So an entry
counts as long as it is within the configured window and was within the saved one
when the snapshot was read (`restore_keeps_both_windows`). Where the configured
window is no longer than the saved one, with the time since the restart on top,
only the configured one matters. An entry between the two cutoffs is lost
(`longer_window_loses_usage`).

The loop that saves reads the windows as they are, between the calls on the
accountant, and changes no answer of it (`answers_saving`).
-/

set_option autoImplicit false

namespace AgentServe

open Lib

/-! ## Saving between calls -/

/-- What happens to the accountant of a running gateway: a call, or a pass of the loop that
saves. -/
inductive SavingEvent where
  | call (c : AccountantCall)
  | save

inductive SavingAnswer where
  | answered (answer : AccountantAnswer)
  | saved (file : Snapshot)

def SavingEvent.call? : Time × SavingEvent → Option (Time × AccountantCall)
  | (now, .call c) => some (now, c)
  | _ => none

/-- The calls of a history, with their answers. -/
def SavingAnswer.called? :
    (Time × SavingEvent) × SavingAnswer → Option ((Time × AccountantCall) × AccountantAnswer)
  | ((now, .call c), .answered answer) => some ((now, c), answer)
  | _ => none

/-- The call enters tokens in the window of an agent. -/
def AccountantCall.isDebit : AccountantCall → Bool
  | .debit _ _ _ => true
  | _ => false

theorem ledger_eq_nil_of_no_debit {calls : List (Time × AccountantCall)}
    (reads : ∀ e ∈ calls, e.2.isDebit = false) (agentId : String) : ledger agentId calls = [] := by
  apply List.filterMap_eq_nil_iff.mpr
  intro e member
  obtain ⟨now, c⟩ := e
  have quiet := reads _ member
  cases c with
  | debit => cases quiet
  | checkBudget => rfl
  | getUsage => rfl

namespace TokenAccountant

/-- Carry out a call, or write a snapshot. -/
def stepSaving (a : TokenAccountant) (e : Time × SavingEvent) : TokenAccountant × SavingAnswer :=
  match e.2 with
  | .call c =>
    let (next, answer) := a.call (e.1, c)
    (next, .answered answer)
  | .save => (a, .saved a.save)

/-- Saving changes no answer of the running accountant. -/
theorem answers_saving (a : TokenAccountant) (events : List (Time × SavingEvent)) :
    (history stepSaving a events).filterMap SavingAnswer.called? =
      history call a (events.filterMap SavingEvent.call?) := by
  induction events generalizing a with
  | nil => rfl
  | cons e rest ih =>
      obtain ⟨now, event⟩ := e
      cases event with
      | call c => exact congrArg (((now, c), (a.call (now, c)).2) :: ·) (ih (a.call (now, c)).1)
      | save => exact ih a

/-! ## What is read after a restart -/

/-- The entries of an agent in a snapshot. -/
def savedEntries (file : Snapshot) (agentId : String) : List (Time × ℤ) :=
  ((file.get? agentId).map SavedWindow.entries).getD []

/-- The usage of an agent that a gateway reports, when it started with a snapshot at one time and
calls were made until another. -/
def usageRestored (config : AdmissionConfig) (file : Snapshot) (started : Time)
    (calls : List (Time × AccountantCall)) (agentId : String) (now : Time) : ℤ :=
  ((final call ((new config).restore (some file) started) calls).getUsage agentId
    now).2.tokensUsed

theorem config_restore (a : TokenAccountant) (file : Option Snapshot) (now : Time) :
    (a.restore file now).config = a.config := by
  cases file with
  | none => rfl
  | some data =>
      unfold TokenAccountant.restore
      simp only
      induction data.items generalizing a with
      | nil => rfl
      | cons e rest ih => exact ih (a.restoreOne now e)

/-- A fresh accountant that read a snapshot reads the saved entries, from the saved cutoff on. -/
theorem since_restore_save {a : TokenAccountant} (configured : a.Configured)
    (config : AdmissionConfig) (started : Time) (agentId : String) (oldest : Time) :
    since (((new config).restore (some a.save) started).stateOf agentId).entries oldest =
      since (savedEntries a.save agentId)
        (max oldest (started - a.config.budgetWindowSeconds)) := by
  have length := (configured agentId).2
  rw [stateOf_restore, savedEntries, save, Dict.get?_map]
  unfold stateOf at length
  cases found : a.states.get? agentId with
  | none => rfl
  | some w =>
      rw [found, Option.getD_some] at length
      simp only [Option.map_some, restored, Option.getD_some, length]
      exact since_filter_max _ _ _

/-- The laws of a snapshot that is read under another configuration. -/
structure RestoreLaws (a : TokenAccountant) (config : AdmissionConfig) (started : Time) :
    Prop where
  /-- Without further debits an agent's usage is what was saved from the later of two cutoffs on:
  the configured one now, and the saved one when the snapshot was read. -/
  usage : ∀ calls agentId now, (∀ e ∈ calls, e.1 ≤ now) → (∀ e ∈ calls, e.2.isDebit = false) →
    usageRestored config a.save started calls agentId now =
      since (savedEntries a.save agentId)
        (max (now - config.budgetWindowSeconds) (started - a.config.budgetWindowSeconds))
  /-- The saved cutoff does not matter while the configured window is no longer than the saved one
  and the time since the restart. -/
  kept : ∀ calls agentId now, (∀ e ∈ calls, e.1 ≤ now) → (∀ e ∈ calls, e.2.isDebit = false) →
    (config.budgetWindowSeconds : Time) ≤ a.config.budgetWindowSeconds + (now - started) →
    usageRestored config a.save started calls agentId now =
      since (savedEntries a.save agentId) (now - config.budgetWindowSeconds)
  /-- An agent that is not in the snapshot has used nothing. -/
  absent : ∀ calls agentId now, (∀ e ∈ calls, e.1 ≤ now) → (∀ e ∈ calls, e.2.isDebit = false) →
    a.save.get? agentId = none → usageRestored config a.save started calls agentId now = 0
  /-- Saving changes no answer of the accountant that is saved. -/
  saving : ∀ events, (history stepSaving a events).filterMap SavingAnswer.called? =
    history call a (events.filterMap SavingEvent.call?)

/-- **A snapshot under another window.** Whatever was saved, and whatever the old and the new
window and the time of the restart are, what is read later is what was saved and lies in both
windows. -/
theorem restore_keeps_both_windows (a : TokenAccountant) (configured : a.Configured)
    (config : AdmissionConfig) (started : Time) : RestoreLaws a config started := by
  have usage : ∀ calls agentId now, (∀ e ∈ calls, e.1 ≤ now) →
      (∀ e ∈ calls, e.2.isDebit = false) →
      usageRestored config a.save started calls agentId now =
        since (savedEntries a.save agentId)
          (max (now - config.budgetWindowSeconds) (started - a.config.budgetWindowSeconds)) := by
    intro calls agentId now earlier reads
    have restored : ((new config).restore (some a.save) started).Configured :=
      (configured_new config).restore (some a.save) started
    obtain ⟨still, same⟩ := restored.final calls
    have built : (final call ((new config).restore (some a.save) started) calls).config = config :=
      same.trans (config_restore _ _ _)
    have recent : now - ((new config).restore (some a.save) started).config.budgetWindowSeconds ≤
        now - config.budgetWindowSeconds := by
      rw [config_restore]
      exact le_rfl
    rw [usageRestored, tokensUsed_getUsage, (still agentId).2, built,
      restored.since_final earlier agentId recent, ledger_eq_nil_of_no_debit reads, since_nil,
      add_zero, since_restore_save configured]
  refine ⟨usage, ?_, ?_, answers_saving a⟩
  · intro calls agentId now earlier reads short
    rw [usage calls agentId now earlier reads, max_eq_left]
    linarith
  · intro calls agentId now earlier reads missing
    rw [usage calls agentId now earlier reads, savedEntries, missing]
    rfl

/-- The laws for a gateway that is started again with a shorter window. -/
theorem restore_keeps_both_windows_when_shortened :
    RestoreLaws debitedOnce { budgetWindowSeconds := 60 } 100000 :=
  restore_keeps_both_windows debitedOnce ((configured_new {}).debit "agent" 300 200 99990)
    { budgetWindowSeconds := 60 } 100000

/-- A debit of a gateway with a window of a minute. -/
def debitedInMinute : TokenAccountant :=
  (new { budgetWindowSeconds := 60 }).debit "agent" 300 200 0

/-- An entry that is older than the saved window is lost, although the configured one has become
an hour. -/
theorem longer_window_loses_usage :
    ¬ ∀ (a : TokenAccountant), a.Configured → ∀ (config : AdmissionConfig) (started now : Time),
      (∀ agentId, ∀ entry ∈ (a.stateOf agentId).entries, entry.1 ≤ started) → started ≤ now →
      ∀ agentId, usageRestored config a.save started [] agentId now =
        since (savedEntries a.save agentId) (now - config.budgetWindowSeconds) := by
  intro always
  have past : ∀ agentId, ∀ entry ∈ (debitedInMinute.stateOf agentId).entries,
      entry.1 ≤ (100 : Time) := by
    intro agentId entry member
    rw [debitedInMinute, debit, stateOf_setState] at member
    split at member
    · obtain rfl : entry = (0, 500) := List.mem_singleton.mp member
      decide +kernel
    · cases member
  have same := always debitedInMinute
    ((configured_new { budgetWindowSeconds := 60 }).debit "agent" 300 200 0)
    { budgetWindowSeconds := 3600 } 100 100 past le_rfl "agent"
  revert same
  decide +kernel

end TokenAccountant

end AgentServe
