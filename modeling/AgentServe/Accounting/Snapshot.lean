import AgentServe.Accounting.Accountant
import AgentServe.Lib.Ledger
import Mathlib.Algebra.Order.Group.MinMax
import Mathlib.Tactic.Linarith

/-!
# Snapshots of the accountant

The snapshot manager writes the windows of the accountant to a file and, when the
gateway starts again, reads them back into a fresh accountant. The entries keep the
readings of the monotonic clock they were made with, and restoring drops those that
are too old by the clock of the new process.

So the new process measures the age of an entry with a clock that may have another
origin. What it reads from then on is the tokens of the entries that are still in
their window exactly if the new clock continues the old one, or there is nothing
left to read (`restart_keeps_usage_iff`).
-/

set_option autoImplicit false

namespace AgentServe

open Lib

/-- The window of one agent in a snapshot. -/
structure SavedWindow where
  entries : List (Time × ℤ)
  budget : ℤ
  windowSeconds : ℤ
deriving DecidableEq

/-- The content of a snapshot file. -/
abbrev Snapshot := Dict String SavedWindow

namespace TokenAccountant

/-- Write the windows as they are. Nothing is evicted. -/
def save (a : TokenAccountant) : Snapshot :=
  a.states.map fun _ w => ⟨w.entries, w.budget, w.windowSeconds⟩

/-- Read one saved window: its recent entries replace those of the agent's window. -/
def restoreOne (now : Time) (a : TokenAccountant) (e : String × SavedWindow) : TokenAccountant :=
  a.setState e.1 { a.stateOf e.1 with
    entries := e.2.entries.filter fun entry => entry.1 ≥ now - e.2.windowSeconds }

/-- Read a snapshot file, if there is one. -/
def restore (a : TokenAccountant) (file : Option Snapshot) (now : Time) : TokenAccountant :=
  match file with
  | none => a
  | some data => data.items.foldl (restoreOne now) a

/-! ## Reading after a restart -/

theorem Configured.restore {a : TokenAccountant} (configured : a.Configured)
    (file : Option Snapshot) (now : Time) : (a.restore file now).Configured := by
  cases file with
  | none => exact configured
  | some data =>
      unfold TokenAccountant.restore
      simp only
      induction data.items generalizing a with
      | nil => exact configured
      | cons e rest ih => exact ih (configured.setState e.1 rfl rfl)

/-- A window after a saved one was read into it. -/
def restored (now : Time) (w : WindowState) (saved : Option SavedWindow) : WindowState :=
  match saved with
  | some saved =>
    { w with entries := saved.entries.filter fun entry => entry.1 ≥ now - saved.windowSeconds }
  | none => w

theorem stateOf_foldl_restoreOne (now : Time) {l : List (String × SavedWindow)}
    (distinct : (l.map Prod.fst).Nodup) (a : TokenAccountant) (agentId : String) :
    (l.foldl (restoreOne now) a).stateOf agentId =
      restored now (a.stateOf agentId) ((l.find? fun e => e.1 = agentId).map Prod.snd) := by
  induction l generalizing a with
  | nil => rfl
  | cons e rest ih =>
      obtain ⟨fresh, others⟩ := List.nodup_cons.mp distinct
      rw [List.foldl_cons, ih others]
      by_cases own : e.1 = agentId
      · subst own
        have missing : (rest.find? fun e' => e'.1 = e.1) = none := by
          apply List.find?_eq_none.mpr
          intro e' member
          have differ : e'.1 ≠ e.1 := fun same => fresh (same ▸ List.mem_map_of_mem member)
          simpa using differ
        rw [missing, List.find?_cons_of_pos (by simp), restoreOne, stateOf_setState, if_pos rfl]
        rfl
      · have kept : (restoreOne now a e).stateOf agentId = a.stateOf agentId := by
          rw [restoreOne, stateOf_setState, if_neg fun same => own same.symm]
        rw [List.find?_cons_of_neg (by simpa using own), kept]

/-- The window of an agent after reading a snapshot. -/
theorem stateOf_restore (a : TokenAccountant) (data : Snapshot) (now : Time) (agentId : String) :
    (a.restore (some data) now).stateOf agentId =
      restored now (a.stateOf agentId) (data.get? agentId) :=
  stateOf_foldl_restoreOne now data.nodup a agentId

/-- **Restoring is evicting.** A fresh accountant that reads what another one saved has the other's
windows without the entries that are too old by the present clock. -/
theorem stateOf_restore_save {a : TokenAccountant} (configured : a.Configured) (now : Time)
    (agentId : String) :
    ((new a.config).restore (some a.save) now).stateOf agentId =
      (a.stateOf agentId).evictExpired now := by
  obtain ⟨budget, length⟩ := configured agentId
  rw [stateOf_restore, save, Dict.get?_map]
  unfold stateOf at budget length ⊢
  cases found : a.states.get? agentId with
  | none => rfl
  | some w =>
      rw [found, Option.getD_some] at budget length
      simp only [Option.map_some, restored, Option.getD_some, WindowState.evictExpired, budget,
        length]
      rfl

/-! ## Usage after a restart -/

/-- Read usages, each of an agent at a time. -/
def readAll (a : TokenAccountant) (reads : List (String × Time)) : TokenAccountant :=
  reads.foldl (fun a read => (a.getUsage read.1 read.2).1) a

/-- What a gateway that was started again reads: the usage of an agent, `later` seconds after the
snapshot was read, when the clock of the new process showed `started`, and after other reads. -/
def usageAfterRestart (a : TokenAccountant) (reads : List (String × Time)) (agentId : String)
    (started later : Time) : ℤ :=
  ((((new a.config).restore (some a.save) started).readAll reads).getUsage agentId
    (started + later)).2.tokensUsed

/-- The usage that is left of a saved accountant: the tokens of the entries of an agent whose age is
within the window. The accountant was saved when its clock showed `saved`, and `down` and then
`later` seconds have passed since. -/
def usageLeft (a : TokenAccountant) (agentId : String) (saved down later : Time) : ℤ :=
  (((a.stateOf agentId).entries.filter fun entry =>
    (saved - entry.1) + down + later ≤ a.config.budgetWindowSeconds).map Prod.snd).sum

/-- Reads that look further back leave what a later one reads, and the length of the window. -/
theorem since_readAll {reads : List (String × Time)} {now : Time}
    (earlier : ∀ read ∈ reads, read.2 ≤ now) (a : TokenAccountant) (agentId : String) :
    ((a.readAll reads).stateOf agentId).windowSeconds = (a.stateOf agentId).windowSeconds ∧
      since ((a.readAll reads).stateOf agentId).entries
          (now - (a.stateOf agentId).windowSeconds) =
        since (a.stateOf agentId).entries (now - (a.stateOf agentId).windowSeconds) := by
  induction reads generalizing a with
  | nil => exact ⟨rfl, rfl⟩
  | cons read rest ih =>
      have one : ((a.getUsage read.1 read.2).1.stateOf agentId).windowSeconds =
            (a.stateOf agentId).windowSeconds ∧
          since ((a.getUsage read.1 read.2).1.stateOf agentId).entries
              (now - (a.stateOf agentId).windowSeconds) =
            since (a.stateOf agentId).entries (now - (a.stateOf agentId).windowSeconds) := by
        simp only [getUsage, stateOf_setState]
        split
        · rename_i own
          subst own
          exact ⟨rfl, since_filter _ (sub_le_sub_right (earlier read List.mem_cons_self) _)⟩
        · exact ⟨rfl, rfl⟩
      obtain ⟨length, entries⟩ :=
        ih (fun read inside => earlier read (List.mem_cons_of_mem _ inside))
          (a.getUsage read.1 read.2).1
      rw [one.1] at length entries
      exact ⟨length, entries.trans one.2⟩

/-- After a restart an agent reads its saved ledger, with the clock of the new process. -/
theorem usageAfterRestart_eq {a : TokenAccountant} (configured : a.Configured)
    {reads : List (String × Time)} {started later : Time} (passed : 0 ≤ later)
    (earlier : ∀ read ∈ reads, read.2 ≤ started + later) (agentId : String) :
    a.usageAfterRestart reads agentId started later =
      since (a.stateOf agentId).entries (started - a.config.budgetWindowSeconds + later) := by
  obtain ⟨length, entries⟩ :=
    since_readAll earlier ((new a.config).restore (some a.save) started) agentId
  rw [stateOf_restore_save configured] at length entries
  have window : ((a.stateOf agentId).evictExpired started).windowSeconds =
      a.config.budgetWindowSeconds := (configured agentId).2
  rw [window] at length entries
  have cutoff : started + later - a.config.budgetWindowSeconds =
      started - a.config.budgetWindowSeconds + later := by ring
  rw [usageAfterRestart, tokensUsed_getUsage, length, entries, cutoff, WindowState.evictExpired,
    (configured agentId).2]
  exact since_filter _ (le_add_of_nonneg_right passed)

theorem usageLeft_eq (a : TokenAccountant) (agentId : String) (saved down later : Time) :
    a.usageLeft agentId saved down later =
      since (a.stateOf agentId).entries (saved + down - a.config.budgetWindowSeconds + later) := by
  unfold usageLeft since
  apply congrArg fun kept => (List.map Prod.snd kept).sum
  apply List.filter_congr
  intro entry _
  have same : (saved - entry.1) + down + later ≤ a.config.budgetWindowSeconds ↔
      saved + down - a.config.budgetWindowSeconds + later ≤ entry.1 := by
    constructor <;> intro within <;> linarith
  simpa using same

/-- **When a restart keeps the budgets.** From then on the gateway reads of every agent exactly the
usage that is left of what was saved, if and only if the clock of the new process continues that of
the old one, or the agents have nothing left to read on either clock. -/
theorem restart_keeps_usage_iff (a : TokenAccountant) (configured : a.Configured)
    (saved down started : Time) :
    (∀ reads agentId later, 0 ≤ later → (∀ read ∈ reads, read.2 ≤ started + later) →
        a.usageAfterRestart reads agentId started later = a.usageLeft agentId saved down later) ↔
      started = saved + down ∨
        ∀ agentId oldest, min started (saved + down) - a.config.budgetWindowSeconds ≤ oldest →
          since (a.stateOf agentId).entries oldest = 0 := by
  have each : ∀ agentId,
      (∀ later, 0 ≤ later → since (a.stateOf agentId).entries
          (started - a.config.budgetWindowSeconds + later) =
        since (a.stateOf agentId).entries
          (saved + down - a.config.budgetWindowSeconds + later)) ↔
      started = saved + down ∨
        ∀ oldest, min started (saved + down) - a.config.budgetWindowSeconds ≤ oldest →
          since (a.stateOf agentId).entries oldest = 0 := by
    intro agentId
    rw [since_shift_iff, sub_left_inj, min_sub_sub_right]
  rw [← forall_or_left]
  constructor
  · intro keeps agentId
    apply (each agentId).mp
    intro later passed
    have reading := keeps [] agentId later passed (by simp)
    rwa [usageAfterRestart_eq configured passed (by simp), usageLeft_eq] at reading
  · intro condition reads agentId later passed earlier
    rw [usageAfterRestart_eq configured passed earlier, usageLeft_eq]
    exact (each agentId).mpr (condition agentId) later passed

/-! ## A restart after a reboot -/

/-- An accountant that was debited once. -/
def debitedOnce : TokenAccountant := (new {}).debit "agent" 300 200 99990

/-- The host was up for a hundred thousand seconds before it was booted again. An hour and a half
later the agent is still charged with tokens whose window has passed. -/
theorem reboot_keeps_old_usage :
    ¬ ∀ (a : TokenAccountant), a.Configured → ∀ (saved down started : Time), 0 ≤ down →
      (∀ agentId, ∀ entry ∈ (a.stateOf agentId).entries, entry.1 ≤ saved) →
      ∀ agentId later, 0 ≤ later →
        a.usageAfterRestart [] agentId started later = a.usageLeft agentId saved down later := by
  intro always
  have configured : debitedOnce.Configured := (configured_new {}).debit "agent" 300 200 99990
  have past : ∀ agentId, ∀ entry ∈ (debitedOnce.stateOf agentId).entries, entry.1 ≤ 100000 := by
    intro agentId entry member
    rw [debitedOnce, debit, stateOf_setState] at member
    split at member
    · obtain rfl : entry = (99990, 500) := List.mem_singleton.mp member
      decide +kernel
    · cases member
  have same := always debitedOnce configured 100000 60 30 (by decide) past "agent" 5400 (by decide)
  revert same
  decide +kernel

/-- The condition for a gateway that is started again on the same host. -/
theorem restart_keeps_usage_iff_on_one_clock :
    (∀ reads agentId later, 0 ≤ later → (∀ read ∈ reads, read.2 ≤ (100060 : Time) + later) →
        debitedOnce.usageAfterRestart reads agentId 100060 later =
          debitedOnce.usageLeft agentId 100000 60 later) ↔
      (100060 : Time) = 100000 + 60 ∨
        ∀ agentId oldest, min (100060 : Time) (100000 + 60) -
            debitedOnce.config.budgetWindowSeconds ≤ oldest →
          since (debitedOnce.stateOf agentId).entries oldest = 0 :=
  restart_keeps_usage_iff debitedOnce ((configured_new {}).debit "agent" 300 200 99990) 100000 60
    100060

end TokenAccountant

end AgentServe
