import AgentServe.Accounting.Window
import AgentServe.Lib.Python
import Mathlib.Tactic.Linarith

/-!
# Windows of unchecked entries

The entries of a window need not be what the accountant makes. Reading a snapshot keeps
every entry whose timestamp can be compared, whatever its tokens are. A timestamp may
then be infinite, and a sum of tokens may raise.

Such a window reads as a window of times and integers does exactly if its recent tokens
are integers, and, from every later time on, sum to what those of the other window do
(`ReadsAs`, `readsAs_of_answers`). Two accountants whose windows read alike answer all
later calls alike (`raw_answers`).
-/

set_option autoImplicit false

namespace AgentServe

open Lib

/-- A window whose tokens are any values. A timestamp is kept as the number it compares as. -/
structure RawWindow where
  budget : ℤ
  windowSeconds : ℤ
  entries : List (PyFloat × PyValue)

namespace RawWindow

def evictExpired (w : RawWindow) (now : Time) : RawWindow :=
  { w with entries := w.entries.filter fun e => (PyFloat.finite (now - w.windowSeconds)).le e.1 }

/-- The usage, after the eviction. The window is evicted even if the sum raises. -/
def currentUsage (w : RawWindow) (now : Time) : RawWindow × Except PyError PyValue :=
  let w := w.evictExpired now
  (w, PyData.sum (w.entries.map Prod.snd))

def add (w : RawWindow) (tokens : ℤ) (now : Time) : RawWindow :=
  let w := w.evictExpired now
  { w with entries := w.entries ++ [(.finite now, .int tokens)] }

def hasBudget (w : RawWindow) (estimated : ℤ) (now : Time) : RawWindow × Except PyError Bool :=
  let (w, usage) := w.currentUsage now
  (w, do
    let used ← usage
    let total ← used.add (.int estimated)
    let number ← total.number
    return number.le (.finite w.budget))

end RawWindow

/-- A window of times and integers, as an unchecked one. -/
def rawEntries (entries : List (Time × ℤ)) : List (PyFloat × PyValue) :=
  entries.map fun e => (.finite e.1, .int e.2)

def WindowState.raw (w : WindowState) : RawWindow :=
  ⟨w.budget, w.windowSeconds, rawEntries w.entries⟩

/-- What an accountant of unchecked windows answers. -/
inductive RawAnswer where
  | debited
  | checked (ok : Bool)
  | usage (agentId : String) (tokensUsed : PyValue) (budget windowSeconds : ℤ)

/-- An answer with an integer of tokens. -/
def AccountantAnswer.raw : AccountantAnswer → RawAnswer
  | .debited => .debited
  | .checked ok => .checked ok
  | .usage u => .usage u.agentId (.int u.tokensUsed) u.budget u.windowSeconds

structure RawAccountant where
  config : AdmissionConfig
  states : Dict String RawWindow

namespace RawAccountant

/-- The window of an agent that was not asked about before. -/
def fresh (a : RawAccountant) : RawWindow :=
  ⟨a.config.defaultTokenBudget, a.config.budgetWindowSeconds, []⟩

def stateOf (a : RawAccountant) (agentId : String) : RawWindow :=
  (a.states.get? agentId).getD a.fresh

def setState (a : RawAccountant) (agentId : String) (w : RawWindow) : RawAccountant :=
  { a with states := a.states.set agentId w }

/-- Carry out a call, with one reading of the clock. -/
def call (a : RawAccountant) (e : Time × AccountantCall) :
    RawAccountant × Except PyError RawAnswer :=
  match e.2 with
  | .debit agentId input output =>
    (a.setState agentId ((a.stateOf agentId).add (input + output) e.1), .ok .debited)
  | .checkBudget agentId estimated =>
    let (w, ok) := (a.stateOf agentId).hasBudget estimated e.1
    (a.setState agentId w, ok.map .checked)
  | .getUsage agentId =>
    let state := a.stateOf agentId
    let (w, used) := state.currentUsage e.1
    (a.setState agentId w,
      used.map fun tokens => .usage agentId tokens state.budget state.windowSeconds)

theorem stateOf_setState (a : RawAccountant) (agentId : String) (w : RawWindow) (j : String) :
    (a.setState agentId w).stateOf j = if j = agentId then w else a.stateOf j := by
  simp only [stateOf, setState, Dict.get?_set]
  split
  · rfl
  · rfl

end RawAccountant

/-- An accountant, as one of unchecked windows. -/
def TokenAccountant.raw (a : TokenAccountant) : RawAccountant :=
  ⟨a.config, a.states.map fun _ w => w.raw⟩

theorem TokenAccountant.stateOf_raw (a : TokenAccountant) (agentId : String) :
    a.raw.stateOf agentId = (a.stateOf agentId).raw := by
  simp only [RawAccountant.stateOf, TokenAccountant.raw, stateOf, Dict.get?_map]
  cases a.states.get? agentId with
  | none => rfl
  | some w => rfl

/-! ## Readings -/

/-- The entries from a time on. -/
def rawFrom (entries : List (PyFloat × PyValue)) (start : Time) : List (PyFloat × PyValue) :=
  entries.filter fun e => (PyFloat.finite start).le e.1

/-- The integers among the tokens entered from a time on, together. -/
def rawSince (entries : List (PyFloat × PyValue)) (start : Time) : ℤ :=
  ((rawFrom entries start).map fun e => e.2.asInt?.getD 0).sum

/-- From a cutoff on, unchecked entries are integers and sum to what other entries do. -/
structure ReadsAs (cutoff : Time) (entries : List (Time × ℤ)) (raw : List (PyFloat × PyValue)) :
    Prop where
  integers : ∀ e ∈ rawFrom raw cutoff, e.2.asInt?.isSome = true
  same : ∀ x, cutoff ≤ x → rawSince raw x = since entries x

section Readings

variable {cutoff later : Time} {entries : List (Time × ℤ)} {raw : List (PyFloat × PyValue)}

theorem mem_rawFrom_of_le (order : cutoff ≤ later) {e : PyFloat × PyValue}
    (member : e ∈ rawFrom raw later) : e ∈ rawFrom raw cutoff := by
  obtain ⟨inside, recent⟩ := List.mem_filter.mp member
  exact List.mem_filter.mpr ⟨inside, PyFloat.le_of_le order recent⟩

theorem ReadsAs.mono (reads : ReadsAs cutoff entries raw) (order : cutoff ≤ later) :
    ReadsAs later entries raw :=
  ⟨fun e member => reads.integers e (mem_rawFrom_of_le order member),
    fun x recent => reads.same x (order.trans recent)⟩

/-- What is evicted does not count later. -/
theorem rawFrom_rawFrom (order : cutoff ≤ later) :
    rawFrom (rawFrom raw cutoff) later = rawFrom raw later := by
  rw [rawFrom, rawFrom, List.filter_filter]
  apply List.filter_congr
  intro e _
  by_cases recent : (PyFloat.finite later).le e.1 = true
  · simp [recent, PyFloat.le_of_le order recent]
  · simp [recent]

theorem ReadsAs.evict (reads : ReadsAs cutoff entries raw) :
    ReadsAs cutoff (entries.filter fun e => e.1 ≥ cutoff) (rawFrom raw cutoff) where
  integers := by
    rw [rawFrom_rawFrom le_rfl]
    exact reads.integers
  same := by
    intro x recent
    rw [rawSince, rawFrom_rawFrom recent, ← rawSince, reads.same x recent]
    exact (since_filter entries recent).symm

/-- The sum of a window that reads as another one. -/
theorem ReadsAs.sum (reads : ReadsAs cutoff entries raw) :
    PyData.sum ((rawFrom raw cutoff).map Prod.snd) = .ok (.int (since entries cutoff)) := by
  rw [PyData.sum_eq_int_iff, ← reads.same cutoff le_rfl, rawSince, List.map_map]
  refine ⟨?_, rfl⟩
  intro v member
  obtain ⟨e, inside, rfl⟩ := List.mem_map.mp member
  exact reads.integers e inside

/-- A window whose sum is an integer has integers only. -/
theorem rawSince_of_sum {total : ℤ}
    (summed : PyData.sum ((rawFrom raw cutoff).map Prod.snd) = .ok (.int total)) :
    (∀ e ∈ rawFrom raw cutoff, e.2.asInt?.isSome = true) ∧ rawSince raw cutoff = total := by
  obtain ⟨integers, sum⟩ := PyData.sum_eq_int_iff.mp summed
  refine ⟨fun e member => integers e.2 (List.mem_map_of_mem member), ?_⟩
  rw [sum, rawSince, List.map_map]
  rfl

theorem ReadsAs.append (reads : ReadsAs cutoff entries raw) (now : Time) (tokens : ℤ) :
    ReadsAs cutoff (entries ++ [(now, tokens)]) (raw ++ [(.finite now, .int tokens)]) where
  integers := by
    intro e member
    rw [rawFrom, List.filter_append] at member
    rcases List.mem_append.mp member with old | new
    · exact reads.integers e old
    · rw [List.mem_singleton.mp (List.mem_of_mem_filter new)]
      rfl
  same := by
    intro x recent
    rw [since_append, since_singleton, ← reads.same x recent, rawSince, rawFrom,
      List.filter_append, List.map_append, List.sum_append]
    by_cases counts : x ≤ now
    · simp [rawSince, rawFrom, PyFloat.le, counts, PyData.asInt?]
    · simp [rawSince, rawFrom, PyFloat.le, counts]

theorem rawFrom_rawEntries (entries : List (Time × ℤ)) (start : Time) :
    rawFrom (rawEntries entries) start = rawEntries (entries.filter fun e => start ≤ e.1) := by
  rw [rawFrom, rawEntries, List.filter_map]
  rfl

/-- Checked entries read as themselves. -/
theorem readsAs_rawEntries (cutoff : Time) (entries : List (Time × ℤ)) :
    ReadsAs cutoff entries (rawEntries entries) where
  integers := by
    intro e member
    rw [rawFrom_rawEntries] at member
    obtain ⟨_, _, rfl⟩ := List.mem_map.mp member
    rfl
  same := by
    intro x _
    rw [rawSince, rawFrom_rawEntries, rawEntries, List.map_map]
    rfl

end Readings

/-! ## Windows and accountants that read alike -/

/-- From a time on, an unchecked window reads as a window. -/
structure WindowState.RawAlike (now : Time) (w : WindowState) (v : RawWindow) : Prop where
  budget : v.budget = w.budget
  windowSeconds : v.windowSeconds = w.windowSeconds
  reads : ReadsAs (now - w.windowSeconds) w.entries v.entries

namespace WindowState

variable {now later : Time} {w : WindowState} {v : RawWindow}

theorem rawAlike_raw (now : Time) (w : WindowState) : w.RawAlike now w.raw :=
  ⟨rfl, rfl, readsAs_rawEntries _ _⟩

theorem RawAlike.mono (alike : w.RawAlike now v) (order : now ≤ later) : w.RawAlike later v :=
  ⟨alike.budget, alike.windowSeconds, alike.reads.mono (sub_le_sub_right order _)⟩

theorem RawAlike.evictExpired (alike : w.RawAlike now v) :
    (w.evictExpired now).RawAlike now (v.evictExpired now) := by
  refine ⟨alike.budget, alike.windowSeconds, ?_⟩
  have evicted := alike.reads.evict
  simp only [WindowState.evictExpired, RawWindow.evictExpired, alike.windowSeconds]
  exact evicted

theorem RawAlike.usage (alike : w.RawAlike now v) :
    (v.currentUsage now).2 = .ok (.int (w.currentUsage now).2) := by
  have summed := alike.reads.sum
  simp only [RawWindow.currentUsage, RawWindow.evictExpired, alike.windowSeconds]
  exact summed

theorem RawAlike.add (alike : w.RawAlike now v) (tokens : ℤ) :
    (w.add tokens now).RawAlike now (v.add tokens now) :=
  ⟨alike.budget, alike.windowSeconds, alike.evictExpired.reads.append now tokens⟩

theorem RawAlike.hasBudget (alike : w.RawAlike now v) (estimated : ℤ) :
    (v.hasBudget estimated now).2 = .ok (w.hasBudget estimated now).2 := by
  have added : (PyData.int (w.currentUsage now).2).add (.int estimated) =
      .ok (.int ((w.currentUsage now).2 + estimated)) := PyData.add_int_of_asInt? rfl
  have compared : PyFloat.le (.finite ((w.currentUsage now).2 + estimated : ℤ))
      (.finite v.budget) = decide ((w.currentUsage now).2 + estimated ≤ w.budget) := by
    rw [PyFloat.le, alike.budget]
    exact decide_eq_decide.mpr Int.cast_le
  unfold RawWindow.hasBudget
  simp only [alike.usage]
  refine bind_eq_ok_iff.mpr ⟨_, rfl, bind_eq_ok_iff.mpr ⟨_, added, ?_⟩⟩
  exact congrArg Except.ok compared

end WindowState

namespace TokenAccountant

/-- From a time on, the windows of an accountant of unchecked windows read as those of another
accountant. -/
def RawAlike (now : Time) (a : TokenAccountant) (b : RawAccountant) : Prop :=
  ∀ agentId, (a.stateOf agentId).RawAlike now (b.stateOf agentId)

variable {now later : Time} {a : TokenAccountant} {b : RawAccountant}

theorem rawAlike_raw (now : Time) (a : TokenAccountant) : RawAlike now a a.raw := by
  intro agentId
  rw [stateOf_raw]
  exact (a.stateOf agentId).rawAlike_raw now

theorem RawAlike.mono (alike : RawAlike now a b) (order : now ≤ later) : RawAlike later a b :=
  fun agentId => (alike agentId).mono order

theorem RawAlike.setState (alike : RawAlike now a b) (agentId : String) {w : WindowState}
    {v : RawWindow} (windows : w.RawAlike now v) :
    RawAlike now (a.setState agentId w) (b.setState agentId v) := by
  intro other
  rw [stateOf_setState, RawAccountant.stateOf_setState]
  split
  · exact windows
  · exact alike other

/-- Step lemma: accountants that read alike answer a call alike, and go on reading alike. -/
theorem rawAlike_call (alike : RawAlike now a b) (e : Time × AccountantCall) (order : now ≤ e.1) :
    (b.call e).2 = .ok (a.call e).2.raw ∧ RawAlike e.1 (a.call e).1 (b.call e).1 := by
  obtain ⟨time, operation⟩ := e
  have still : RawAlike time a b := alike.mono order
  cases operation with
  | debit agentId input output =>
      exact ⟨rfl, still.setState agentId ((still agentId).add (input + output))⟩
  | checkBudget agentId estimated =>
      refine ⟨?_, still.setState agentId (still agentId).evictExpired⟩
      simp only [RawAccountant.call, (still agentId).hasBudget]
      rfl
  | getUsage agentId =>
      refine ⟨?_, still.setState agentId (still agentId).evictExpired⟩
      simp only [RawAccountant.call, (still agentId).usage, (still agentId).budget,
        (still agentId).windowSeconds]
      rfl

/-- All later calls have the answers that another accountant gives. -/
def Unnoticed (now : Time) (a : TokenAccountant) (b : RawAccountant) : Prop :=
  ∀ calls : List (Time × AccountantCall), (now :: calls.map Prod.fst).IsChain (· ≤ ·) →
    history RawAccountant.call b calls =
      (history call a calls).map fun answered => (answered.1, .ok answered.2.raw)

/-- Run lemma: accountants that read alike answer all later calls alike. -/
theorem raw_answers (alike : RawAlike now a b) : Unnoticed now a b := by
  intro calls ordered
  induction calls generalizing now a b with
  | nil => rfl
  | cons e rest ih =>
      obtain ⟨order, later⟩ := List.isChain_cons_cons.mp ordered
      obtain ⟨answer, still⟩ := rawAlike_call alike e order
      simp only [history, List.map_cons, answer, ih still later]

/-- Reports at all later times tell windows apart that do not read alike. -/
theorem readsAs_of_answers (unnoticed : Unnoticed now a b) (agentId : String)
    (length : (b.stateOf agentId).windowSeconds = (a.stateOf agentId).windowSeconds) :
    ReadsAs (now - (a.stateOf agentId).windowSeconds) (a.stateOf agentId).entries
      (b.stateOf agentId).entries := by
  have read : ∀ x, now - (a.stateOf agentId).windowSeconds ≤ x →
      PyData.sum ((rawFrom (b.stateOf agentId).entries x).map Prod.snd) =
        .ok (.int (since (a.stateOf agentId).entries x)) := by
    intro x recent
    have same := unnoticed [(x + (a.stateOf agentId).windowSeconds, .getUsage agentId)]
      (List.isChain_cons_cons.mpr ⟨by linarith, .singleton _⟩)
    have answer := congrArg Prod.snd (List.cons.inj same).1
    simp only [RawAccountant.call, RawWindow.currentUsage, RawWindow.evictExpired, length,
      add_sub_cancel_right, call, getUsage, AccountantAnswer.raw] at answer
    have report := tokensUsed_getUsage a agentId (x + (a.stateOf agentId).windowSeconds)
    rw [add_sub_cancel_right] at report
    rw [rawFrom, ← report]
    revert answer
    cases PyData.sum _ with
    | error e =>
        intro answer
        cases answer
    | ok used =>
        intro answer
        simp only [Except.map, Except.ok.injEq, RawAnswer.usage.injEq] at answer
        exact congrArg Except.ok answer.2.1
  refine ⟨?_, fun x recent => (rawSince_of_sum (read x recent)).2⟩
  exact (rawSince_of_sum (read _ le_rfl)).1

/-- **What cannot be noticed.** An accountant of unchecked windows with the same budgets and lengths
answers all later calls like another one exactly if all of its windows read alike. -/
theorem unnoticed_iff
    (settings : ∀ agentId, (b.stateOf agentId).budget = (a.stateOf agentId).budget ∧
      (b.stateOf agentId).windowSeconds = (a.stateOf agentId).windowSeconds) :
    Unnoticed now a b ↔ ∀ agentId, ReadsAs (now - (a.stateOf agentId).windowSeconds)
      (a.stateOf agentId).entries (b.stateOf agentId).entries := by
  constructor
  · exact fun unnoticed agentId => readsAs_of_answers unnoticed agentId (settings agentId).2
  · intro reads
    exact raw_answers fun agentId => ⟨(settings agentId).1, (settings agentId).2, reads agentId⟩

end TokenAccountant

end AgentServe
