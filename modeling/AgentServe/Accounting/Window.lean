import AgentServe.Accounting.Accountant
import AgentServe.Lib.Run

/-!
# The window and the ledger

Every call on the accountant evicts from the window it looks at, reads included. What is
evicted is too old for every later call, so the answers are those of a ledger that
keeps every debit (`window_is_ledger`). They depend on nothing but the debits of the
agent.

Two accountants that differ only in entries that are too old are told apart by no later
call (`Alike`, `alike_call`, `answers_of_alike`).

The difference of a time and the length of the window is exact here. The program
subtracts floats, which may round the edge of the window by a last digit.
-/

set_option autoImplicit false

namespace AgentServe

open Lib

/-- A call on the accountant. -/
inductive AccountantCall where
  | debit (agentId : String) (input output : ℤ)
  | checkBudget (agentId : String) (estimated : ℤ)
  | getUsage (agentId : String)

inductive AccountantAnswer where
  | debited
  | checked (ok : Bool)
  | usage (usage : Usage)
deriving DecidableEq

/-- What a call enters in the ledger of an agent. -/
def AccountantCall.entry? (agentId : String) : Time × AccountantCall → Option (Time × ℤ)
  | (now, .debit other input output) => if other = agentId then some (now, input + output) else none
  | _ => none

/-- All debits of an agent, with their times. -/
def ledger (agentId : String) (calls : List (Time × AccountantCall)) : List (Time × ℤ) :=
  calls.filterMap (AccountantCall.entry? agentId)

/-- The tokens debited to an agent between two times, both included. -/
def debitedBetween (first last : Time) (agentId : String)
    (calls : List (Time × AccountantCall)) : ℤ :=
  (((ledger agentId calls).filter fun e => first ≤ e.1 ∧ e.1 ≤ last).map Prod.snd).sum

namespace WindowState

/-- From a time on, two windows cannot be told apart. -/
structure Alike (now : Time) (w v : WindowState) : Prop where
  budget : v.budget = w.budget
  windowSeconds : v.windowSeconds = w.windowSeconds
  entries : ∀ x, now - w.windowSeconds ≤ x → since v.entries x = since w.entries x

section Alike

variable {now later : Time} {w v : WindowState}

theorem Alike.refl (now : Time) (w : WindowState) : Alike now w w := ⟨rfl, rfl, fun _ _ => rfl⟩

theorem Alike.trans {u : WindowState} (first : Alike now w v) (second : Alike now v u) :
    Alike now w u where
  budget := second.budget.trans first.budget
  windowSeconds := second.windowSeconds.trans first.windowSeconds
  entries := by
    intro x recent
    rw [second.entries x (first.windowSeconds ▸ recent), first.entries x recent]

theorem Alike.symm (alike : Alike now w v) : Alike now v w where
  budget := alike.budget.symm
  windowSeconds := alike.windowSeconds.symm
  entries := fun x recent => (alike.entries x (alike.windowSeconds ▸ recent)).symm

theorem Alike.mono (alike : Alike now w v) (order : now ≤ later) : Alike later w v :=
  ⟨alike.budget, alike.windowSeconds,
    fun x recent => alike.entries x ((sub_le_sub_right order _).trans recent)⟩

/-- What is evicted is too old for every later reading. -/
theorem alike_evictExpired (w : WindowState) (now : Time) : Alike now w (w.evictExpired now) :=
  ⟨rfl, rfl, fun _ recent => since_filter _ recent⟩

/-- Windows that are alike read the same usage. -/
theorem Alike.usage (alike : Alike now w v) : (v.currentUsage now).2 = (w.currentUsage now).2 := by
  have same := alike.entries (now - w.windowSeconds) le_rfl
  rw [← alike.windowSeconds] at same
  exact same.trans (by rw [alike.windowSeconds]; rfl)

theorem Alike.currentUsage (alike : Alike now w v) :
    Alike now (w.currentUsage now).1 (v.currentUsage now).1 :=
  ((alike_evictExpired w now).symm.trans alike).trans (alike_evictExpired v now)

theorem Alike.add (alike : Alike now w v) (tokens : ℤ) :
    Alike now (w.add tokens now) (v.add tokens now) where
  budget := alike.budget
  windowSeconds := alike.windowSeconds
  entries := by
    intro x recent
    have kept := alike.currentUsage.entries x recent
    simp only [WindowState.add, since_append]
    exact congrArg (· + _) kept

theorem Alike.hasBudget (alike : Alike now w v) (estimated : ℤ) :
    (v.hasBudget estimated now).2 = (w.hasBudget estimated now).2 := by
  have budget : (v.currentUsage now).1.budget = (w.currentUsage now).1.budget := alike.budget
  simp only [WindowState.hasBudget, alike.usage, budget]

end Alike

end WindowState

namespace TokenAccountant

/-- Carry out a call, with one reading of the clock. -/
def call (a : TokenAccountant) (e : Time × AccountantCall) : TokenAccountant × AccountantAnswer :=
  match e.2 with
  | .debit agentId input output => (a.debit agentId input output e.1, .debited)
  | .checkBudget agentId estimated =>
    let (next, ok) := a.checkBudget agentId estimated e.1
    (next, .checked ok)
  | .getUsage agentId =>
    let (next, usage) := a.getUsage agentId e.1
    (next, .usage usage)

/-! ## The ledger -/

theorem configured_call {a : TokenAccountant} (configured : a.Configured)
    (e : Time × AccountantCall) : (a.call e).1.Configured := by
  obtain ⟨now, operation⟩ := e
  cases operation with
  | debit agentId input output => exact configured.debit agentId input output now
  | checkBudget agentId estimated => exact configured.checkBudget agentId estimated now
  | getUsage agentId => exact configured.getUsage agentId now

theorem config_call (a : TokenAccountant) (e : Time × AccountantCall) :
    (a.call e).1.config = a.config := by
  obtain ⟨now, operation⟩ := e
  cases operation <;> rfl

/-- After calls every window still has the configured budget and length. -/
theorem Configured.final {a : TokenAccountant} (configured : a.Configured)
    (calls : List (Time × AccountantCall)) :
    (final call a calls).Configured ∧ (final call a calls).config = a.config :=
  history_invariant (P := fun _ b => b.Configured ∧ b.config = a.config)
    (fun _ b e ⟨configured, same⟩ => ⟨configured_call configured e, (config_call b e).trans same⟩)
    ⟨configured, rfl⟩ calls

/-- Step lemma: a call enters its tokens, and evicts nothing that a later reading looks at. -/
theorem since_call (a : TokenAccountant) (e : Time × AccountantCall) (agentId : String)
    {oldest : Time} (recent : e.1 - (a.stateOf agentId).windowSeconds ≤ oldest) :
    since ((a.call e).1.stateOf agentId).entries oldest =
      since (a.stateOf agentId).entries oldest + since (ledger agentId [e]) oldest := by
  obtain ⟨now, operation⟩ := e
  have read : since ((a.stateOf agentId).evictExpired now).entries oldest =
      since (a.stateOf agentId).entries oldest := since_filter _ recent
  cases operation with
  | debit other input output =>
      simp only [call, debit, stateOf_setState, ledger, List.filterMap_cons, List.filterMap_nil,
        AccountantCall.entry?]
      by_cases own : other = agentId
      · subst own
        simp only [if_true, WindowState.add, since_append, read]
      · have differ : agentId ≠ other := fun same => own same.symm
        simp [own, differ]
  | checkBudget other estimated =>
      simp only [call, checkBudget, stateOf_setState, ledger, List.filterMap_cons,
        List.filterMap_nil, AccountantCall.entry?, since_nil, add_zero]
      split
      · rename_i own
        subst own
        exact read
      · rfl
  | getUsage other =>
      simp only [call, getUsage, stateOf_setState, ledger, List.filterMap_cons,
        List.filterMap_nil, AccountantCall.entry?, since_nil, add_zero]
      split
      · rename_i own
        subst own
        exact read
      · rfl

/-- Run lemma: seen from a time that no call is later than, calls add an agent's ledger to its
window. -/
theorem Configured.since_final {a : TokenAccountant} (configured : a.Configured)
    {calls : List (Time × AccountantCall)} {now : Time} (earlier : ∀ e ∈ calls, e.1 ≤ now)
    (agentId : String) {oldest : Time} (recent : now - a.config.budgetWindowSeconds ≤ oldest) :
    since ((Lib.final call a calls).stateOf agentId).entries oldest =
      since (a.stateOf agentId).entries oldest + since (ledger agentId calls) oldest := by
  induction calls using List.reverseRecOn with
  | nil => exact (add_zero _).symm
  | append_singleton first e ih =>
      have before := ih fun e' member => earlier e' (List.mem_append_left _ member)
      have length : ((Lib.final call a first).stateOf agentId).windowSeconds =
          a.config.budgetWindowSeconds := by
        obtain ⟨still, same⟩ := configured.final first
        rw [(still agentId).2, same]
      have last :
          e.1 - ((Lib.final call a first).stateOf agentId).windowSeconds ≤ oldest := by
        rw [length]
        exact (sub_le_sub_right (earlier e (by simp)) _).trans recent
      rw [final_concat, since_call _ e agentId last, before, add_assoc, ← since_append]
      simp [ledger, List.filterMap_append]

/-- No entry of a ledger is later than the calls. -/
theorem ledger_le {calls : List (Time × AccountantCall)} {now : Time}
    (earlier : ∀ e ∈ calls, e.1 ≤ now) {agentId : String} {entry : Time × ℤ}
    (member : entry ∈ ledger agentId calls) : entry.1 ≤ now := by
  obtain ⟨⟨time, operation⟩, inside, entered⟩ := List.mem_filterMap.mp member
  cases operation with
  | debit other input output =>
      simp only [AccountantCall.entry?] at entered
      split at entered
      · cases entered
        exact earlier _ inside
      · cases entered
  | checkBudget => cases entered
  | getUsage => cases entered

/-- What was debited from a time on is what was debited between that time and now. -/
theorem since_ledger {calls : List (Time × AccountantCall)} {now : Time}
    (earlier : ∀ e ∈ calls, e.1 ≤ now) (agentId : String) (oldest : Time) :
    since (ledger agentId calls) oldest = debitedBetween oldest now agentId calls := by
  unfold since debitedBetween
  apply congrArg fun kept => (List.map Prod.snd kept).sum
  apply List.filter_congr
  intro entry member
  simp [ledger_le earlier member]

/-- The report on an agent, from its ledger. -/
theorem getUsage_final (config : AdmissionConfig) {calls : List (Time × AccountantCall)}
    {now : Time} (earlier : ∀ e ∈ calls, e.1 ≤ now) (agentId : String) :
    ((final call (new config) calls).getUsage agentId now).2 =
      ⟨agentId, debitedBetween (now - config.budgetWindowSeconds) now agentId calls,
        config.defaultTokenBudget, config.budgetWindowSeconds⟩ := by
  obtain ⟨configured, same⟩ := (configured_new config).final calls
  obtain ⟨budget, length⟩ := configured agentId
  have built : (final call (new config) calls).config = config := same
  rw [built] at budget length
  have entered : since ((final call (new config) calls).stateOf agentId).entries
      (now - config.budgetWindowSeconds) =
        0 + since (ledger agentId calls) (now - config.budgetWindowSeconds) :=
    (configured_new config).since_final earlier agentId le_rfl
  have used := tokensUsed_getUsage (final call (new config) calls) agentId now
  rw [length, entered, zero_add, since_ledger earlier] at used
  rw [← used, ← budget, ← length]
  rfl

/-- The answer to a check, from the ledger. -/
theorem checkBudget_final (config : AdmissionConfig) {calls : List (Time × AccountantCall)}
    {now : Time} (earlier : ∀ e ∈ calls, e.1 ≤ now) (agentId : String) (estimated : ℤ) :
    ((final call (new config) calls).checkBudget agentId estimated now).2 =
      decide (debitedBetween (now - config.budgetWindowSeconds) now agentId calls + estimated ≤
        config.defaultTokenBudget) := by
  have report := getUsage_final config earlier agentId
  have used := congrArg Usage.tokensUsed report
  have budget := congrArg Usage.budget report
  simp only [getUsage] at used budget
  simp only [checkBudget, WindowState.hasBudget, used]
  rw [← budget]
  rfl

/-- **The window is a ledger.** After any calls, none of them later than now, the usage of an
agent is the sum of what was debited to it in the window that ends now, and a check succeeds
exactly if the estimate fits in the budget on top of that. Whatever other calls there were, with
the same debits of the agent the answers are the same. -/
theorem window_is_ledger (config : AdmissionConfig) (calls : List (Time × AccountantCall))
    (now : Time) (earlier : ∀ e ∈ calls, e.1 ≤ now) (agentId : String) :
    ((final call (new config) calls).getUsage agentId now).2.tokensUsed =
        debitedBetween (now - config.budgetWindowSeconds) now agentId calls ∧
      (∀ estimated, ((final call (new config) calls).checkBudget agentId estimated now).2 = true ↔
        debitedBetween (now - config.budgetWindowSeconds) now agentId calls + estimated ≤
          config.defaultTokenBudget) ∧
      ∀ others : List (Time × AccountantCall), (∀ e ∈ others, e.1 ≤ now) →
        ledger agentId others = ledger agentId calls →
        ((final call (new config) others).getUsage agentId now).2 =
            ((final call (new config) calls).getUsage agentId now).2 ∧
          ∀ estimated, ((final call (new config) others).checkBudget agentId estimated now).2 =
            ((final call (new config) calls).checkBudget agentId estimated now).2 := by
  refine ⟨by rw [getUsage_final config earlier], fun estimated => ?_, fun others past same => ?_⟩
  · rw [checkBudget_final config earlier, decide_eq_true_iff]
  · have sums : debitedBetween (now - config.budgetWindowSeconds) now agentId others =
        debitedBetween (now - config.budgetWindowSeconds) now agentId calls := by
      rw [debitedBetween, same, debitedBetween]
    refine ⟨?_, fun estimated => ?_⟩
    · rw [getUsage_final config past, getUsage_final config earlier, sums]
    · rw [checkBudget_final config past, checkBudget_final config earlier, sums]

/-! ## Accountants that are alike -/

/-- From a time on, no window of two accountants can be told apart. -/
def Alike (now : Time) (a b : TokenAccountant) : Prop :=
  ∀ agentId, (a.stateOf agentId).Alike now (b.stateOf agentId)

section Alike

variable {now later : Time} {a b : TokenAccountant}

theorem Alike.refl (now : Time) (a : TokenAccountant) : Alike now a a := fun _ => .refl now _

theorem Alike.trans {c : TokenAccountant} (first : Alike now a b) (second : Alike now b c) :
    Alike now a c := fun agentId => (first agentId).trans (second agentId)

theorem Alike.mono (alike : Alike now a b) (order : now ≤ later) : Alike later a b :=
  fun agentId => (alike agentId).mono order

theorem Alike.setState (alike : Alike now a b) (agentId : String) {w v : WindowState}
    (windows : w.Alike now v) : Alike now (a.setState agentId w) (b.setState agentId v) := by
  intro other
  rw [stateOf_setState, stateOf_setState]
  split
  · exact windows
  · exact alike other

/-- A window is replaced by one that is alike. -/
theorem alike_setState (a : TokenAccountant) (agentId : String) {w : WindowState}
    (windows : (a.stateOf agentId).Alike now w) : Alike now a (a.setState agentId w) := by
  intro other
  rw [stateOf_setState]
  split
  · rename_i own
    exact own ▸ windows
  · exact .refl now _

/-- A check cannot be noticed afterwards, and a report cannot either. -/
theorem alike_checkBudget (a : TokenAccountant) (agentId : String) (estimated : ℤ) (now : Time) :
    Alike now a (a.checkBudget agentId estimated now).1 :=
  alike_setState a agentId (WindowState.alike_evictExpired _ now)

theorem alike_getUsage (a : TokenAccountant) (agentId : String) (now : Time) :
    Alike now a (a.getUsage agentId now).1 :=
  alike_setState a agentId (WindowState.alike_evictExpired _ now)

/-- Step lemma: accountants that are alike answer a call alike, and stay alike. -/
theorem alike_call (alike : Alike now a b) (e : Time × AccountantCall) (order : now ≤ e.1) :
    (b.call e).2 = (a.call e).2 ∧ Alike e.1 (a.call e).1 (b.call e).1 := by
  obtain ⟨time, operation⟩ := e
  have still : Alike time a b := alike.mono order
  cases operation with
  | debit agentId input output =>
      exact ⟨rfl, still.setState agentId ((still agentId).add (input + output))⟩
  | checkBudget agentId estimated =>
      refine ⟨?_, still.setState agentId (still agentId).currentUsage⟩
      exact congrArg AccountantAnswer.checked ((still agentId).hasBudget estimated)
  | getUsage agentId =>
      refine ⟨?_, still.setState agentId (still agentId).currentUsage⟩
      simp only [call, getUsage, (still agentId).usage, (still agentId).budget,
        (still agentId).windowSeconds]

/-- Run lemma: accountants that are alike answer all later calls alike. -/
theorem answers_of_alike (alike : Alike now a b) {calls : List (Time × AccountantCall)}
    (ordered : (now :: calls.map Prod.fst).IsChain (· ≤ ·)) :
    history call b calls = history call a calls := by
  induction calls generalizing now a b with
  | nil => rfl
  | cons e rest ih =>
      obtain ⟨order, later⟩ := List.isChain_cons_cons.mp ordered
      obtain ⟨answer, still⟩ := alike_call alike e order
      simp only [history, answer, ih still later]

end Alike

/-! ## Two agents -/

/-- Debits of two agents, with a check of the first one in between. -/
def twoAgents : List (Time × AccountantCall) := [
  (0, .debit "a" 40 20), (10, .debit "b" 5 5), (70, .checkBudget "a" 100), (80, .debit "a" 1 2)]

/-- The window and the ledger of an agent whose first debit was evicted. -/
theorem window_is_ledger_of_two_agents :
    ((final call (new { budgetWindowSeconds := 60 }) twoAgents).getUsage "a" 90).2.tokensUsed =
      debitedBetween 30 90 "a" twoAgents := by
  have reads := (window_is_ledger { budgetWindowSeconds := 60 } twoAgents 90 (by decide +kernel)
    "a").1
  have start : (90 : Time) - ((60 : ℤ) : Time) = 30 := by norm_num
  rwa [start] at reads

end TokenAccountant

end AgentServe
