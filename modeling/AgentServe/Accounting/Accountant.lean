import AgentServe.Config.Models
import AgentServe.Lib.Dict
import AgentServe.Lib.Ledger
import Mathlib.Algebra.Order.Ring.Rat
import Mathlib.Algebra.BigOperators.Group.List.Basic

/-!
# The token accountant

Every agent has a sliding window of the tokens debited to it. Reading the usage
of a window drops the entries that are too old, so reads change the windows too
(`currentUsage`). A window is made when its agent is first asked about.

An accountant that was never debited has only empty windows, however often it was
read (`Undebited.checkBudget`, `Undebited.getUsage`). It admits every estimate
within the budget and no other (`Undebited.checkBudget_eq`).
-/

set_option autoImplicit false

namespace AgentServe

open Lib

/-- The window of one agent: the tokens debited, with the time of each debit. -/
structure WindowState where
  budget : ℤ
  windowSeconds : ℤ
  entries : List (Time × ℤ) := []
deriving DecidableEq

namespace WindowState

def evictExpired (w : WindowState) (now : Time) : WindowState :=
  { w with entries := w.entries.filter fun e => e.1 ≥ now - w.windowSeconds }

def currentUsage (w : WindowState) (now : Time) : WindowState × ℤ :=
  let w := w.evictExpired now
  (w, (w.entries.map Prod.snd).sum)

def add (w : WindowState) (tokens : ℤ) (now : Time) : WindowState :=
  let w := w.evictExpired now
  { w with entries := w.entries ++ [(now, tokens)] }

def hasBudget (w : WindowState) (estimated : ℤ) (now : Time) : WindowState × Bool :=
  let (w, used) := w.currentUsage now
  (w, used + estimated ≤ w.budget)

end WindowState

/-- The report on an agent. -/
structure Usage where
  agentId : String
  tokensUsed : ℤ
  budget : ℤ
  windowSeconds : ℤ
deriving DecidableEq, Repr

structure TokenAccountant where
  config : AdmissionConfig
  states : Dict String WindowState

namespace TokenAccountant

def new (config : AdmissionConfig) : TokenAccountant := ⟨config, .empty⟩

/-- The window of an agent that was not asked about before. -/
def fresh (a : TokenAccountant) : WindowState where
  budget := a.config.defaultTokenBudget
  windowSeconds := a.config.budgetWindowSeconds

def stateOf (a : TokenAccountant) (agentId : String) : WindowState :=
  (a.states.get? agentId).getD a.fresh

def setState (a : TokenAccountant) (agentId : String) (w : WindowState) : TokenAccountant :=
  { a with states := a.states.set agentId w }

def checkBudget (a : TokenAccountant) (agentId : String) (estimated : ℤ) (now : Time) :
    TokenAccountant × Bool :=
  let (w, ok) := (a.stateOf agentId).hasBudget estimated now
  (a.setState agentId w, ok)

def debit (a : TokenAccountant) (agentId : String) (input output : ℤ) (now : Time) :
    TokenAccountant :=
  a.setState agentId ((a.stateOf agentId).add (input + output) now)

def getUsage (a : TokenAccountant) (agentId : String) (now : Time) : TokenAccountant × Usage :=
  let state := a.stateOf agentId
  let (w, used) := state.currentUsage now
  (a.setState agentId w, ⟨agentId, used, state.budget, state.windowSeconds⟩)

theorem stateOf_setState (a : TokenAccountant) (agentId : String) (w : WindowState)
    (j : String) :
    (a.setState agentId w).stateOf j = if j = agentId then w else a.stateOf j := by
  simp only [stateOf, setState, Dict.get?_set]
  split
  · rfl
  · rfl

/-- What an agent's window reads is its ledger from one window ago on. -/
theorem tokensUsed_getUsage (a : TokenAccountant) (agentId : String) (now : Time) :
    (a.getUsage agentId now).2.tokensUsed =
      since (a.stateOf agentId).entries (now - (a.stateOf agentId).windowSeconds) := rfl

/-! ## Windows as configured -/

/-- Every window has the configured budget and length. -/
def Configured (a : TokenAccountant) : Prop :=
  ∀ agentId, (a.stateOf agentId).budget = a.config.defaultTokenBudget ∧
    (a.stateOf agentId).windowSeconds = a.config.budgetWindowSeconds

theorem configured_new (config : AdmissionConfig) : (new config).Configured :=
  fun _ => ⟨rfl, rfl⟩

/-- A window is replaced by one of the same budget and length. -/
theorem Configured.setState {a : TokenAccountant} (configured : a.Configured) (agentId : String)
    {w : WindowState} (budget : w.budget = (a.stateOf agentId).budget)
    (length : w.windowSeconds = (a.stateOf agentId).windowSeconds) :
    (a.setState agentId w).Configured := by
  intro j
  rw [stateOf_setState]
  split
  · exact ⟨budget.trans (configured agentId).1, length.trans (configured agentId).2⟩
  · exact configured j

theorem Configured.checkBudget {a : TokenAccountant} (configured : a.Configured)
    (agentId : String) (estimated : ℤ) (now : Time) :
    (a.checkBudget agentId estimated now).1.Configured :=
  configured.setState agentId rfl rfl

theorem Configured.debit {a : TokenAccountant} (configured : a.Configured) (agentId : String)
    (input output : ℤ) (now : Time) : (a.debit agentId input output now).Configured :=
  configured.setState agentId rfl rfl

theorem Configured.getUsage {a : TokenAccountant} (configured : a.Configured) (agentId : String)
    (now : Time) : (a.getUsage agentId now).1.Configured :=
  configured.setState agentId rfl rfl

/-! ## Accountants without debits -/

/-- All windows are as they were made. -/
def Undebited (a : TokenAccountant) : Prop := ∀ agentId, a.stateOf agentId = a.fresh

theorem undebited_new (config : AdmissionConfig) : (new config).Undebited := fun _ => rfl

@[simp] theorem currentUsage_fresh (a : TokenAccountant) (now : Time) :
    a.fresh.currentUsage now = (a.fresh, 0) := rfl

@[simp] theorem hasBudget_fresh (a : TokenAccountant) (estimated : ℤ) (now : Time) :
    a.fresh.hasBudget estimated now =
      (a.fresh, decide (estimated ≤ a.config.defaultTokenBudget)) := by
  rw [WindowState.hasBudget, currentUsage_fresh]
  simp [fresh]

theorem Undebited.setState_fresh {a : TokenAccountant} (undebited : a.Undebited)
    (agentId : String) : (a.setState agentId a.fresh).Undebited := by
  intro j
  rw [stateOf_setState]
  split
  · rfl
  · exact undebited j

/-- Asking for a budget leaves an undebited accountant undebited, and the answer is whether the
estimate alone is within the budget. -/
theorem Undebited.checkBudget_eq {a : TokenAccountant} (undebited : a.Undebited)
    (agentId : String) (estimated : ℤ) (now : Time) :
    a.checkBudget agentId estimated now =
      (a.setState agentId a.fresh, decide (estimated ≤ a.config.defaultTokenBudget)) := by
  rw [checkBudget, undebited agentId, hasBudget_fresh]

/-- An undebited accountant reports no usage. -/
theorem Undebited.getUsage_eq {a : TokenAccountant} (undebited : a.Undebited)
    (agentId : String) (now : Time) :
    a.getUsage agentId now =
      (a.setState agentId a.fresh, ⟨agentId, 0, a.config.defaultTokenBudget,
        a.config.budgetWindowSeconds⟩) := by
  rw [getUsage, undebited agentId, currentUsage_fresh]
  rfl

theorem Undebited.checkBudget {a : TokenAccountant} (undebited : a.Undebited)
    (agentId : String) (estimated : ℤ) (now : Time) :
    (a.checkBudget agentId estimated now).1.Undebited := by
  rw [undebited.checkBudget_eq]
  exact undebited.setState_fresh agentId

theorem Undebited.getUsage {a : TokenAccountant} (undebited : a.Undebited)
    (agentId : String) (now : Time) : (a.getUsage agentId now).1.Undebited := by
  rw [undebited.getUsage_eq]
  exact undebited.setState_fresh agentId

@[simp] theorem config_checkBudget (a : TokenAccountant) (agentId : String) (estimated : ℤ)
    (now : Time) : (a.checkBudget agentId estimated now).1.config = a.config := rfl

end TokenAccountant

end AgentServe
