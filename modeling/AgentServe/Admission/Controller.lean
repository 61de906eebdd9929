import AgentServe.Accounting.Accountant
import AgentServe.Admission.Queue
import AgentServe.Backends.Registry

/-!
# The admission controller

A request is admitted in three stages: its agent must have the budget for its
estimate, its tier must have a healthy backend, and it must get a slot of the
queue of its tier. The controller records the tier of every admitted session, and
a release gives back a slot of the tier recorded for its session, whatever tier
it is called with.

What a call does to the queue of each tier is what the queue does to its caller
(`gate_moves`, `resume_moves`), and no other queue changes.
-/

set_option autoImplicit false

namespace AgentServe

open Lib

/-- The capacity of a tier: the slots of its healthy backends, and at least one. -/
def totalInflight (registry : BackendRegistry) (tier : Tier) : ℕ :=
  (max ((registry.getHealthyBackends tier).map BackendInfo.maxInflight).sum 1).toNat

structure AdmissionController (ι : Type) where
  accountant : TokenAccountant
  registry : BackendRegistry
  queues : Dict Tier (BackpressureQueue ι)
  held : Dict String Tier
  budgetRejects : List String

/-- The clock readings of one call of `gate`. -/
structure GateClock where
  check : Time
  report : Time
  start : Time
  finish : Time
deriving DecidableEq

namespace AdmissionController

variable {ι : Type}

/-- The queue of a tier, built for the registry as it is. -/
def buildQueue (config : AdmissionConfig) (registry : BackendRegistry) (tier : Tier) :
    BackpressureQueue ι :=
  .new (totalInflight registry tier) config.maxQueueSize config.queueTimeoutSeconds tier.value

def new (config : AdmissionConfig) (accountant : TokenAccountant) (registry : BackendRegistry) :
    AdmissionController ι where
  accountant := accountant
  registry := registry
  queues := (Dict.empty.set .big (buildQueue config registry .big)).set .small
    (buildQueue config registry .small)
  held := .empty
  budgetRejects := []

def setQueue (c : AdmissionController ι) (tier : Tier) (q : BackpressureQueue ι) :
    AdmissionController ι :=
  { c with queues := c.queues.set tier q }

/-- Record the tier of a session whose request got a slot. -/
def recordHeld (c : AdmissionController ι) (session : SessionContext) (tier : Tier) :
    Caller → AdmissionController ι
  | .holding _ => { c with held := c.held.set session.sessionId tier }
  | _ => c

theorem queues_recordHeld (c : AdmissionController ι) (session : SessionContext) (tier : Tier)
    (caller : Caller) : (c.recordHeld session tier caller).queues = c.queues := by
  cases caller <;> rfl

@[simp] theorem accountant_recordHeld (c : AdmissionController ι) (session : SessionContext)
    (tier : Tier) (caller : Caller) :
    (c.recordHeld session tier caller).accountant = c.accountant := by
  cases caller <;> rfl

@[simp] theorem registry_recordHeld (c : AdmissionController ι) (session : SessionContext)
    (tier : Tier) (caller : Caller) : (c.recordHeld session tier caller).registry = c.registry := by
  cases caller <;> rfl

theorem held_recordHeld (c : AdmissionController ι) (session : SessionContext) (tier : Tier)
    (caller : Caller) (sid : String) :
    (c.recordHeld session tier caller).held.get? sid =
      if sid = session.sessionId ∧ caller.isHolding = true then some tier
      else c.held.get? sid := by
  cases caller with
  | holding wait => simp [recordHeld, Dict.get?_set]
  | inside start interrupted => simp [recordHeld]
  | raised error => simp [recordHeld]
  | released => simp [recordHeld]

variable [DecidableEq ι]

/-- The call of `gate` up to its first suspension. -/
def gate (c : AdmissionController ι) (k : ι) (session : SessionContext) (tier : Tier)
    (estimated : ℤ) (clock : GateClock) : AdmissionController ι × Caller :=
  let (accountant, ok) := c.accountant.checkBudget session.agentId estimated clock.check
  if !ok then
    let (accountant, usage) := accountant.getUsage session.agentId clock.report
    ({ c with accountant, budgetRejects := session.agentId :: c.budgetRejects },
      .raised (.exception (.budgetExceeded session.agentId usage.tokensUsed usage.budget)))
  else if (c.registry.getHealthyBackends tier).isEmpty then
    ({ c with accountant }, .raised (.exception (.backendUnavailable tier)))
  else
    match c.queues.get? tier with
    | none => ({ c with accountant }, .raised (.keyError tier))
    | some queue =>
      let (queue, caller) := queue.acquire k clock.start clock.finish
      (({ c with accountant }.setQueue tier queue).recordHeld session tier caller, caller)

/-- The rest of `gate` after a wake-up. -/
def resume (c : AdmissionController ι) (k : ι) (session : SessionContext) (tier : Tier)
    (start : Time) (interrupted : Option Interrupt) (finish : Time) :
    Option (AdmissionController ι × Caller) := do
  let queue ← c.queues.get? tier
  let (queue, caller) ← queue.resume k start interrupted finish
  return ((c.setQueue tier queue).recordHeld session tier caller, caller)

/-- An interruption of a request inside `gate`. -/
def interrupt (c : AdmissionController ι) (k : ι) (tier : Tier) : AdmissionController ι :=
  { c with queues := c.queues.modify tier fun queue => queue.interrupt k }

/-- Give back the slot recorded for a session. The tier of the call is not looked at. -/
def release (c : AdmissionController ι) (session : SessionContext) (_tier : Tier) :
    AdmissionController ι :=
  match c.held.get? session.sessionId with
  | none => c
  | some heldTier =>
    { c with
      held := c.held.erase session.sessionId
      queues := c.queues.modify heldTier BackpressureQueue.release }

/-- **The two ends of the first stretch of `gate`.** It raises before it gets to a queue, or it
goes through the queue of its tier. -/
theorem gate_cases {c d : AdmissionController ι} {k : ι} {session : SessionContext} {tier : Tier}
    {estimated : ℤ} {clock : GateClock} {caller : Caller}
    (gated : c.gate k session tier estimated clock = (d, caller)) :
    (d.queues = c.queues ∧ d.held = c.held ∧ ∃ error, caller = .raised error) ∨
      ∃ q r, c.queues.get? tier = some q ∧
        q.acquire k clock.start clock.finish = (r, caller) ∧
        d.queues = c.queues.set tier r ∧
        ∀ sid, d.held.get? sid =
          if sid = session.sessionId ∧ caller.isHolding = true then some tier
          else c.held.get? sid := by
  unfold gate at gated
  simp only at gated
  split at gated
  · cases gated
    exact .inl ⟨rfl, rfl, _, rfl⟩
  split at gated
  · cases gated
    exact .inl ⟨rfl, rfl, _, rfl⟩
  split at gated
  · cases gated
    exact .inl ⟨rfl, rfl, _, rfl⟩
  · rename_i q found
    cases gated
    exact .inr ⟨q, _, found, rfl, queues_recordHeld .., fun sid => held_recordHeld ..⟩

theorem resume_spec {c d : AdmissionController ι} {k : ι} {session : SessionContext}
    {tier : Tier} {start finish : Time} {interrupted : Option Interrupt} {caller : Caller}
    (resumed : c.resume k session tier start interrupted finish = some (d, caller)) :
    ∃ q r, c.queues.get? tier = some q ∧
      q.resume k start interrupted finish = some (r, caller) ∧
      d.queues = c.queues.set tier r ∧
      ∀ sid, d.held.get? sid =
        if sid = session.sessionId ∧ caller.isHolding = true then some tier
        else c.held.get? sid := by
  obtain ⟨q, found, rest⟩ := Option.bind_eq_some_iff.mp resumed
  obtain ⟨⟨r, caller'⟩, woke, rest⟩ := Option.bind_eq_some_iff.mp rest
  cases rest
  exact ⟨q, r, found, woke, queues_recordHeld .., fun sid => held_recordHeld ..⟩

/-- No stretch of `gate` gives a slot back. -/
theorem gate_ne_released {c d : AdmissionController ι} {k : ι} {session : SessionContext}
    {tier : Tier} {estimated : ℤ} {clock : GateClock} {caller : Caller}
    (gated : c.gate k session tier estimated clock = (d, caller)) : caller ≠ .released := by
  rcases gate_cases gated with ⟨_, _, error, rfl⟩ | ⟨q, r, _, acquired, _⟩
  · simp
  · exact BackpressureQueue.acquire_ne_released acquired

theorem resume_ne_released {c d : AdmissionController ι} {k : ι} {session : SessionContext}
    {tier : Tier} {start finish : Time} {interrupted : Option Interrupt} {caller : Caller}
    (resumed : c.resume k session tier start interrupted finish = some (d, caller)) :
    caller ≠ .released := by
  obtain ⟨_, _, _, woke, _⟩ := resume_spec resumed
  exact BackpressureQueue.resume_ne_released woke

/-- A session is recorded when its request gets a slot, and only then. -/
theorem held_gate {c d : AdmissionController ι} {k : ι} {session : SessionContext} {tier : Tier}
    {estimated : ℤ} {clock : GateClock} {caller : Caller}
    (gated : c.gate k session tier estimated clock = (d, caller)) (sid : String) :
    d.held.get? sid =
      if sid = session.sessionId ∧ caller.isHolding = true then some tier
      else c.held.get? sid := by
  rcases gate_cases gated with ⟨_, held, _, rfl⟩ | ⟨_, _, _, _, _, held⟩
  · simp [held]
  · exact held sid

/-- No call changes the registry the controller looks at. -/
theorem registry_gate {c d : AdmissionController ι} {k : ι} {session : SessionContext}
    {tier : Tier} {estimated : ℤ} {clock : GateClock} {caller : Caller}
    (gated : c.gate k session tier estimated clock = (d, caller)) : d.registry = c.registry := by
  unfold gate at gated
  simp only at gated
  repeat' split at gated
  all_goals
    cases gated
    simp [setQueue]

/-- The rest of `gate` looks at nothing but the queues and the record. -/
theorem frame_resume {c d : AdmissionController ι} {k : ι} {session : SessionContext}
    {tier : Tier} {start finish : Time} {interrupted : Option Interrupt} {caller : Caller}
    (resumed : c.resume k session tier start interrupted finish = some (d, caller)) :
    d.registry = c.registry ∧ d.accountant = c.accountant := by
  obtain ⟨q, _, rest⟩ := Option.bind_eq_some_iff.mp resumed
  obtain ⟨_, _, rest⟩ := Option.bind_eq_some_iff.mp rest
  cases rest
  exact ⟨registry_recordHeld .., accountant_recordHeld ..⟩

theorem frame_release (c : AdmissionController ι) (session : SessionContext) (tier : Tier) :
    (c.release session tier).registry = c.registry ∧
      (c.release session tier).accountant = c.accountant := by
  unfold release
  split <;> exact ⟨rfl, rfl⟩

/-! ## The accountant -/

/-- Asking for admission debits nobody. -/
theorem accountant_gate {c d : AdmissionController ι} {k : ι} {session : SessionContext}
    {tier : Tier} {estimated : ℤ} {clock : GateClock} {caller : Caller}
    (undebited : c.accountant.Undebited)
    (gated : c.gate k session tier estimated clock = (d, caller)) :
    d.accountant.Undebited ∧ d.accountant.config = c.accountant.config := by
  have asked := undebited.checkBudget session.agentId estimated clock.check
  unfold gate at gated
  simp only at gated
  split at gated
  · cases gated
    exact ⟨asked.getUsage session.agentId clock.report, rfl⟩
  · repeat' split at gated
    all_goals
      cases gated
      simpa [setQueue] using asked

/-- An estimate beyond the whole budget is rejected by an accountant that was never debited. -/
theorem gate_over_budget {c d : AdmissionController ι} {k : ι} {session : SessionContext}
    {tier : Tier} {estimated : ℤ} {clock : GateClock} {caller : Caller}
    (undebited : c.accountant.Undebited)
    (beyond : c.accountant.config.defaultTokenBudget < estimated)
    (gated : c.gate k session tier estimated clock = (d, caller)) :
    caller = .raised (.exception (.budgetExceeded session.agentId 0
      c.accountant.config.defaultTokenBudget)) := by
  have asked := undebited.checkBudget session.agentId estimated clock.check
  have refused : (c.accountant.checkBudget session.agentId estimated clock.check).2 = false := by
    rw [undebited.checkBudget_eq]
    simpa using beyond
  unfold gate at gated
  simp only [refused, asked.getUsage_eq, Bool.not_false, if_true] at gated
  cases gated
  rfl

end AdmissionController

end AgentServe
