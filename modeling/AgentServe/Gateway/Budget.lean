import AgentServe.Gateway.Steps
import AgentServe.Lib.Run

/-!
# Budgets in the pipeline

Replies report the tokens they used, the accountant keeps a window of tokens for
each agent, and `gate` asks the accountant. The code that forwards a call counts
the reported tokens in a metric and hands them to nobody: no step of the gateway
debits the accountant (`unspent_of_run`). So the budget of an agent is enforced
exactly while its replies in the window report nothing (`budget_enforced_iff`).
-/

set_option autoImplicit false

namespace AgentServe

open Lib

/-- The tokens reported by the reply of a request, if it is a call of the agent that was
completed between two times. -/
def Request.reported (r : Request) (agentId : String) (since now : Time) : ℚ :=
  match r.stage with
  | .over (.completed time result) =>
    if r.session.agentId = agentId ∧ since ≤ time ∧ time ≤ now then
      (reportTokens result).getD 0
    else 0
  | _ => 0

namespace Gateway

variable {ρ : Type}

/-- The tokens reported in the replies completed for an agent within the window. -/
def reportedTokens (g : Gateway ρ) (config : AdmissionConfig) (agentId : String) (now : Time) :
    ℚ :=
  (g.requests.values.map fun r =>
    r.reported agentId (now - config.budgetWindowSeconds) now).sum

/-- The usage the accountant reports. -/
def tokensUsed (g : Gateway ρ) (agentId : String) (now : Time) : ℤ :=
  (g.admission.controller.accountant.getUsage agentId now).2.tokensUsed

variable [DecidableEq ρ]

/-- The budget of an agent is enforced at a time: the accountant reports what the replies in the
window did, and a request that gets to `gate` is rejected if its estimate is more than they leave
of the budget. -/
structure BudgetEnforced (config : AdmissionConfig) (g : Gateway ρ) (agentId : String)
    (now : Time) : Prop where
  usage : (g.tokensUsed agentId now : ℚ) = g.reportedTokens config agentId now
  rejected : ∀ k input decision arrival made clock h,
    (buildSession input).agentId = agentId → clock.check = now →
    g.step (.arrive k input decision arrival made clock) = some h →
    (h.admission.tickets.get? k).isSome = true →
    (config.defaultTokenBudget : ℚ) < estimatedTokens input + g.reportedTokens config agentId now →
    ∃ r used budget, h.requests.get? k = some r ∧
      r.stage = .over (.rejected (.budgetExceeded agentId used budget))

/-- The accountant was never debited, and has the budgets of the configuration. -/
structure Unspent (config : AdmissionConfig) (g : Gateway ρ) : Prop where
  linked : g.Linked
  undebited : g.admission.controller.accountant.Undebited
  settings : g.admission.controller.accountant.config = config

/-- Step lemma: no step debits. -/
theorem unspent_step {config : AdmissionConfig} {g h : Gateway ρ} {e : GatewayEvent ρ}
    (unspent : g.Unspent config) (stepped : g.step e = some h) : h.Unspent config := by
  have does : g.Does e h := does_of_step stepped
  rcases admission_of_does unspent.linked does with same | ⟨a, fired, _, carries⟩
  · exact ⟨linked_of_does unspent.linked does, same ▸ unspent.undebited, same ▸ unspent.settings⟩
  · obtain ⟨undebited, settings⟩ := AdmissionSystem.undebited_step unspent.undebited
      carries.ne_debit fired
    exact ⟨linked_of_does unspent.linked does, undebited, settings.trans unspent.settings⟩

theorem unspent_new (config : GatewayConfig) :
    (new config : Gateway ρ).Unspent config.admission where
  linked := by
    intro k x ticket
    cases ticket
  undebited := TokenAccountant.undebited_new _
  settings := rfl

/-- **No run debits.** -/
theorem unspent_of_run {config : GatewayConfig} {events : List (GatewayEvent ρ)} {g : Gateway ρ}
    (ran : run step (new config) events = some g) : g.Unspent config.admission :=
  invariant_of_step (fun _ _ _ unspent stepped => unspent_step unspent stepped)
    (unspent_new config) ran

section Unspent

variable {config : AdmissionConfig} {g h : Gateway ρ} {k : ρ} {input : ChatInput}
  {decision : RoutingDecision} {arrival made : Time} {clock : GateClock}

omit [DecidableEq ρ] in
/-- Without debits the accountant reports no usage. -/
theorem tokensUsed_eq_zero (undebited : g.admission.controller.accountant.Undebited)
    (agentId : String) (now : Time) : g.tokensUsed agentId now = 0 := by
  rw [tokensUsed, undebited.getUsage_eq]

/-- Without debits `gate` rejects an estimate beyond the whole budget. -/
theorem Unspent.rejected (unspent : g.Unspent config)
    (stepped : g.step (.arrive k input decision arrival made clock) = some h)
    (reached : (h.admission.tickets.get? k).isSome = true)
    (beyond : config.defaultTokenBudget < estimatedTokens input) :
    ∃ r, h.requests.get? k = some r ∧
      r.stage = .over (.rejected (.budgetExceeded (buildSession input).agentId 0
        config.defaultTokenBudget)) := by
  cases does_of_step stepped with
  | refused fresh raised =>
      simp [unspent.linked.ticket_of_fresh fresh] at reached
  | arrived fresh selected gated tickets =>
      have does := AdmissionSystem.does_of_step gated
      cases does with
      | gate _ called =>
          have rejected := AdmissionController.gate_over_budget unspent.undebited
            (by rw [unspent.settings]; exact beyond) called
          have same := congrArg (·.get? k) tickets
          simp only [Dict.get?_set_self, Option.some.injEq, Ticket.mk.injEq, true_and] at same
          rw [unspent.settings] at rejected
          exact ⟨_, Dict.get?_set_self .., by rw [← same, rejected]; rfl⟩
  | moved found move => cases move
  | ended found ends => cases ends

end Unspent

/-- **When budgets are enforced.** In every run the budget of an agent is enforced at a time
exactly if the replies completed for the agent in the window then report no tokens. -/
theorem budget_enforced_iff (config : GatewayConfig) (events : List (GatewayEvent ρ))
    (g : Gateway ρ) (ran : run step (new config) events = some g) (agentId : String)
    (now : Time) :
    g.BudgetEnforced config.admission agentId now ↔
      g.reportedTokens config.admission agentId now = 0 := by
  have unspent : g.Unspent config.admission := unspent_of_run ran
  have unused : g.tokensUsed agentId now = 0 := tokensUsed_eq_zero unspent.undebited agentId now
  constructor
  · intro enforced
    rw [← enforced.usage, unused]
    rfl
  · intro nothing
    refine ⟨by rw [unused, nothing]; rfl, ?_⟩
    intro k input decision arrival made clock h agent _ stepped reached beyond
    rw [nothing, add_zero] at beyond
    obtain ⟨r, found, ended⟩ := unspent.rejected stepped reached (by exact_mod_cast beyond)
    exact ⟨r, _, _, found, agent ▸ ended⟩

/-! ## A reply that reports tokens -/

/-- A call whose reply reports fifteen tokens. -/
def fifteenTokens : List (GatewayEvent ℕ) := [
  .arrive 0 (hello "s" false) (greeted .big "big-0") 0 0 AdmissionSystem.atStart,
  .reply 0 (.obj [("usage", .obj [("prompt_tokens", .number 10),
    ("completion_tokens", .number 5)])]) 1]

/-- The accountant reports nothing for an agent whose call has used fifteen tokens. -/
theorem reply_is_not_debited :
    ¬ ∀ (config : GatewayConfig) (events : List (GatewayEvent ℕ)) (g : Gateway ℕ),
      run step (new config) events = some g →
      ∀ agentId now, g.BudgetEnforced config.admission agentId now := by
  intro always
  have counted : ((run step (new shippedConfig) fifteenTokens).map fun g =>
      (g.tokensUsed "anonymous" 2, g.reportedTokens shippedConfig.admission "anonymous" 2)) =
        some (0, 15) := by
    decide +kernel
  obtain ⟨g, ran, same⟩ := Option.map_eq_some_iff.mp counted
  have usage := (always shippedConfig fifteenTokens g ran "anonymous" 2).usage
  simp only [Prod.mk.injEq] at same
  rw [same.1, same.2] at usage
  exact absurd usage (by decide)

/-- The condition for an agent whose call has used fifteen tokens. -/
theorem budget_enforced_iff_after_reply :
    ∃ g : Gateway ℕ, run step (new shippedConfig) fifteenTokens = some g ∧
      (g.BudgetEnforced shippedConfig.admission "anonymous" 2 ↔
        g.reportedTokens shippedConfig.admission "anonymous" 2 = 0) := by
  obtain ⟨g, ran⟩ : ∃ g, run step (new shippedConfig) fifteenTokens = some g :=
    Option.isSome_iff_exists.mp (by decide +kernel)
  exact ⟨g, ran, budget_enforced_iff shippedConfig fifteenTokens g ran "anonymous" 2⟩

end Gateway

end AgentServe
