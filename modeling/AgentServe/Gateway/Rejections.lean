import AgentServe.Gateway.Steps
import AgentServe.Lib.Run

/-!
# Affinity and rejected requests

A request takes its turn at the affinity scheduler before it gets to `gate`. So every
request that has reached `gate` has been counted as a hit or as a miss, and its session
is bound to the backend of the turn (`Turned`, `allTurned_step`). What `gate` decides comes
too late: a request that it rejects has never left the scheduler as it was
(`rejection_counts_turn`).
-/

set_option autoImplicit false

namespace AgentServe

open Lib

namespace AffinityScheduler

/-- A turn that is answered is counted. -/
theorem counted_of_answer {s t : AffinityScheduler} {session : SessionContext} {tier : Tier}
    {candidates : List BackendInfo} {now made : Time} {b : BackendInfo} {hit : Bool}
    (answered : s.selectBackend session tier candidates now made = (t, .ok (b, hit))) :
    t.hits tier + t.misses tier = s.hits tier + s.misses tier + 1 := by
  have hits := hits_selectBackend s session tier candidates now made
  have misses := misses_selectBackend s session tier candidates now made
  rw [answered] at hits misses
  cases hit with
  | true =>
      simp only at hits misses
      rw [hits, misses, inc, if_pos rfl]
      omega
  | false =>
      simp only at hits misses
      rw [hits, misses, inc, if_pos rfl]
      omega

end AffinityScheduler

namespace Gateway

variable {ρ : Type}

/-- The sticky table and the counters of hits and misses are as they were. -/
structure KeepsAffinity (g h : Gateway ρ) : Prop where
  sticky : h.affinity.sticky = g.affinity.sticky
  hits : h.affinity.hits = g.affinity.hits
  misses : h.affinity.misses = g.affinity.misses

variable [DecidableEq ρ]

/-- `gate` raised an exception of the gateway for a request. -/
def RejectedByGate (g : Gateway ρ) (k : ρ) (e : GatewayException) : Prop :=
  ∃ session tier, g.admission.tickets.get? k = some ⟨session, tier, .raised (.exception e)⟩

/-- A step of a request leaves affinity untouched. -/
def OwnStepKeepsAffinity (k : ρ) (g : Gateway ρ) (e : GatewayEvent ρ) : Prop :=
  ∀ sid h, g.actor e = some (k, sid) → g.step e = some h → KeepsAffinity g h

/-- A request took an answered turn when it arrived, one that counted as a hit or a miss. -/
def Turned (config : GatewayConfig) (past : List (GatewayEvent ρ)) (k : ρ) : Prop :=
  ∃ front input decision now made clock since m n b hit,
    past = front ++ .arrive k input decision now made clock :: since ∧
      run step (new config) front = some m ∧
      m.step (.arrive k input decision now made clock) = some n ∧
      m.affinity.selectBackend (buildSession input) decision.tier
        (m.registry.getHealthyBackends decision.tier) now made = (n.affinity, .ok (b, hit))

/-- A request that is at `gate` was there before, or arrives with an answered turn. -/
theorem turn_of_does {g h : Gateway ρ} {e : GatewayEvent ρ} (does : g.Does e h) {k : ρ} {x : Ticket}
    (ticket : h.admission.tickets.get? k = some x) :
    (∃ y, g.admission.tickets.get? k = some y) ∨
      ∃ input decision now made clock b hit, e = .arrive k input decision now made clock ∧
        g.affinity.selectBackend (buildSession input) decision.tier
          (g.registry.getHealthyBackends decision.tier) now made = (h.affinity, .ok (b, hit)) := by
  have kept : ∀ {d : Dict ρ Ticket} {j : ρ} {y y' : Ticket}, d.get? j = some y →
      (d.set j y').get? k = some x → ∃ y, d.get? k = some y := by
    intro d j y y' found after
    rw [Dict.get?_set] at after
    split at after
    · rename_i own
      exact ⟨y, own ▸ found⟩
    · exact ⟨x, after⟩
  cases does with
  | refused => exact .inl ⟨x, ticket⟩
  | arrived fresh selected gated tickets =>
      simp only [tickets, Dict.get?_set] at ticket
      split at ticket
      · rename_i own
        subst own
        exact .inr ⟨_, _, _, _, _, _, _, rfl, selected⟩
      · exact .inl ⟨x, ticket⟩
  | interrupted found waiting inside stepped tickets =>
      exact .inl (kept inside (tickets ▸ ticket))
  | resumed found waiting bound inside woke tickets =>
      exact .inl (kept inside (tickets ▸ ticket))
  | moved => exact .inl ⟨x, ticket⟩
  | ended found ends holds released tickets => exact .inl (kept holds (tickets ▸ ticket))
  | status marked tickets => exact .inl ⟨x, tickets ▸ ticket⟩

/-- What holds of every reachable state: it is the end of its run, and every request at `gate` has
taken its turn. -/
structure AllTurned (config : GatewayConfig) (past : List (GatewayEvent ρ)) (g : Gateway ρ) :
    Prop where
  ran : run step (new config) past = some g
  turned : ∀ k x, g.admission.tickets.get? k = some x → Turned config past k

/-- Step lemma: nobody reaches `gate` without a turn. -/
theorem allTurned_step {config : GatewayConfig} {past : List (GatewayEvent ρ)} {g h : Gateway ρ}
    {e : GatewayEvent ρ} (all : AllTurned config past g) (stepped : g.step e = some h) :
    AllTurned config (past ++ [e]) h := by
  refine ⟨run_concat_eq_some.mpr ⟨g, all.ran, stepped⟩, ?_⟩
  intro k x ticket
  rcases turn_of_does (does_of_step stepped) ticket with
    ⟨y, before⟩ | ⟨input, decision, now, made, clock, b, hit, rfl, answered⟩
  · obtain ⟨front, input, decision, now, made, clock, since, m, n, b, hit, split, turn⟩ :=
      all.turned k y before
    refine ⟨front, input, decision, now, made, clock, since ++ [e], m, n, b, hit, ?_, turn⟩
    rw [split, List.append_assoc, List.cons_append]
  · exact ⟨past, input, decision, now, made, clock, [], g, h, b, hit, rfl, all.ran, stepped,
      answered⟩

theorem allTurned_run {config : GatewayConfig} {events : List (GatewayEvent ρ)} {g : Gateway ρ}
    (ran : run step (new config) events = some g) : AllTurned config events g :=
  past_invariant (fun _ _ _ _ all stepped => allTurned_step all stepped)
    ⟨rfl, fun _ _ ticket => by cases ticket⟩ ran

/-- **A rejection comes after the turn.** Whatever `gate` rejects a request for, the request's own
steps have not left the sticky table and the counters of hits and misses as they were: it was
counted as a hit or as a miss when it arrived. -/
theorem rejection_counts_turn (config : GatewayConfig) (events : List (GatewayEvent ρ))
    (g : Gateway ρ) (ran : run step (new config) events = some g) (k : ρ) (e : GatewayException)
    (rejected : RejectedByGate g k e) :
    ¬ EveryStep step (new config) events (OwnStepKeepsAffinity k) := by
  intro untouched
  obtain ⟨session, tier, ticket⟩ := rejected
  obtain ⟨front, input, decision, now, made, clock, since, m, n, b, hit, split, before, stepped,
    answered⟩ := (allTurned_run ran).turned k _ ticket
  have counted := AffinityScheduler.counted_of_answer answered
  have kept := untouched front _ since m split before (buildSession input).sessionId n rfl stepped
  rw [kept.hits, kept.misses] at counted
  omega

/-! ## A request over its budget -/

/-- The shipped backends, with a budget that no request is within. -/
def tinyBudget : GatewayConfig := { shippedConfig with admission := { defaultTokenBudget := 10 } }

/-- One request, over its budget. -/
def overBudget : List (GatewayEvent ℕ) := [
  .arrive 0 (hello "s" false) (greeted .big "big-0") 0 0 AdmissionSystem.atStart]

theorem rejected_overBudget :
    ∃ g : Gateway ℕ, run step (new tinyBudget) overBudget = some g ∧
      RejectedByGate g 0 (.budgetExceeded "anonymous" 0 10) := by
  have rejected : ((run step (new tinyBudget) overBudget).map fun g =>
      (g.admission.tickets.get? 0).map Ticket.caller) =
      some (some (.raised (.exception (.budgetExceeded "anonymous" 0 10)))) := by
    decide +kernel
  obtain ⟨g, ran, shown⟩ := Option.map_eq_some_iff.mp rejected
  obtain ⟨⟨session, tier, caller⟩, ticket, rfl⟩ := Option.map_eq_some_iff.mp shown
  exact ⟨g, ran, session, tier, ticket⟩

/-- A request that is rejected at once is counted as a miss. -/
theorem rejected_request_counts :
    ¬ ∀ (config : GatewayConfig) (events : List (GatewayEvent ℕ)) (g : Gateway ℕ),
      run step (new config) events = some g → ∀ k e, RejectedByGate g k e →
        EveryStep step (new config) events (OwnStepKeepsAffinity k) := by
  intro always
  have counted : ((run step (new tinyBudget) overBudget).map fun g => g.affinity.misses .big) =
      some 1 := by
    decide +kernel
  obtain ⟨g, ran, rejected⟩ := rejected_overBudget
  rw [ran, Option.map_some, Option.some.injEq] at counted
  have kept := always tinyBudget overBudget g ran 0 _ rejected [] _ [] _ rfl rfl "s" g rfl ran
  rw [kept.misses] at counted
  cases counted

/-- The request that is over its budget. -/
theorem rejection_counts_turn_over_budget :
    ¬ EveryStep step (new tinyBudget) overBudget (OwnStepKeepsAffinity 0) := by
  obtain ⟨g, ran, rejected⟩ := rejected_overBudget
  exact rejection_counts_turn tinyBudget overBudget g ran 0 _ rejected

end Gateway

end AgentServe
