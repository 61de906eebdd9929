import AgentServe.Gateway.Capacity

/-!
# A gateway at rest

When every request is over, nobody waits for a slot, and what is left in the queues
is what the requests left there. The queue of a tier counts the callers inside
`gate` (`counts_step`), and a session is on record only for an admitted request
that has not given its slot back (`owned_step`).

So a gateway whose requests had distinct sessions comes back to rest with every
queue as it was built and no session on record, exactly if no admitted request
ended before the code that forwards it was reached (`atRest_iff`). A request that
did keeps its slot and its record for good.
-/

set_option autoImplicit false

namespace AgentServe

open Lib

namespace AdmissionSystem

variable {ρ : Type}

/-- The callers inside `gate` on a tier. -/
def callersOn (s : AdmissionSystem ρ) (t : Tier) : ℕ :=
  s.tickets.count fun _ x => (x.on t).any Caller.isInside

/-- Every queue is set up as it was built and counts the callers inside. -/
def Counts (built : Tier → BackpressureQueue ρ) (s : AdmissionSystem ρ) : Prop :=
  ∀ t q, s.queue? t = some q → BackpressureQueue.SameSettings (built t) q ∧
    q.queued = s.callersOn t ∧ q.queueDepth = s.callersOn t

variable [DecidableEq ρ]

/-- Every record is of an admitted request that has not given its slot back. -/
def Owned (s : AdmissionSystem ρ) : Prop :=
  ∀ sid t, s.controller.held.get? sid = some t → ∃ k x, s.tickets.get? k = some x ∧
    x.caller.isHolding = true ∧ x.session.sessionId = sid ∧ x.tier = t

theorem callersOn_set {s t : AdmissionSystem ρ} {k : ρ} {x : Ticket}
    (tickets : t.tickets = s.tickets.set k x) (tier : Tier) :
    t.callersOn tier + ((s.share k tier).any Caller.isInside).toNat =
      s.callersOn tier + ((x.on tier).any Caller.isInside).toNat := by
  have counted := Dict.count_set (fun _ x => (Ticket.on x tier).any Caller.isInside) s.tickets k x
  have same : ((s.tickets.get? k).any fun x => (x.on tier).any Caller.isInside) =
      (s.share k tier).any Caller.isInside := by
    unfold share
    cases s.tickets.get? k <;> rfl
  rw [same] at counted
  rw [callersOn, tickets]
  exact counted

/-- A request that moves on is counted where it is inside. -/
theorem counts_of_moves {built : Tier → BackpressureQueue ρ} {s t : AdmissionSystem ρ} {k : ρ}
    {x : Ticket} (moves : Moves k x s t) (counts : s.Counts built) : t.Counts built := by
  intro tier r found
  obtain ⟨q, before, moved⟩ := moves.origin found
  obtain ⟨settings, queued, depth⟩ := counts tier q before
  have counted := callersOn_set moves.tickets tier
  have more := moved.queued
  have deeper := moved.queueDepth
  refine ⟨⟨moved.settings.maxQueue.trans settings.maxQueue,
    moved.settings.timeout.trans settings.timeout,
    moved.settings.tier.trans settings.tier⟩, ?_, ?_⟩
  · omega
  · omega

/-- Step lemma: the queues go on counting the callers inside. -/
theorem counts_step {built : Tier → BackpressureQueue ρ} {s t : AdmissionSystem ρ}
    {e : AdmissionEvent ρ} (sound : s.Sound) (counts : s.Counts built)
    (stepped : s.step e = some t) : t.Counts built := by
  rcases step_cases sound stepped with
    ⟨_, k, x, moves⟩ | ⟨k, session, tier, wait, _, holds, rfl⟩ | ⟨_, tickets, queues, _⟩
  · exact counts_of_moves moves counts
  · intro tier' r found
    have counted := callersOn_set (s := s) (k := k) (x := ⟨session, tier, .released⟩)
      (t := ⟨s.controller.release session tier, s.tickets.set k ⟨session, tier, .released⟩⟩)
      rfl tier'
    have outside : ((s.share k tier').any Caller.isInside) = false := by
      rw [share_eq holds]
      split <;> rfl
    have still : ((Ticket.on ⟨session, tier, .released⟩ tier').any Caller.isInside) = false := by
      unfold Ticket.on
      split <;> rfl
    rw [outside, still] at counted
    have same : callersOn ⟨s.controller.release session tier,
        s.tickets.set k ⟨session, tier, .released⟩⟩ tier' = s.callersOn tier' := by
      simpa using counted
    rw [same]
    rw [queue?, queue?_release] at found
    split at found
    · obtain ⟨q, before, rfl⟩ := Option.map_eq_some_iff.mp found
      obtain ⟨⟨limit, timeout, name⟩, queued, depth⟩ := counts tier' q before
      exact ⟨⟨limit, timeout, name⟩, queued, depth⟩
    · exact counts tier' r found
  · intro tier q found
    rw [callersOn, tickets]
    exact counts tier q (queues tier ▸ found)

/-- A request that comes out of `gate` adds at most its own record. -/
theorem owned_of_held {s t : AdmissionSystem ρ} {k : ρ} {y : Ticket} (owned : s.Owned)
    (tickets : t.tickets = s.tickets.set k y)
    (held : ∀ sid, t.controller.held.get? sid =
      if sid = y.session.sessionId ∧ y.caller.isHolding = true then some y.tier
      else s.controller.held.get? sid)
    (empty_handed : ∀ x, s.tickets.get? k = some x → x.caller.isHolding = false) :
    t.Owned := by
  intro sid tier found
  rw [held] at found
  split at found
  · rename_i own
    cases found
    exact ⟨k, y, by rw [tickets, Dict.get?_set_self], own.2, own.1.symm, rfl⟩
  · obtain ⟨j, x, ticket, holds, named, on_tier⟩ := owned sid tier found
    have differ : j ≠ k := by
      rintro rfl
      rw [empty_handed x ticket] at holds
      cases holds
    exact ⟨j, x, by rw [tickets, Dict.get?_set_of_ne _ _ differ, ticket], holds, named, on_tier⟩

/-- Step lemma: every record goes on being of an admitted request. -/
theorem owned_step {s t : AdmissionSystem ρ} {e : AdmissionEvent ρ} (owned : s.Owned)
    (stepped : s.step e = some t) : t.Owned := by
  cases does_of_step stepped with
  | gate fresh gated =>
      refine owned_of_held owned rfl (AdmissionController.held_gate gated) ?_
      intro x found
      rw [fresh] at found
      cases found
  | interrupt inside =>
      refine owned_of_held owned rfl (fun sid => ?_) ?_
      · simp [AdmissionController.interrupt]
      · intro x found
        rw [inside] at found
        cases found
        rfl
  | resume inside woke =>
      obtain ⟨_, _, _, _, _, held⟩ := AdmissionController.resume_spec woke
      refine owned_of_held owned rfl held ?_
      intro x found
      rw [inside] at found
      cases found
      rfl
  | @release k session tier wait holds =>
      intro sid u found
      have other : sid ≠ session.sessionId := by
        rintro rfl
        simp only [AdmissionController.release] at found
        split at found
        · rename_i nobody
          rw [nobody] at found
          cases found
        · rw [Dict.get?_erase_self] at found
          cases found
      obtain ⟨j, x, ticket, held, named, on_tier⟩ := owned sid u (held_release session tier found)
      have differ : j ≠ k := by
        rintro rfl
        rw [holds] at ticket
        cases ticket
        exact other named.symm
      exact ⟨j, x, by rw [Dict.get?_set_of_ne _ _ differ, ticket], held, named, on_tier⟩
  | debit => exact owned
  | markStatus => exact owned

end AdmissionSystem

namespace Gateway

variable {ρ : Type} [DecidableEq ρ]

/-- The queue of a tier at start-up. -/
def builtQueue (config : GatewayConfig) : Tier → BackpressureQueue ρ :=
  AdmissionController.buildQueue config.admission (.new config)

/-- Every queue is as it was built, and no session is on record. -/
def AtRest (config : GatewayConfig) (g : Gateway ρ) : Prop :=
  (∀ t q, g.admission.queue? t = some q → q = builtQueue config t) ∧
    g.admission.controller.held = .empty

/-- What holds of every reachable state when no two requests in flight are of one session, with
the counts of the queues and the owners of the records. -/
structure Settled (config : GatewayConfig) (past : List (GatewayEvent ρ)) (g : Gateway ρ) :
    Prop where
  bounded : Bounded config past g
  counts : g.admission.Counts (builtQueue config)
  owned : g.admission.Owned

theorem settled_new (config : GatewayConfig) : Settled config [] (new config : Gateway ρ) where
  bounded := bounded_new config
  counts := by
    intro t q found
    rw [new, AdmissionSystem.queue?_new] at found
    split at found
    · cases found
    · cases found
      exact ⟨⟨rfl, rfl, rfl⟩, rfl, rfl⟩
  owned := by
    intro sid t found
    cases found

theorem settled_step {config : GatewayConfig} {past} {g h : Gateway ρ} {e : GatewayEvent ρ}
    (settled : Settled config past g) (alone : ∀ k, g.Alone k e) (stepped : g.step e = some h) :
    Settled config (past ++ [e]) h := by
  have bounded := settled.bounded
  have next := bounded_step bounded alone stepped
  rcases admission_of_does bounded.linked (does_of_step stepped) with same | ⟨a, moved, _⟩
  · exact ⟨next, same ▸ settled.counts, same ▸ settled.owned⟩
  · exact ⟨next, AdmissionSystem.counts_step bounded.sound settled.counts moved,
      AdmissionSystem.owned_step settled.owned moved⟩

section Over

variable {config : GatewayConfig} {past : List (GatewayEvent ρ)} {g : Gateway ρ}

/-- When every request is over, nobody is inside `gate`. -/
theorem Settled.nobody_inside (settled : Settled config past g)
    (allOver : ∀ k r, g.requests.get? k = some r → r.isOver = true) {k : ρ} {x : Ticket}
    (ticket : g.admission.tickets.get? k = some x) : x.caller.isInside = false := by
  obtain ⟨r, _, found, _⟩ := settled.bounded.linked k x ticket
  have standing := (settled.bounded.tracked k).standing r found
  have ended := allOver k r found
  rw [ticket] at standing
  cases standing with
  | refused _ absent => cases absent
  | thrown _ raised =>
      cases raised
      rfl
  | waiting stage => simp [Request.isOver, stage] at ended
  | unstarted stage => simp [Request.isOver, stage] at ended
  | answering stage => simp [running_of_isAnswering stage] at ended
  | lost _ holds =>
      cases holds
      rfl
  | returned _ gone =>
      cases gone
      rfl

/-- When every request is over, one that still holds a slot has lost it. -/
theorem Settled.lost_of_holding (settled : Settled config past g)
    (allOver : ∀ k r, g.requests.get? k = some r → r.isOver = true) {k : ρ} {x : Ticket}
    (ticket : g.admission.tickets.get? k = some x) (holds : x.caller.isHolding = true) :
    ∃ r, g.requests.get? k = some r ∧ g.admittedOn k = some x.tier ∧
      ¬ (r.Forwardable ∧ (r.input.stream = true → .advance k ∈ past)) := by
  obtain ⟨r, _, found, _⟩ := settled.bounded.linked k x ticket
  have standing := (settled.bounded.tracked k).standing r found
  have ended := allOver k r found
  have admitted : g.admittedOn k = some x.tier := by
    obtain ⟨session, tier, caller⟩ := x
    cases caller with
    | holding wait => simp [admittedOn, ticket]
    | _ => cases holds
  refine ⟨r, found, admitted, ?_⟩
  rw [ticket] at standing
  cases standing with
  | refused _ absent => cases absent
  | thrown _ raised =>
      cases raised
      cases holds
  | waiting stage => simp [Request.isOver, stage] at ended
  | unstarted stage => simp [Request.isOver, stage] at ended
  | answering stage => simp [running_of_isAnswering stage] at ended
  | lost _ _ _ cause => exact cause
  | returned _ gone =>
      cases gone
      cases holds

/-- A request that lost its slot still holds it. -/
theorem Settled.holding_of_lost (settled : Settled config past g)
    (allOver : ∀ k r, g.requests.get? k = some r → r.isOver = true) {k : ρ} {r : Request} {t : Tier}
    (found : g.requests.get? k = some r) (admitted : g.admittedOn k = some t)
    (cause : ¬ (r.Forwardable ∧ (r.input.stream = true → .advance k ∈ past))) :
    ∃ x, g.admission.tickets.get? k = some x ∧ x.caller.isHolding = true := by
  have standing := (settled.bounded.tracked k).standing r found
  have ended := allOver k r found
  unfold admittedOn at admitted
  cases standing with
  | refused _ absent => simp [absent] at admitted
  | thrown _ raised => simp [raised] at admitted
  | waiting stage => simp [Request.isOver, stage] at ended
  | unstarted stage => simp [Request.isOver, stage] at ended
  | answering stage => simp [running_of_isAnswering stage] at ended
  | lost _ holds => exact ⟨_, holds, rfl⟩
  | returned _ _ _ ready begun => exact absurd ⟨ready, begun⟩ cause

/-- When every request is over, the queue of a tier counts nobody, nobody waits in it, and its
slots are free but for those that were lost. -/
theorem Settled.queue_of_over (settled : Settled config past g)
    (allOver : ∀ k r, g.requests.get? k = some r → r.isOver = true) {t : Tier}
    {q : BackpressureQueue ρ} (found : g.admission.queue? t = some q) :
    BackpressureQueue.SameSettings (builtQueue config t) q ∧ q.queued = 0 ∧ q.queueDepth = 0 ∧
      q.semaphore.waiters = .empty ∧
      q.semaphore.value + g.admission.admitted t = totalInflight (.new config) t := by
  obtain ⟨settings, queued, depth⟩ := settled.counts t q found
  have nobody : ∀ k, (g.admission.share k t).any Caller.isInside = false := by
    intro k
    unfold AdmissionSystem.share
    cases ticket : g.admission.tickets.get? k with
    | none => rfl
    | some x =>
        have outside := settled.nobody_inside allOver ticket
        simp only [Option.bind_some, Ticket.on]
        split
        · exact outside
        · rfl
  have none_counted : g.admission.callersOn t = 0 := by
    apply Dict.count_eq_zero
    intro k x ticket
    have outside := nobody k
    rw [AdmissionSystem.share, ticket] at outside
    exact outside
  have waiters : q.semaphore.waiters = .empty :=
    Dict.eq_empty_of_get? fun k => settled.bounded.sound.waiting t q found k (nobody k)
  have slots := settled.bounded.conserved t q found
  rw [none_counted] at queued depth
  refine ⟨settings, queued, depth, waiters, ?_⟩
  have none_granted : q.semaphore.granted = 0 := by
    rw [Semaphore.granted, waiters]
    rfl
  omega

end Over

/-- **A gateway at rest.** While requests in flight have distinct sessions: when every request is
over, every queue is as it was built and no session is on record exactly if every admitted request
could be forwarded and, for a stream, was asked for a chunk. -/
theorem atRest_iff (config : GatewayConfig) (events : List (GatewayEvent ρ)) (g : Gateway ρ)
    (ran : run step (new config) events = some g)
    (distinct : EveryStep step (new config) events fun g e => ∀ k, g.Alone k e)
    (allOver : ∀ k r, g.requests.get? k = some r → r.isOver = true) :
    g.AtRest config ↔ ∀ k r t, g.requests.get? k = some r → g.admittedOn k = some t →
      r.Forwardable ∧ (r.input.stream = true → .advance k ∈ events) := by
  have settled : Settled config events g :=
    past_invariant_of_everyStep (fun _ _ _ _ settled alone stepped =>
      settled_step settled alone stepped) (settled_new config) distinct ran
  constructor
  · rintro ⟨queues, _⟩ k r t found admitted
    by_contra cause
    -- A lost slot is missing in the queue of its tier.
    obtain ⟨x, ticket, holds⟩ := settled.holding_of_lost allOver found admitted cause
    obtain ⟨q, queue⟩ := settled.bounded.sound.served k x ticket holds
    obtain ⟨_, _, _, _, slots⟩ := settled.queue_of_over allOver queue
    have value : q.semaphore.value = totalInflight (.new config) x.tier := by
      rw [queues x.tier q queue]
      rfl
    have counted : 0 < g.admission.admitted x.tier := by
      apply Dict.count_pos ticket
      rw [Ticket.on_tier]
      exact holds
    omega
  · intro forwarded
    have nobody : ∀ k x, g.admission.tickets.get? k = some x → x.caller.isHolding = false := by
      intro k x ticket
      by_contra other
      obtain ⟨r, found, admitted, cause⟩ :=
        settled.lost_of_holding allOver ticket (by simpa using other)
      exact cause (forwarded k r x.tier found admitted)
    constructor
    · intro t q queue
      obtain ⟨settings, queued, depth, waiters, slots⟩ := settled.queue_of_over allOver queue
      have none_admitted : g.admission.admitted t = 0 := by
        apply Dict.count_eq_zero
        intro k x ticket
        have empty_handed := nobody k x ticket
        unfold Ticket.on
        split
        · exact empty_handed
        · rfl
      have value : q.semaphore.value = totalInflight (.new config) t := by omega
      exact BackpressureQueue.eq_new settings value waiters queued depth
    · apply Dict.eq_empty_of_get?
      intro sid
      cases held : g.admission.controller.held.get? sid with
      | none => rfl
      | some t =>
          obtain ⟨k, x, ticket, holds, _⟩ := settled.owned sid t held
          rw [nobody k x ticket] at holds
          cases holds

/-- A stream of one session, read to its end. -/
def oneStream : List (GatewayEvent Unit) := [
  .arrive () (hello "s" true) (greeted .big "big-0") 0 0 AdmissionSystem.atStart, .advance (),
  .chunk () [104, 105], .advance (), .upstreamEnds ()]

/-- After a stream that was read to its end. -/
theorem atRest_iff_oneStream :
    ∃ g : Gateway Unit, run step (new shippedConfig) oneStream = some g ∧
      (g.AtRest shippedConfig ↔
        ∀ k r t, g.requests.get? k = some r → g.admittedOn k = some t →
          r.Forwardable ∧ (r.input.stream = true → .advance k ∈ oneStream)) := by
  have distinct : EveryStep step (new shippedConfig) oneStream fun g e => ∀ k, g.Alone k e := by
    apply alone_of_sessions (fun _ => "s") (fun _ _ _ => rfl)
    intro k input decision now made clock member
    simp only [oneStream, List.mem_cons, List.not_mem_nil, or_false, reduceCtorEq] at member
    cases member
    rfl
  have ends : ((run step (new shippedConfig) oneStream).map fun g : Gateway Unit =>
      (g.requests.get? ()).all Request.isOver) = some true := rfl
  obtain ⟨g, ran, finished⟩ := Option.map_eq_some_iff.mp ends
  refine ⟨g, ran, atRest_iff shippedConfig oneStream g ran distinct ?_⟩
  intro k r found
  rw [found] at finished
  exact finished

end Gateway

end AgentServe
