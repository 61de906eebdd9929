import AgentServe.Affinity.Scheduler
import AgentServe.Gateway.Steps
import AgentServe.Lib.Run

/-!
# The backend of a session

A request takes its turn at the affinity scheduler when it arrives, and nothing else that
happens in the gateway touches the scheduler: a request that is rejected, times out,
fails or is cancelled has had its turn all the same, and so has one that is still
waiting. The table of the scheduler is a summary of these turns: it binds every session
to the backend of its last turn, for one lifetime since (`remembers_run`).

So what a request is given depends on the last turn of its session and on the pool of its
tier alone. It stays with the backend of that turn exactly if the turn was less than a
lifetime ago and the backend is in the pool, and otherwise it goes to the backend of the
pool with the highest score (`assigned_of_arrival`). In particular, requests of other
sessions never move it.
-/

set_option autoImplicit false

namespace AgentServe

open Lib

/-- A turn that was answered: its session, the backend, and when the session was bound to it. -/
structure SessionTurn where
  sessionId : String
  backendId : String
  time : Time
deriving DecidableEq

/-- Until when a turn binds its session. -/
def SessionTurn.expiresAt (ttl : ℤ) (t : SessionTurn) : Time := t.time + ttl

/-- The last turn of a session. -/
def lastTurn (turns : List SessionTurn) (sid : String) : Option SessionTurn :=
  (turns.filter fun t => t.sessionId = sid).getLast?

theorem lastTurn_concat (turns : List SessionTurn) (t : SessionTurn) (sid : String) :
    lastTurn (turns ++ [t]) sid = if t.sessionId = sid then some t else lastTurn turns sid := by
  rw [lastTurn, List.filter_append]
  by_cases own : t.sessionId = sid
  · rw [if_pos own, List.filter_singleton, decide_eq_true own]
    exact List.getLast?_concat
  · rw [if_neg own, List.filter_singleton, decide_eq_false own]
    exact congrArg List.getLast? (List.append_nil _)

namespace AffinityScheduler

/-- The backend that a session is bound to, and until when. -/
def binding (s : AffinityScheduler) (sid : String) : Option (String × Time) :=
  (s.sticky.get? sid).map fun entry => (entry.backendId, entry.expiresAt)

/-- An answered turn binds its session for one lifetime, from the reading of the clock that the
answer goes by, and no other session. -/
theorem binding_selectBackend {s t : AffinityScheduler} {session : SessionContext} {tier : Tier}
    {candidates : List BackendInfo} {now made : Time} {b : BackendInfo} {hit : Bool}
    (answered : s.selectBackend session tier candidates now made = (t, .ok (b, hit)))
    (sid : String) :
    t.binding sid =
      if session.sessionId = sid then some (b.id, (if hit then now else made) + s.ttl)
      else s.binding sid := by
  unfold binding
  rcases selectBackend_cases s session tier candidates now made with
    ⟨_, outcome⟩ | ⟨c, found, outcome⟩ | ⟨c, _, _, outcome⟩
  · rw [outcome] at answered
    cases answered
  · rw [outcome] at answered
    cases answered
    obtain ⟨entry, at_sid, _, search⟩ := pinned_eq_some_iff.mp found
    have named : b.id = entry.backendId := by simpa using List.find?_some search
    rw [get?_slide]
    by_cases own : session.sessionId = sid
    · subst own
      simp [at_sid, named]
    · simp [own, Ne.symm own]
  · rw [outcome] at answered
    cases answered
    rw [get?_bind]
    by_cases own : session.sessionId = sid
    · simp [own, StickyEntry.new]
    · simp [own, Ne.symm own]

end AffinityScheduler

namespace Gateway

variable {ρ : Type}

/-- The turn that an event takes, if it takes one that is answered. -/
def turnOf (g : Gateway ρ) : GatewayEvent ρ → List SessionTurn
  | .arrive _ input decision now made _ =>
    match (g.affinity.selectBackend (buildSession input) decision.tier
      (g.registry.getHealthyBackends decision.tier) now made).2 with
    | .ok (b, hit) => [⟨(buildSession input).sessionId, b.id, if hit then now else made⟩]
    | .error _ => []
  | _ => []

variable [DecidableEq ρ]

/-- The answered turns of a run, in order. -/
def turns (config : GatewayConfig) (events : List (GatewayEvent ρ)) : List SessionTurn :=
  collect step (fun g e _ => g.turnOf e) (new config) events

/-- What an event does to the scheduler: an arrival takes its turn, and nothing else does. -/
theorem affinity_of_does {g h : Gateway ρ} {e : GatewayEvent ρ} (does : g.Does e h) :
    (∃ k input decision now made clock, e = .arrive k input decision now made clock ∧
        h.affinity = (g.affinity.selectBackend (buildSession input) decision.tier
          (g.registry.getHealthyBackends decision.tier) now made).1) ∨
      h.affinity = g.affinity ∧ g.turnOf e = [] := by
  cases does with
  | refused fresh raised => exact .inl ⟨_, _, _, _, _, _, rfl, by rw [raised]⟩
  | arrived fresh selected => exact .inl ⟨_, _, _, _, _, _, rfl, by rw [selected]⟩
  | interrupted => exact .inr ⟨rfl, rfl⟩
  | resumed => exact .inr ⟨rfl, rfl⟩
  | @moved _ _ r _ _ _ at_k move =>
      refine .inr ⟨rfl, ?_⟩
      generalize r.stage = source at move
      cases move <;> rfl
  | @ended _ _ r _ _ _ _ _ _ at_k ends =>
      refine .inr ⟨rfl, ?_⟩
      generalize r.stage = source at ends
      cases ends <;> rfl
  | status => exact .inr ⟨rfl, rfl⟩

/-- What holds of every reachable state: the table binds every session to the backend of its last
turn, for one lifetime since. -/
structure Remembers (config : GatewayConfig) (past : List (GatewayEvent ρ)) (g : Gateway ρ) :
    Prop where
  ran : run step (new config) past = some g
  ttl : g.affinity.ttl = config.affinity.stickyTtlSeconds
  bindings : ∀ sid, g.affinity.binding sid = (lastTurn (turns config past) sid).map fun t =>
    (t.backendId, t.expiresAt config.affinity.stickyTtlSeconds)

/-- Step lemma: the table goes on remembering the last turns. -/
theorem remembers_step {config : GatewayConfig} {past : List (GatewayEvent ρ)} {g h : Gateway ρ}
    {e : GatewayEvent ρ} (remembers : Remembers config past g) (stepped : g.step e = some h) :
    Remembers config (past ++ [e]) h := by
  have further : turns config (past ++ [e]) = turns config past ++ g.turnOf e :=
    collect_concat remembers.ran stepped
  refine ⟨run_concat_eq_some.mpr ⟨g, remembers.ran, stepped⟩, ?_, ?_⟩
  · rcases affinity_of_does (does_of_step stepped) with
      ⟨k, input, decision, now, made, clock, rfl, turn⟩ | ⟨same, _⟩
    · rw [turn, AffinityScheduler.ttl_selectBackend, remembers.ttl]
    · rw [same, remembers.ttl]
  · intro sid
    rw [further]
    rcases affinity_of_does (does_of_step stepped) with
      ⟨k, input, decision, now, made, clock, rfl, turn⟩ | ⟨same, none_taken⟩
    · rw [turnOf, turn]
      cases outcome : g.affinity.selectBackend (buildSession input) decision.tier
          (g.registry.getHealthyBackends decision.tier) now made with
      | mk affinity answer =>
          cases answer with
          | error e =>
              have nobody := AffinityScheduler.candidates_of_error (congrArg Prod.snd outcome)
              rw [nobody, AffinityScheduler.selectBackend_nil] at outcome
              cases outcome
              rw [List.append_nil]
              exact remembers.bindings sid
          | ok chosen =>
              obtain ⟨b, hit⟩ := chosen
              rw [AffinityScheduler.binding_selectBackend outcome, lastTurn_concat]
              by_cases own : (buildSession input).sessionId = sid
              · simp [own, remembers.ttl, SessionTurn.expiresAt]
              · simp only [own, if_false]
                exact remembers.bindings sid
    · rw [same, none_taken, List.append_nil]
      exact remembers.bindings sid

theorem remembers_run {config : GatewayConfig} {events : List (GatewayEvent ρ)} {g : Gateway ρ}
    (ran : run step (new config) events = some g) : Remembers config events g :=
  past_invariant (fun _ _ _ _ remembers stepped => remembers_step remembers stepped)
    ⟨rfl, rfl, fun _ => rfl⟩ ran

/-- A session stays with the backend of its last turn: the turn was less than a lifetime ago, and
the backend is in the pool. -/
def Stays (config : GatewayConfig) (last : Option SessionTurn) (pool : List BackendInfo)
    (now : Time) : Prop :=
  ∃ t, last = some t ∧ now < t.expiresAt config.affinity.stickyTtlSeconds ∧
    ∃ b ∈ pool, b.id = t.backendId

/-- What a request of a session is given, after the last turn of the session and from a pool: the
backend of that turn if the session stays, and otherwise the one with the highest score. -/
structure Assigned (config : GatewayConfig) (last : Option SessionTurn) (pool : List BackendInfo)
    (now : Time) (sid : String) (b : BackendInfo) (hit : Bool) : Prop where
  member : b ∈ pool
  hit_iff : hit = true ↔ Stays config last pool now
  kept : hit = true → ∃ t, last = some t ∧ b.id = t.backendId
  scored : hit = false → selectByHrw sid pool = some b

/-- The binding of a session is live and in the pool exactly if the session stays. -/
theorem pinned_iff_stays {config : GatewayConfig} {past : List (GatewayEvent ρ)} {g : Gateway ρ}
    (remembers : Remembers config past g) (sid : String) (pool : List BackendInfo) (now : Time) :
    (∃ b, g.affinity.pinned sid pool now = some b) ↔
      Stays config (lastTurn (turns config past) sid) pool now := by
  have bindings := remembers.bindings sid
  rw [AffinityScheduler.binding] at bindings
  constructor
  · rintro ⟨b, found⟩
    obtain ⟨entry, at_sid, live, search⟩ := AffinityScheduler.pinned_eq_some_iff.mp found
    rw [at_sid, Option.map_some] at bindings
    obtain ⟨t, last, same⟩ := Option.map_eq_some_iff.mp bindings.symm
    obtain ⟨backend, expiry⟩ := Prod.mk.inj same
    have named : b.id = entry.backendId := by simpa using List.find?_some search
    exact ⟨t, last, expiry ▸ live, b, List.mem_of_find?_eq_some search, named.trans backend.symm⟩
  · rintro ⟨t, last, live, b, member, named⟩
    rw [last, Option.map_some] at bindings
    obtain ⟨entry, at_sid, same⟩ := Option.map_eq_some_iff.mp bindings
    obtain ⟨backend, expiry⟩ := Prod.mk.inj same
    have present : (pool.find? fun c => c.id = entry.backendId).isSome = true :=
      List.find?_isSome.mpr ⟨b, member, by simpa using named.trans backend.symm⟩
    obtain ⟨c, search⟩ := Option.isSome_iff_exists.mp present
    have alive : entry.Live now := by rwa [StickyEntry.Live, expiry]
    exact ⟨c, AffinityScheduler.pinned_eq_some_iff.mpr ⟨entry, at_sid, alive, search⟩⟩

/-- A session that is pinned stays with the backend of its last turn. -/
theorem backend_of_pinned {config : GatewayConfig} {past : List (GatewayEvent ρ)} {g : Gateway ρ}
    (remembers : Remembers config past g) {sid : String} {pool : List BackendInfo} {now : Time}
    {b : BackendInfo} (found : g.affinity.pinned sid pool now = some b) :
    ∃ t, lastTurn (turns config past) sid = some t ∧ b.id = t.backendId := by
  have bindings := remembers.bindings sid
  obtain ⟨entry, at_sid, _, search⟩ := AffinityScheduler.pinned_eq_some_iff.mp found
  rw [AffinityScheduler.binding, at_sid, Option.map_some] at bindings
  obtain ⟨t, last, same⟩ := Option.map_eq_some_iff.mp bindings.symm
  have named : b.id = entry.backendId := by simpa using List.find?_some search
  exact ⟨t, last, named.trans (Prod.mk.inj same).1.symm⟩

theorem assigned_of_answer {config : GatewayConfig} {past : List (GatewayEvent ρ)} {g : Gateway ρ}
    (remembers : Remembers config past g) {session : SessionContext} {tier : Tier}
    {pool : List BackendInfo} {now made : Time} {t : AffinityScheduler} {b : BackendInfo}
    {hit : Bool}
    (answered : g.affinity.selectBackend session tier pool now made = (t, .ok (b, hit))) :
    Assigned config (lastTurn (turns config past) session.sessionId) pool now session.sessionId b
      hit := by
  have stays := pinned_iff_stays remembers session.sessionId pool now
  rcases AffinityScheduler.selectBackend_cases g.affinity session tier pool now made with
    ⟨_, outcome⟩ | ⟨c, found, outcome⟩ | ⟨c, missing, chosen, outcome⟩
  · rw [outcome] at answered
    cases answered
  · rw [outcome] at answered
    cases answered
    exact ⟨AffinityScheduler.pinned_mem found, iff_of_true rfl (stays.mp ⟨b, found⟩),
      fun _ => backend_of_pinned remembers found, Bool.noConfusion⟩
  · rw [outcome] at answered
    cases answered
    have leaves : ¬ Stays config (lastTurn (turns config past) session.sessionId) pool now := by
      intro still
      obtain ⟨c, found⟩ := stays.mpr still
      cases missing.symm.trans found
    exact ⟨mem_of_selectByHrw chosen, iff_of_false Bool.noConfusion leaves, Bool.noConfusion,
      fun _ => chosen⟩

/-- **The backend of a session.** In every run, a request that arrives and gets a backend gets the
backend of the last turn of its session, if that turn was less than a lifetime ago and the backend
is in the pool of the tier, and is told to be a hit exactly then. Otherwise it gets the backend of
the pool with the highest score for the session. -/
theorem assigned_of_arrival (config : GatewayConfig) (events : List (GatewayEvent ρ))
    (g h : Gateway ρ) (ran : run step (new config) events = some g) {k : ρ} {input : ChatInput}
    {decision : RoutingDecision} {now made : Time} {clock : GateClock}
    (stepped : g.step (.arrive k input decision now made clock) = some h) {r : Request}
    (found : h.requests.get? k = some r) {b : BackendInfo} (bound : r.backend = some b) :
    Assigned config (lastTurn (turns config events) (buildSession input).sessionId)
      (g.registry.getHealthyBackends decision.tier) now (buildSession input).sessionId b
      r.decision.affinityHit := by
  have remembers : Remembers config events g := remembers_run ran
  cases does_of_step stepped with
  | refused =>
      simp only [Dict.get?_set_self] at found
      cases found
      cases bound
  | @arrived _ _ _ _ _ _ _ c hit _ caller _ fresh selected =>
      simp only [Dict.get?_set_self] at found
      cases found
      obtain ⟨payload, stage, same⟩ := settled_eq
        { input, session := buildSession input, backend := some c,
          decision := { decision with backendId := c.id, affinityHit := hit } } c caller
      rw [same] at bound ⊢
      cases bound
      exact assigned_of_answer remembers selected
  | moved at_k move => cases move
  | ended at_k ends => cases ends

/-- The first request of a session, which fails, and one of another session. -/
def failedThenOther : List (GatewayEvent ℕ) := [
  .arrive 0 (hello "a" false) (greeted .small "small-0") 0 0 AdmissionSystem.atStart,
  .upstreamFails 0,
  .arrive 1 (hello "b" false) (greeted .small "small-0") 5 5 AdmissionSystem.atStart]

/-- The second request of the session. -/
def again : GatewayEvent ℕ :=
  .arrive 2 (hello "a" false) (greeted .small "small-0") 9 9 AdmissionSystem.atStart

/-- The second request is a hit, although the first one failed. -/
theorem assigned_of_arrival_again :
    ∃ (g : Gateway ℕ) (r : Request) (b : BackendInfo),
      run step (new shippedConfig) failedThenOther = some g ∧ r.decision.affinityHit = true ∧
        Assigned shippedConfig (lastTurn (turns shippedConfig failedThenOther) "a")
          (g.registry.getHealthyBackends .small) 9 "a" b r.decision.affinityHit := by
  have after : ((run step (new shippedConfig) (failedThenOther ++ [again])).map fun h =>
      (h.requests.get? 2).map fun r => (r.decision.affinityHit, r.backend.isSome)) =
        some (some (true, true)) := by
    decide +kernel
  obtain ⟨h, on, shown⟩ := Option.map_eq_some_iff.mp after
  obtain ⟨r, found, hit⟩ := Option.map_eq_some_iff.mp shown
  obtain ⟨hit, some_backend⟩ := Prod.mk.inj hit
  obtain ⟨b, bound⟩ := Option.isSome_iff_exists.mp some_backend
  obtain ⟨g, ran, stepped⟩ := run_concat_eq_some.mp on
  exact ⟨g, r, b, ran, hit,
    assigned_of_arrival shippedConfig failedThenOther g h ran stepped found bound⟩

end Gateway

end AgentServe
