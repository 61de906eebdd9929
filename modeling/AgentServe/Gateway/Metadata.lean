import AgentServe.Gateway.Answers
import AgentServe.Gateway.Forwarding
import AgentServe.Gateway.Handler

/-!
# The metadata of a reply

A reply carries a record of what happened to its request: the backend that it was
forwarded to, the tier, whether the affinity scheduler kept the session where it was,
and how long the request waited for its slot. The record is copied from the routing
decision. The scheduler's selection is written into the decision when the request
arrives (`selection_of_does`), and nobody changes it afterwards (`recorded_step`).

The wait is measured when the slot is acquired, and only logged. The decision says
that there was none. So the record of a reply is right in all of its fields but the
wait (`metadata_of_answer`), and it is right exactly if the request did not wait
(`metadata_tells_iff`).
-/

set_option autoImplicit false

namespace AgentServe

open Lib

/-- The metadata that an answer carries. -/
def Json.metadata (answer : Json) : Option Json := answer.get "x_agent_serve" .null

/-- A rendered reply carries the metadata that it was rendered with. -/
theorem metadata_of_renderReply {result answer : Json} {m : AgentServeMeta}
    (rendered : renderReply result m = some answer) : answer.metadata = some m.dump := by
  obtain ⟨_, _, rendered⟩ := Option.bind_eq_some_iff.mp rendered
  obtain ⟨set, assigned, rendered⟩ := Option.bind_eq_some_iff.mp rendered
  split at rendered
  · cases rendered
    cases result with
    | obj fields =>
        cases assigned
        simp [Json.metadata, Json.get, Json.lookup_setItems]
    | _ => cases assigned
  · cases rendered

/-- The stage of a request that was answered with a reply. -/
def Stage.isCompleted : Stage → Bool
  | .over (.completed _ _) => true
  | _ => false

theorem Stage.eq_of_isCompleted {stage : Stage} (completed : stage.isCompleted = true) :
    ∃ now answer, stage = .over (.completed now answer) := by
  unfold Stage.isCompleted at completed
  split at completed
  · exact ⟨_, _, rfl⟩
  · cases completed

namespace Gateway

variable {ρ : Type} [DecidableEq ρ]

/-- No stretch of `gate` ends with a reply. -/
theorem settled_ne_completed (r : Request) (b : BackendInfo) (caller : Caller) (now : Time)
    (answer : Json) : (settled r b caller).stage ≠ .over (.completed now answer) := by
  cases caller with
  | holding wait =>
      obtain ⟨payload, stage, same, ways⟩ := afterGate_cases r b
      simp only [settled, same]
      intro completed
      rcases ways with ⟨rfl, _⟩ | ⟨rfl, _⟩ | ⟨rfl, _⟩ <;> cases completed
  | raised error => cases error <;> simp [settled]
  | _ => simp [settled]

/-- A reply is rendered when the backend that the request was forwarded to replies, and the request
holds its slot until then. -/
theorem answer_of_step {g h : Gateway ρ} {e : GatewayEvent ρ} (stepped : g.step e = some h) {k : ρ}
    {r : Request} (found : h.requests.get? k = some r) {now : Time} {answer : Json}
    (answered : r.stage = .over (.completed now answer)) :
    g.requests.get? k = some r ∨
      ∃ q b result session tier wait, g.requests.get? k = some q ∧ q.stage = .completing ∧
        q.backend = some b ∧ renderReply result (q.agentServeMeta b) = some answer ∧
        g.admission.tickets.get? k = some ⟨session, tier, .holding wait⟩ := by
  have other : ∀ {j : ρ} {q : Request}, (g.requests.set j q).get? k = some r →
      q.stage ≠ .over (.completed now answer) → g.requests.get? k = some r := by
    intro j q after running
    rw [Dict.get?_set] at after
    split at after
    · cases after
      exact absurd answered running
    · exact after
  cases does_of_step stepped with
  | refused => exact .inl (other found (by simp))
  | arrived => exact .inl (other found (settled_ne_completed _ _ _ now answer))
  | interrupted => exact .inl found
  | resumed => exact .inl (other found (settled_ne_completed _ _ _ now answer))
  | @moved _ j q stage _ _ _ move =>
      refine .inl (other found ?_)
      generalize q.stage = source at move
      cases move <;> simp
  | status => exact .inl found
  | @ended _ j q exit session tier wait admission total at_j ends holds =>
      rw [Dict.get?_set] at found
      split at found
      · rename_i own
        subst own
        cases found
        cases answered
        obtain ⟨result, rfl, stage⟩ :
            ∃ result, e = .reply k result now ∧ q.stage = .completing := by
          generalize q.stage = source at ends
          cases ends with
          | replied => exact ⟨_, rfl, rfl⟩
        obtain ⟨r', labels, own, after, _⟩ := ownStep_of_step stepped rfl
        have same := Option.some.inj ((Dict.get?_set_self _ _ _).symm.trans after)
        cases own with
        | reacts before reacts =>
            obtain rfl := Option.some.inj (at_j.symm.trans before)
            have ended := congrArg Request.stage same
            cases reacts with
            | replied _ bound rendered =>
                cases ended
                exact .inr ⟨q, _, result, session, tier, wait, at_j, stage, bound, rendered, holds⟩
            | unreadable => cases ended
      · exact .inl found

end Gateway

namespace ChatHandler

variable {ρ : Type} [DecidableEq ρ] {lib : SchemaLibrary} {config : GatewayConfig}

/-- A request arrives at the gateway, with the decision of the router. -/
inductive Arrives (lib : SchemaLibrary) (s : ChatHandler ρ) :
    HandlerEvent ρ → ρ → IncomingRequest → RoutingDecision → Time → Time → Prop where
  | atOnce {k : ρ} {request : IncomingRequest} {now made : Time} {clock : GateClock}
      {d : RoutingDecision} (decided : (s.routeOf lib request now).2 = .decided d) :
      Arrives lib s (.receive k request now made clock) k request d now made
  | afterReply {k : ρ} {reply : ClassifierReply} {now made : Time} {clock : GateClock}
      {p : PendingRoute} (waits : s.routing.get? k = some p) :
      Arrives lib s (.classified k reply now made clock) k p.request
        (s.router.replied s.registry p.call reply now).2 now made

theorem queueWaitMs_lookUp (registry : BackendRegistry) (tier : Tier) (reason : RoutingReason)
    (used : Bool) : (lookUp registry tier reason used).queueWaitMs = 0 := by
  unfold lookUp
  split
  · rfl
  · split <;> rfl

/-- The router says nothing of waits. -/
theorem queueWaitMs_of_arrives {s : ChatHandler ρ} {e : HandlerEvent ρ} {k : ρ}
    {request : IncomingRequest} {d : RoutingDecision} {now made : Time}
    (arrives : s.Arrives lib e k request d now made) : d.queueWaitMs = 0 := by
  cases arrives with
  | afterReply waits => exact queueWaitMs_lookUp ..
  | atOnce decided =>
      unfold routeOf TierRouter.route at decided
      split at decided
      · cases decided
        exact queueWaitMs_lookUp ..
      · split at decided
        · cases decided
          exact queueWaitMs_lookUp ..
        · cases decided
          exact queueWaitMs_lookUp ..
        · cases decided

/-- Step lemma: a step of the gateway inside is an arrival with a decision of the router, or is
no arrival. -/
theorem gateway_cases {s t : ChatHandler ρ} {e : HandlerEvent ρ} (stepped : s.step lib e = some t) :
    t.gateway = s.gateway ∨
      (∃ k request d now made clock, s.Arrives lib e k request d now made ∧
        s.gateway.step (.arrive k (request.input lib) d now made clock) = some t.gateway) ∨
      ∃ f, (∀ k input d now made clock, f ≠ .arrive k input d now made clock) ∧
        s.gateway.step f = some t.gateway := by
  cases e with
  | receive k request now made clock =>
      simp only [step] at stepped
      split at stepped
      · split at stepped
        · rename_i router d decided
          have inside := gateway_of_arrive stepped
          exact .inr (.inl ⟨k, request, d, now, made, clock,
            .atOnce (by rw [decided]), inside⟩)
        · cases stepped
          exact .inl rfl
      · cases stepped
  | classified k reply now made clock =>
      obtain ⟨p, waits, arrived⟩ := Option.bind_eq_some_iff.mp stepped
      have inside := gateway_of_arrive arrived
      exact .inr (.inl ⟨k, p.request, _, now, made, clock, .afterReply waits, inside⟩)
  | abandon k =>
      obtain ⟨p, _, rfl⟩ := Option.map_eq_some_iff.mp stepped
      exact .inl rfl
  | gateway e =>
      simp only [step] at stepped
      split at stepped
      · cases stepped
      · rename_i noArrival
        obtain ⟨gateway, inside, rfl⟩ := Option.map_eq_some_iff.mp stepped
        exact .inr (.inr ⟨e, noArrival, inside⟩)

/-- When a request arrived, the scheduler selected a backend for it, as a hit or not. -/
def SelectedFor (lib : SchemaLibrary) (config : GatewayConfig) (past : List (HandlerEvent ρ))
    (k : ρ) (b : BackendInfo) (hit : Bool) : Prop :=
  ∃ front e since m request d now made affinity, past = front ++ e :: since ∧
    run (step lib) (new config) front = some m ∧ m.Arrives lib e k request d now made ∧
    m.gateway.affinity.selectBackend (request.session lib) d.tier
      (m.registry.getHealthyBackends d.tier) now made = (affinity, .ok (b, hit))

/-- What holds of every reachable state: the decision of a request that was bound says what was
selected for it, and nothing of a wait. -/
structure Recorded (lib : SchemaLibrary) (config : GatewayConfig) (past : List (HandlerEvent ρ))
    (s : ChatHandler ρ) : Prop where
  ran : run (step lib) (new config) past = some s
  linked : s.gateway.Linked
  grounded : BackendRegistry.Grounded (.new config) s.registry
  recorded : ∀ k r b, s.gateway.requests.get? k = some r → r.backend = some b →
    (BackendRegistry.new config).getBackend b.id = some b ∧
      SelectedFor lib config past k b r.decision.affinityHit ∧ r.decision.tier = b.tier ∧
      r.decision.queueWaitMs = 0

theorem SelectedFor.later {past : List (HandlerEvent ρ)} {k : ρ} {b : BackendInfo} {hit : Bool}
    (selected : SelectedFor lib config past k b hit) (e : HandlerEvent ρ) :
    SelectedFor lib config (past ++ [e]) k b hit := by
  obtain ⟨front, e', since, m, request, d, now, made, affinity, split, rest⟩ := selected
  refine ⟨front, e', since ++ [e], m, request, d, now, made, affinity, ?_, rest⟩
  rw [split, List.append_assoc, List.cons_append]

/-- Step lemma: the decision of a request is completed when the request arrives, and is not touched
again. -/
theorem recorded_step {past : List (HandlerEvent ρ)} {s t : ChatHandler ρ} {e : HandlerEvent ρ}
    (recorded : Recorded lib config past s) (stepped : s.step lib e = some t) :
    Recorded lib config (past ++ [e]) t := by
  have ran : run (step lib) (new config) (past ++ [e]) = some t :=
    run_concat_eq_some.mpr ⟨s, recorded.ran, stepped⟩
  have old : ∀ k r b, s.gateway.requests.get? k = some r → r.backend = some b →
      (BackendRegistry.new config).getBackend b.id = some b ∧
        SelectedFor lib config (past ++ [e]) k b r.decision.affinityHit ∧
        r.decision.tier = b.tier ∧ r.decision.queueWaitMs = 0 := by
    intro k r b found bound
    obtain ⟨known, selected, rest⟩ := recorded.recorded k r b found bound
    exact ⟨known, selected.later e, rest⟩
  rcases gateway_cases stepped with
    same | ⟨j, request, d, now, made, clock, arrives, inside⟩ | ⟨f, noArrival, inside⟩
  · refine ⟨ran, same ▸ recorded.linked, ?_, same ▸ old⟩
    have grounded := recorded.grounded
    rw [registry, ← same] at grounded
    exact grounded
  · have does := Gateway.does_of_step inside
    refine ⟨ran, Gateway.linked_of_does recorded.linked does,
      Gateway.grounded_of_does recorded.grounded does, fun k r b found bound => ?_⟩
    rcases Gateway.selection_of_does does found with
      ⟨q, before, _, backend, decision⟩ | ⟨_, _, _, _, _, same, _, selected⟩
    · rw [decision]
      exact old k q b before (backend.symm.trans bound)
    · cases same
      obtain ⟨affinity, hit, answered, completed⟩ := selected b bound
      have member : b ∈ s.registry.getHealthyBackends d.tier :=
        AffinityScheduler.mem_of_selectBackend (congrArg Prod.snd answered)
      obtain ⟨at_id, on_tier, up⟩ := BackendRegistry.mem_getHealthyBackends.mp member
      rw [completed]
      have unwaited : d.queueWaitMs = 0 := queueWaitMs_of_arrives arrives
      refine ⟨?_, ?_, on_tier.symm, unwaited⟩
      · rw [recorded.grounded b.id b at_id, ← up]
      · exact ⟨past, e, [], s, request, d, now, made, affinity, rfl, recorded.ran, arrives,
          answered⟩
  · have does := Gateway.does_of_step inside
    refine ⟨ran, Gateway.linked_of_does recorded.linked does,
      Gateway.grounded_of_does recorded.grounded does, fun k r b found bound => ?_⟩
    rcases Gateway.selection_of_does does found with
      ⟨q, before, _, backend, decision⟩ | ⟨input, d, now, made, clock, same, _, _⟩
    · rw [decision]
      exact old k q b before (backend.symm.trans bound)
    · exact absurd same (noArrival k input d now made clock)

theorem recorded_new : Recorded lib config [] (new config : ChatHandler ρ) where
  ran := rfl
  linked := by
    intro k x ticket
    cases ticket
  grounded := BackendRegistry.grounded_new config
  recorded := by
    intro k r b found
    cases found

/-! ## What a reply says -/

/-- A step answers a request with a reply. -/
def Answers (lib : SchemaLibrary) (s : ChatHandler ρ) (e : HandlerEvent ρ) (k : ρ)
    (answer : Json) : Prop :=
  ∃ t r now, s.step lib e = some t ∧ t.gateway.requests.get? k = some r ∧
    r.stage = .over (.completed now answer) ∧
    ∀ q, s.gateway.requests.get? k = some q → q.isOver = false

/-- What happened to a request that is about to be answered: it was forwarded to a backend of the
registry, which was selected for it as a hit or not, and it holds a slot of the backend's tier, for
which it waited. -/
structure Happened (lib : SchemaLibrary) (config : GatewayConfig) (past : List (HandlerEvent ρ))
    (s : ChatHandler ρ) (k : ρ) (b : BackendInfo) (hit : Bool) (wait : Time) : Prop where
  forwarded : ∃ r, s.gateway.requests.get? k = some r ∧ r.stage = .completing ∧
    r.backend = some b
  registered : (BackendRegistry.new config).getBackend b.id = some b
  holds : ∃ session, s.gateway.admission.tickets.get? k = some ⟨session, b.tier, .holding wait⟩
  selected : SelectedFor lib config past k b hit

/-- A record says by the names of its members what happened, with a wait in milliseconds. It says
nothing else. -/
structure Describes (record : Json) (b : BackendInfo) (hit : Bool) (queueWaitMs : ℚ) : Prop where
  backend : record.get "backend_id" .null = some (.str b.id)
  tier : record.get "tier" .null = some (.str b.tier.value)
  hit : record.get "affinity_hit" .null = some (.bool hit)
  wait : record.get "queue_wait_ms" .null = some (.number queueWaitMs)
  reason : ∃ reason : RoutingReason, record.get "routing_reason" .null = some (.str reason.value)
  others : ∀ name, name ∉ ["tier", "backend_id", "queue_wait_ms", "affinity_hit",
    "routing_reason"] → record.get name .null = some .null

/-- The metadata of a reply says what happened. -/
def Reports (answer : Json) (b : BackendInfo) (hit : Bool) (queueWaitMs : ℚ) : Prop :=
  ∃ record, answer.get "x_agent_serve" .null = some record ∧ Describes record b hit queueWaitMs

/-- The record of a decision describes what it was made from. -/
theorem describes_dump (b : BackendInfo) (hit : Bool) (queueWaitMs : ℚ) (reason : RoutingReason) :
    Describes (AgentServeMeta.dump {
      tier := b.tier, backendId := b.id, queueWaitMs, affinityHit := hit,
      routingReason := reason }) b hit queueWaitMs where
  backend := rfl
  tier := rfl
  hit := rfl
  wait := rfl
  reason := ⟨reason, rfl⟩
  others := by
    intro name unnamed
    simp only [List.mem_cons, List.not_mem_nil, or_false, not_or] at unnamed
    obtain ⟨noTier, noBackend, noWait, noHit, noReason⟩ := unnamed
    simp [AgentServeMeta.dump, Json.get, List.lookup_cons, beq_false_of_ne noTier,
      beq_false_of_ne noBackend, beq_false_of_ne noWait, beq_false_of_ne noHit,
      beq_false_of_ne noReason]

/-- A reply reports one wait only. -/
theorem Reports.wait_unique {answer : Json} {b c : BackendInfo} {hit hit' : Bool} {v w : ℚ}
    (reports : Reports answer b hit v) (also_reports : Reports answer c hit' w) : v = w := by
  obtain ⟨record, found, describes⟩ := reports
  obtain ⟨record', also_found, also_describes⟩ := also_reports
  cases found.symm.trans also_found
  exact Json.number.inj (Option.some.inj (describes.wait.symm.trans also_describes.wait))

/-- Every answer of a step says what happened. -/
def TellsRight (lib : SchemaLibrary) (config : GatewayConfig) (past : List (HandlerEvent ρ))
    (s : ChatHandler ρ) (e : HandlerEvent ρ) : Prop :=
  ∀ k answer, s.Answers lib e k answer →
    ∃ b hit wait, Happened lib config past s k b hit wait ∧ Reports answer b hit (1000 * wait)

/-- No answer of a step is for a request that waited for its slot. -/
def Unwaited (lib : SchemaLibrary) (s : ChatHandler ρ) (e : HandlerEvent ρ) : Prop :=
  ∀ k answer session tier wait, s.Answers lib e k answer →
    s.gateway.admission.tickets.get? k = some ⟨session, tier, .holding wait⟩ → wait = 0

/-- **Replies.** The metadata of a reply says what happened, except that it says that there was no
wait. -/
theorem metadata_of_answer {past : List (HandlerEvent ρ)} {s : ChatHandler ρ} {e : HandlerEvent ρ}
    (recorded : Recorded lib config past s) {k : ρ} {answer : Json}
    (answers : s.Answers lib e k answer) :
    ∃ b hit wait, Happened lib config past s k b hit wait ∧ Reports answer b hit 0 := by
  obtain ⟨t, r, now, stepped, found, answered, running⟩ := answers
  have new_answer : s.gateway.requests.get? k ≠ some r := by
    intro before
    have unended := running r before
    simp [Request.isOver, answered] at unended
  obtain ⟨f, inside⟩ : ∃ f, s.gateway.step f = some t.gateway := by
    rcases gateway_of_step stepped with same | fired
    · exact absurd (same ▸ found) new_answer
    · exact fired
  rcases Gateway.answer_of_step inside found answered with
    before | ⟨q, b, result, session, tier, wait, at_k, stage, bound, rendered, holds⟩
  · exact absurd before new_answer
  · obtain ⟨known, selected, tier_eq, unwaited⟩ := recorded.recorded k q b at_k bound
    obtain ⟨q', b', at_k', _, bound', on_tier⟩ := recorded.linked k _ holds
    obtain rfl := Option.some.inj (at_k.symm.trans at_k')
    obtain rfl := Option.some.inj (bound.symm.trans bound')
    refine ⟨b, q.decision.affinityHit, wait, ?_, _, metadata_of_renderReply rendered, ?_⟩
    · exact ⟨⟨q, at_k, stage, bound⟩, known, ⟨session, on_tier ▸ holds⟩, selected⟩
    · rw [Request.agentServeMeta, tier_eq, unwaited]
      exact describes_dump b q.decision.affinityHit 0 q.decision.reason

/-- A step tells what happened exactly if it answers nobody who waited. -/
theorem tellsRight_iff {past : List (HandlerEvent ρ)} {s : ChatHandler ρ}
    (recorded : Recorded lib config past s) (e : HandlerEvent ρ) :
    TellsRight lib config past s e ↔ Unwaited lib s e := by
  constructor
  · intro tells k answer session tier wait answers holds
    obtain ⟨b, hit, wait', happened, reported⟩ := tells k answer answers
    obtain ⟨_, _, _, _, none_said⟩ := metadata_of_answer recorded answers
    obtain ⟨_, holds'⟩ := happened.holds
    cases holds.symm.trans holds'
    have waited : 1000 * wait = 0 := reported.wait_unique none_said
    linarith
  · intro unwaited k answer answers
    obtain ⟨b, hit, wait, happened, reported⟩ := metadata_of_answer recorded answers
    obtain ⟨session, holds⟩ := happened.holds
    refine ⟨b, hit, wait, happened, ?_⟩
    rw [unwaited k answer session b.tier wait answers holds, mul_zero]
    exact reported

theorem recorded_run {events : List (HandlerEvent ρ)} {s : ChatHandler ρ}
    (ran : run (step lib) (new config) events = some s) : Recorded lib config events s :=
  past_invariant (fun _ _ _ _ recorded stepped => recorded_step recorded stepped) recorded_new ran

/-- **The record of a reply.** In a complete run every reply says what happened to its request
exactly if every request that is answered got its slot without a wait. -/
theorem metadata_tells_iff (lib : SchemaLibrary) (config : GatewayConfig)
    (events : List (HandlerEvent ρ)) (final : ChatHandler ρ)
    (complete : run (step lib) (new config) events = some final) :
    EveryStepAfter (step lib) (new config) events (TellsRight lib config) ↔
      EveryStepAfter (step lib) (new config) events fun _ s e => Unwaited lib s e :=
  everyStepAfter_iff (I := Recorded lib config)
    (fun _ _ _ _ recorded stepped => recorded_step recorded stepped)
    (fun _ _ e _ recorded _ => tellsRight_iff recorded e) recorded_new complete

/-! ## A request that waits for a slot -/

/-- A question on the big tier in a session. -/
def bigIn (sessionId : String) : IncomingRequest :=
  { bigQuestion with xSessionId := some sessionId }

/-- A question and its reply. -/
def askedAndAnswered : List (HandlerEvent ℕ) := [
  .receive 0 (bigIn "a") 0 0 AdmissionSystem.atStart, .gateway (.reply 0 (.obj []) 10)]

/-- The first question is answered at once. -/
theorem metadata_tells_iff_askedAndAnswered :
    ∃ final : ChatHandler ℕ,
      run (step plainLibrary) (new Gateway.oneSlot) askedAndAnswered = some final ∧
        (EveryStepAfter (step plainLibrary) (new Gateway.oneSlot) askedAndAnswered
            (TellsRight plainLibrary Gateway.oneSlot) ↔
          EveryStepAfter (step plainLibrary) (new Gateway.oneSlot) askedAndAnswered
            fun _ s e => Unwaited plainLibrary s e) := by
  have fires : (run (step plainLibrary) (new Gateway.oneSlot) askedAndAnswered).isSome = true := by
    decide +kernel
  obtain ⟨final, ran⟩ := Option.isSome_iff_exists.mp fires
  exact ⟨final, ran, metadata_tells_iff plainLibrary Gateway.oneSlot askedAndAnswered final ran⟩

/-- A second question waits ten seconds for the only slot, until the first one is answered. -/
def waitsForSlot : List (HandlerEvent ℕ) := [
  .receive 0 (bigIn "a") 0 0 AdmissionSystem.atStart,
  .receive 1 (bigIn "b") 0 0 AdmissionSystem.atStart, .gateway (.reply 0 (.obj []) 10),
  .gateway (.resume 1 10)]

/-- The reply to a question that waited says that it did not wait. -/
theorem wait_is_not_told :
    ¬ ∀ (lib : SchemaLibrary) (config : GatewayConfig) (events : List (HandlerEvent ℕ))
      (s : ChatHandler ℕ), run (step lib) (new config) events = some s →
      ∀ e, TellsRight lib config events s e := by
  intro always
  have before : ((run (step plainLibrary) (new Gateway.oneSlot) waitsForSlot).map fun s =>
      ((s.gateway.admission.tickets.get? 1).map Ticket.caller,
        (s.gateway.requests.get? 1).map Request.isOver)) =
      some (some (.holding 10), some false) := by
    decide +kernel
  have after : ((run (step plainLibrary) (new Gateway.oneSlot)
      (waitsForSlot ++ [.gateway (.reply 1 (.obj []) 11)])).map fun t =>
        (t.gateway.requests.get? 1).map fun r => r.stage.isCompleted) = some (some true) := by
    decide +kernel
  obtain ⟨t, on, shown⟩ := Option.map_eq_some_iff.mp after
  obtain ⟨r, found, completed⟩ := Option.map_eq_some_iff.mp shown
  obtain ⟨now, answer, answered⟩ := Stage.eq_of_isCompleted completed
  obtain ⟨s, ran, stepped⟩ := run_concat_eq_some.mp on
  rw [ran, Option.map_some, Option.some.injEq, Prod.mk.injEq] at before
  obtain ⟨⟨session, tier, caller⟩, ticket, rfl⟩ := Option.map_eq_some_iff.mp before.1
  obtain ⟨q, at_one, running⟩ := Option.map_eq_some_iff.mp before.2
  have answers : s.Answers plainLibrary (.gateway (.reply 1 (.obj []) 11)) 1 answer := by
    refine ⟨t, r, now, stepped, found, answered, fun q' at_one' => ?_⟩
    cases at_one.symm.trans at_one'
    exact running
  have told := always plainLibrary Gateway.oneSlot waitsForSlot s ran
    (.gateway (.reply 1 (.obj []) 11))
  have unwaited := (tellsRight_iff (recorded_run ran) _).mp told
  exact absurd (unwaited 1 answer session tier 10 answers ticket) (by decide)

end ChatHandler

end AgentServe
