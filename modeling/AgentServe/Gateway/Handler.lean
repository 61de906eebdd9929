import AgentServe.Gateway.Payload
import AgentServe.Lib.Run
import AgentServe.Routing.Router

/-!
# The chat handler and its router

A chat request is routed before it takes its turn at the affinity scheduler. If the
router has to ask the classifier, the request waits for the reply first, and other
requests go on in the meantime. From the decision on a request is one of the
gateway's, and a run of the handler is a run of the gateway with decisions that the
router made (`gateway_run`).

The session of a request is built from its headers, and the backend its session was
bound to is not among them. So the rule that keeps a tool result on the tier of its
session never applies (`followup_loses_tier`).
-/

set_option autoImplicit false

namespace AgentServe

open Lib

/-- An accepted request: its headers, the identifier drawn in case it names no session, and its
body. -/
structure IncomingRequest where
  xSessionId : Option String := none
  xAgentId : Option String := none
  xTierHint : Option String := none
  uuid : String := "0"
  body : ChatCompletionRequest

namespace IncomingRequest

def input (lib : SchemaLibrary) (q : IncomingRequest) : ChatInput :=
  .ofRequest lib q.xSessionId q.xAgentId q.xTierHint q.uuid q.body

def session (lib : SchemaLibrary) (q : IncomingRequest) : SessionContext :=
  buildSession (q.input lib)

end IncomingRequest

/-- A request was answered by its backend, with a reply or a whole stream. -/
def Request.answered (r : Request) : Bool :=
  match r.stage with
  | .over (.completed _ _) | .over .streamed => true
  | _ => false

/-- A request that waits for the classifier. -/
structure PendingRoute where
  request : IncomingRequest
  call : ClassifierCall

/-- The gateway with the router in front of it. -/
structure ChatHandler (ρ : Type) where
  gateway : Gateway ρ
  router : TierRouter
  routing : Dict ρ PendingRoute

/-- What can happen next: a request is received; the classifier's call for a request ends; a
request is cancelled while it waits for the classifier; something happens in the gateway other than
an arrival. -/
inductive HandlerEvent (ρ : Type) where
  | receive (k : ρ) (request : IncomingRequest) (now made : Time) (clock : GateClock)
  | classified (k : ρ) (reply : ClassifierReply) (now made : Time) (clock : GateClock)
  | abandon (k : ρ)
  | gateway (e : GatewayEvent ρ)

namespace ChatHandler

variable {ρ : Type}

def new (config : GatewayConfig) : ChatHandler ρ := ⟨.new config, .new config.routing, .empty⟩

def registry (s : ChatHandler ρ) : BackendRegistry := s.gateway.registry

/-- The last request of a session that was routed. -/
def previous (s : ChatHandler ρ) (sessionId : String) : Option Request :=
  (s.gateway.requests.values.filter fun r => r.session.sessionId = sessionId).getLast?

variable [DecidableEq ρ] (lib : SchemaLibrary)

/-- A request goes on with the decision of the router. -/
def arrive (s : ChatHandler ρ) (k : ρ) (request : IncomingRequest) (decision : RoutingDecision)
    (now made : Time) (clock : GateClock) : Option (ChatHandler ρ) :=
  (s.gateway.step (.arrive k (request.input lib) decision now made clock)).map fun gateway =>
    { s with gateway }

/-- The routing of a request that is received. -/
def routeOf (s : ChatHandler ρ) (request : IncomingRequest) (now : Time) : TierRouter × Routing :=
  s.router.route s.registry (request.session lib) request.body.messages now

/-- One step. -/
def step (s : ChatHandler ρ) : HandlerEvent ρ → Option (ChatHandler ρ)
  | .receive k request now made clock =>
    match s.routing.get? k, s.gateway.requests.get? k with
    | none, none =>
      match s.routeOf lib request now with
      | (router, .decided decision) =>
        { s with router }.arrive lib k request decision now made clock
      | (router, .asking call) =>
        some { s with router, routing := s.routing.set k ⟨request, call⟩ }
    | _, _ => none
  | .classified k reply now made clock =>
    (s.routing.get? k).bind fun p =>
      match s.router.replied s.registry p.call reply now with
      | (router, decision) =>
        { s with router, routing := s.routing.erase k }.arrive lib k p.request decision now made
          clock
  | .abandon k => (s.routing.get? k).map fun _ => { s with routing := s.routing.erase k }
  | .gateway e =>
    match e with
    | .arrive .. => none
    | e => (s.gateway.step e).map fun gateway => { s with gateway }

/-- In a state, an event makes a decision for a request. -/
inductive Decides (s : ChatHandler ρ) : HandlerEvent ρ → IncomingRequest → RoutingDecision → Prop
    where
  | atOnce {k : ρ} {request : IncomingRequest} {now made : Time} {clock : GateClock}
    {d : RoutingDecision} (decided : (s.routeOf lib request now).2 = .decided d) :
    Decides s (.receive k request now made clock) request d
  | afterReply {k : ρ} {reply : ClassifierReply} {now made : Time} {clock : GateClock}
    {p : PendingRoute} (waits : s.routing.get? k = some p) :
    Decides s (.classified k reply now made clock) p.request
      (s.router.replied s.registry p.call reply now).2

/-! ## The gateway inside -/

theorem gateway_of_arrive {lib : SchemaLibrary} {s t : ChatHandler ρ} {k : ρ}
    {request : IncomingRequest} {decision : RoutingDecision} {now made : Time} {clock : GateClock}
    (arrived : s.arrive lib k request decision now made clock = some t) :
    s.gateway.step (.arrive k (request.input lib) decision now made clock) = some t.gateway := by
  obtain ⟨gateway, stepped, rfl⟩ := Option.map_eq_some_iff.mp arrived
  exact stepped

/-- Step lemma: a step of the handler is a step of the gateway, or leaves it as it was. -/
theorem gateway_of_step {lib : SchemaLibrary} {s t : ChatHandler ρ} {e : HandlerEvent ρ}
    (stepped : s.step lib e = some t) :
    t.gateway = s.gateway ∨ ∃ f, s.gateway.step f = some t.gateway := by
  cases e with
  | receive k request now made clock =>
      simp only [step] at stepped
      split at stepped
      · split at stepped
        · have inside := gateway_of_arrive stepped
          exact .inr ⟨_, inside⟩
        · cases stepped
          exact .inl rfl
      · cases stepped
  | classified k reply now made clock =>
      obtain ⟨p, _, arrived⟩ := Option.bind_eq_some_iff.mp stepped
      split at arrived
      have inside := gateway_of_arrive arrived
      exact .inr ⟨_, inside⟩
  | abandon k =>
      obtain ⟨p, _, rfl⟩ := Option.map_eq_some_iff.mp stepped
      exact .inl rfl
  | gateway e =>
      simp only [step] at stepped
      split at stepped
      · cases stepped
      · obtain ⟨gateway, inside, rfl⟩ := Option.map_eq_some_iff.mp stepped
        exact .inr ⟨_, inside⟩

/-- **A run of the handler is a run of the gateway.** -/
theorem gateway_run {lib : SchemaLibrary} {config : GatewayConfig} {events : List (HandlerEvent ρ)}
    {s : ChatHandler ρ} (ran : run (step lib) (new config) events = some s) :
    ∃ steps, run Gateway.step (Gateway.new config) steps = some s.gateway :=
  run_project ChatHandler.gateway (fun _ _ _ stepped => gateway_of_step stepped) ran

/-! ## Tool results -/

/-- A request without a hint ends with a tool result, the previous request of its session was
bound to a backend, and the tier of that backend has a healthy one. -/
structure FollowsUp (config : GatewayConfig) (s : ChatHandler ρ) (request : IncomingRequest)
    (b : BackendInfo) : Prop where
  enabled : config.routing.toolFollowupStaysSameTier = true
  unhinted : (request.session lib).tierHint = .auto
  tool : request.body.messages.getLast?.map ChatMessage.role = some "tool"
  previous : (s.previous (request.session lib).sessionId).bind Request.backend = some b
  healthy : s.registry.getHealthyBackends b.tier ≠ []

/-- The decision for a tool result is for the tier of its session, and says so. -/
def KeepsTier (b : BackendInfo) (d : RoutingDecision) : Prop :=
  d.tier = b.tier ∧ d.reason = .toolFollowup

/-- The session of a request has no backend. -/
theorem assignedBackendId_session (lib : SchemaLibrary) (request : IncomingRequest) :
    (request.session lib).assignedBackendId = none := rfl

theorem reason_lookUp (registry : BackendRegistry) (tier : Tier) (reason : RoutingReason)
    (used : Bool) :
    (lookUp registry tier reason used).reason = reason ∨
      (lookUp registry tier reason used).reason = .fallback := by
  unfold lookUp
  split
  · exact .inl rfl
  · split
    · exact .inr rfl
    · exact .inl rfl

/-- No decision is a tool follow-up. -/
theorem reason_of_decides {lib : SchemaLibrary} {s : ChatHandler ρ} {e : HandlerEvent ρ}
    {request : IncomingRequest} {d : RoutingDecision} (decides : s.Decides lib e request d) :
    d.reason ≠ .toolFollowup := by
  have looked : ∀ {registry tier reason used}, reason ≠ .toolFollowup →
      (lookUp registry tier reason used).reason ≠ .toolFollowup := by
    intro registry tier reason used other same
    rcases reason_lookUp registry tier reason used with kept | fallback
    · exact other (kept.symm.trans same)
    · cases fallback.symm.trans same
  cases decides with
  | afterReply waits => exact looked (by decide)
  | atOnce decided =>
      unfold routeOf TierRouter.route at decided
      split at decided
      · rename_i tier reason selected
        cases decided
        apply looked
        rcases selectTier_reason (assignedBackendId_session lib request) selected with rfl | rfl
        · decide
        · decide
      · split at decided
        · cases decided
          exact looked (by decide)
        · cases decided
          exact looked (by decide)
        · cases decided

/-- **Tool results do not stay on their tier.** In no run is a request that follows up on the
previous request of its session routed as a tool follow-up to the tier of that request. -/
theorem followup_loses_tier (config : GatewayConfig) (events : List (HandlerEvent ρ)) :
    EveryStep (step lib) (new config) events fun s e =>
      ∀ request d b, s.Decides lib e request d → s.FollowsUp lib config request b →
        ¬ KeepsTier b d := by
  intro first e second s _ _ request d b decides _ keeps
  exact reason_of_decides decides keeps.2

/-! ## A tool result after a big call -/

/-- A question on the big tier, and the request with the result of the tool its answer called. -/
def bigQuestion : IncomingRequest where
  xSessionId := some "s"
  xTierHint := some "big"
  body := { model := "auto", messages := [{ role := "user", content := some "hi" }] }

def toolResult : IncomingRequest where
  xSessionId := some "s"
  body := {
    model := "auto"
    messages := [
      { role := "user", content := some "hi" },
      { role := "assistant", toolCalls := some [] },
      { role := "tool", content := some "42", toolCallId := some "c" }] }

/-- The question is answered by the big backend, and the tool result is received. -/
def bigThenTool : List (HandlerEvent ℕ) := [
  .receive 0 bigQuestion 0 0 AdmissionSystem.atStart, .gateway (.reply 0 (.obj []) 1),
  .receive 1 toolResult 2 2 AdmissionSystem.atStart]

/-- The classifier finds the tool result small. -/
def foundSmall : HandlerEvent ℕ :=
  .classified 1 (.answered (.obj [("tier", .str "small")])) 3 3 AdmissionSystem.atStart

/-- The tool result follows up on a call that the big backend answered. -/
theorem toolResult_followsUp :
    ∃ (s : ChatHandler ℕ) (request : IncomingRequest) (d : RoutingDecision) (b : BackendInfo),
      run (step plainLibrary) (new shippedConfig) bigThenTool = some s ∧
        s.Decides plainLibrary foundSmall request d ∧
        s.FollowsUp plainLibrary shippedConfig request b ∧
        (s.previous (request.session plainLibrary).sessionId).map Request.answered = some true := by
  have facts : ((run (step plainLibrary) (new shippedConfig) bigThenTool).map fun s =>
      (((s.routing.get? 1).map fun p => ((p.request.session plainLibrary).tierHint,
          (p.request.session plainLibrary).sessionId,
          p.request.body.messages.getLast?.map ChatMessage.role)),
        (((s.previous "s").bind Request.backend).map fun b =>
          (s.registry.getHealthyBackends b.tier).isEmpty),
        (s.previous "s").map Request.answered)) =
      some (some (.auto, "s", some "tool"), some false, some true) := by
    decide +kernel
  obtain ⟨s, ran, shown⟩ := Option.map_eq_some_iff.mp facts
  obtain ⟨waiting, shown⟩ := Prod.mk.inj shown
  obtain ⟨bound, answered⟩ := Prod.mk.inj shown
  obtain ⟨p, waits, session⟩ := Option.map_eq_some_iff.mp waiting
  obtain ⟨unhinted, named, tool⟩ :
      (p.request.session plainLibrary).tierHint = .auto ∧
        (p.request.session plainLibrary).sessionId = "s" ∧
        p.request.body.messages.getLast?.map ChatMessage.role = some "tool" := by
    simpa using session
  obtain ⟨b, previous, pool⟩ := Option.map_eq_some_iff.mp bound
  have healthy : s.registry.getHealthyBackends b.tier ≠ [] := by
    intro empty
    rw [empty] at pool
    cases pool
  exact ⟨s, p.request, _, b, ran, .afterReply waits,
    ⟨rfl, unhinted, tool, named ▸ previous, healthy⟩, named ▸ answered⟩

/-- A tool result is not kept on the tier of its session, although the previous request of the
session was answered. -/
theorem tool_result_is_not_kept :
    ¬ ∀ (lib : SchemaLibrary) (config : GatewayConfig) (events : List (HandlerEvent ℕ))
      (s : ChatHandler ℕ), run (step lib) (new config) events = some s →
      ∀ e request d b, s.Decides lib e request d → s.FollowsUp lib config request b →
        (s.previous (request.session lib).sessionId).map Request.answered = some true →
        KeepsTier b d := by
  intro always
  obtain ⟨s, request, d, b, ran, decides, follows, answered⟩ := toolResult_followsUp
  have keeps := always plainLibrary shippedConfig bigThenTool s ran _ request d b decides follows
    answered
  exact reason_of_decides decides keeps.2

/-- The tool result that the classifier finds small. -/
theorem followup_loses_tier_after_big_call :
    ∃ (s : ChatHandler ℕ) (request : IncomingRequest) (d : RoutingDecision) (b : BackendInfo),
      s.Decides plainLibrary foundSmall request d ∧
        s.FollowsUp plainLibrary shippedConfig request b ∧ ¬ KeepsTier b d := by
  obtain ⟨s, request, d, b, ran, decides, follows, _⟩ := toolResult_followsUp
  exact ⟨s, request, d, b, decides, follows,
    followup_loses_tier plainLibrary shippedConfig (bigThenTool ++ [foundSmall]) bigThenTool
      foundSmall [] s rfl ran request d b decides follows⟩

end ChatHandler

end AgentServe
