import AgentServe.Admission.ControllerRuns
import AgentServe.Affinity.Scheduler
import AgentServe.Core.Json

/-!
# The chat endpoint

A chat request is routed to a tier, bound to a backend of the tier, admitted, and
forwarded. The answer is one reply, or a stream that the server takes from a
generator chunk by chunk. The slot the request was admitted with is given back by
the code that forwards it: at the end of the call, or when the generator ends or
is closed.

A step of the gateway is one uninterrupted stretch of one request, or a change of
backend status (`Gateway.step`). What the router decides, what the backends
reply, and what the server does with a response are inputs of the steps. The
server may let go of a generator it has never asked for a chunk. Closing a
generator that was let go is a step of the environment, the event loop's: a run
may take it late, or not at all.

The slots given back are logged with the requests that gave them back. The
program keeps no such log, and no step reads it.
-/

set_option autoImplicit false

namespace AgentServe

open Lib

/-! ## Requests -/

/-- An accepted body with its headers. `dumped` is the validated body as a dictionary without
the members that are null, if dumping it succeeds. `uuid` is the identifier drawn for a request
that names no session. -/
structure ChatInput where
  xSessionId : Option String
  xAgentId : Option String
  xTierHint : Option String
  uuid : String
  contents : List (Option String)
  stream : Bool
  dumped : Option (List (String × Json))

/-- The value of a header, unless it is empty. -/
def headerOr (header : Option String) (default : String) : String :=
  match header with
  | some text => if text = "" then default else text
  | none => default

def buildSession (input : ChatInput) : SessionContext where
  sessionId := headerOr input.xSessionId input.uuid
  agentId := headerOr input.xAgentId "anonymous"
  tierHint := (input.xTierHint.bind Tier.ofValue?).getD .auto

/-- A quarter of the characters of the messages, and fifty. -/
def estimatedTokens (input : ChatInput) : ℤ :=
  ((input.contents.map fun content => (content.getD "").length).sum / 4 + 50 : ℕ)

/-- The members of a body that the gateway keeps to itself. -/
def gatewayFields : List String :=
  ["session_id", "agent_id", "tier_hint", "x_session_id", "x_agent_id", "x_tier_hint"]

def stripGatewayFields (input : ChatInput) : Option (List (String × Json)) :=
  input.dumped.map fun fields => fields.filter fun field => field.1 ∉ gatewayFields

/-- The payload for a backend: the stripped body, with the backend's model if it has one. -/
def payloadFor (input : ChatInput) (b : BackendInfo) : Option (List (String × Json)) :=
  (stripGatewayFields input).map fun fields =>
    if b.model = "" then fields else Dict.setItems "model" (.str b.model) fields

/-- A header value that can be encoded. -/
def isLatin1 (text : String) : Bool := text.toList.all fun c => c.toNat < 256

/-- How a request ended: rejected by the gateway, failed inside it, answered with a reply,
answered with an upstream error, streamed to its end, dropped by the server, or cancelled. -/
inductive Exit where
  | rejected (e : GatewayException)
  | failed
  | completed (time : Time) (result : Json)
  | upstreamError
  | streamed
  | dropped
  | cancelled

/-- Where a request stands. Inside `gate`; with a generator that was not started; with a
generator that waits for its backend, that has handed out a chunk, that has handed out its last
event after a failure, or that was dropped after a chunk; waiting for the reply of its backend;
or ended. -/
inductive Stage where
  | waiting
  | pendingBody
  | awaiting
  | yielded
  | doneYielded
  | closing
  | completing
  | over (exit : Exit)

structure Request where
  input : ChatInput
  session : SessionContext
  decision : RoutingDecision
  backend : Option BackendInfo := none
  payload : Option (List (String × Json)) := none
  delivered : List (List UInt8) := []
  stage : Stage := .waiting

namespace Request

def isOver (r : Request) : Bool :=
  match r.stage with
  | .over _ => true
  | _ => false

/-- The metadata added to a reply. -/
def agentServeMeta (r : Request) (b : BackendInfo) : AgentServeMeta where
  tier := r.decision.tier
  backendId := b.id
  queueWaitMs := r.decision.queueWaitMs
  affinityHit := r.decision.affinityHit
  routingReason := r.decision.reason

/-- From the admission to the call of the backend, or to the response with a generator. -/
def afterGate (r : Request) (b : BackendInfo) : Request :=
  match payloadFor r.input b with
  | none => { r with stage := .over .failed }
  | some payload =>
    if r.input.stream then
      if isLatin1 b.id then { r with payload := some payload, stage := .pendingBody }
      else { r with payload := some payload, stage := .over .failed }
    else { r with payload := some payload, stage := .completing }

end Request

/-! ## Replies -/

def RoutingReason.value : RoutingReason → String
  | .tierHint => "tier_hint"
  | .promptLength => "prompt_length"
  | .toolFollowup => "tool_followup"
  | .classifier => "classifier"
  | .fallback => "fallback"

def AgentServeMeta.dump (m : AgentServeMeta) : Json :=
  .obj [("tier", .str m.tier.value), ("backend_id", .str m.backendId),
    ("queue_wait_ms", .number m.queueWaitMs), ("affinity_hit", .bool m.affinityHit),
    ("routing_reason", .str m.routingReason.value)]

/-- The tokens a reply reports, as they are counted. A usage that is empty or missing counts
nothing, and one that cannot be counted raises. -/
def reportTokens (result : Json) : Option ℚ := do
  let usage ← result.get "usage" (.obj [])
  if usage.truthy then
    let prompt ← (← usage.get "prompt_tokens" (.number 0)).increment
    let completion ← (← usage.get "completion_tokens" (.number 0)).increment
    return prompt + completion
  else return 0

/-- The reply to the client, if counting and rendering it succeed. -/
def renderReply (result : Json) (m : AgentServeMeta) : Option Json := do
  let _ ← reportTokens result
  let result ← result.set "x_agent_serve" m.dump
  if result.renderable then some result else none

/-- The last event of a stream. -/
def doneEvent : List UInt8 := "data: [DONE]\n\n".toList.flatMap String.utf8EncodeChar

/-! ## The gateway -/

/-- The labels of the counter of requests. -/
structure RequestLabels where
  tier : String
  backend : String
  outcome : RequestOutcome
deriving DecidableEq

structure Gateway (ρ : Type) where
  admission : AdmissionSystem ρ
  affinity : AffinityScheduler
  requests : Dict ρ Request
  requestsTotal : List RequestLabels
  givenBack : List (ρ × Tier)

/-- What can happen next: a request arrives with the router's decision; a request inside `gate`
is interrupted or wakes up; the server takes the next chunk of a body, or lets go of it, and the
event loop closes a generator that was let go; a backend delivers a chunk, ends its stream, fails
or replies; a request is cancelled while it waits for its backend; a status changes. -/
inductive GatewayEvent (ρ : Type) where
  | arrive (k : ρ) (input : ChatInput) (decision : RoutingDecision) (now made : Time)
    (clock : GateClock)
  | interrupt (k : ρ) (i : Interrupt)
  | resume (k : ρ) (finish : Time)
  | advance (k : ρ)
  | drop (k : ρ)
  | aclose (k : ρ)
  | chunk (k : ρ) (bytes : List UInt8)
  | upstreamEnds (k : ρ)
  | upstreamFails (k : ρ)
  | reply (k : ρ) (result : Json) (now : Time)
  | cancel (k : ρ)
  | markStatus (backendId : String) (status : BackendStatus)

namespace Gateway

variable {ρ : Type}

/-- The gateway at start-up. -/
def new (config : GatewayConfig) : Gateway ρ where
  admission := .new config.admission (.new config.admission) (.new config)
  affinity := .new config.affinity.stickyTtlSeconds
  requests := .empty
  requestsTotal := []
  givenBack := []

def registry (g : Gateway ρ) : BackendRegistry := g.admission.controller.registry

/-- Count a request under the tier and backend it was forwarded to. -/
def countRequest (g : Gateway ρ) (r : Request) (outcome : RequestOutcome) : Gateway ρ :=
  { g with requestsTotal := g.requestsTotal ++
      [⟨r.decision.tier.value, r.decision.backendId, outcome⟩] }

variable [DecidableEq ρ]

def setRequest (g : Gateway ρ) (k : ρ) (r : Request) : Gateway ρ :=
  { g with requests := g.requests.set k r }

def setStage (g : Gateway ρ) (k : ρ) (r : Request) (stage : Stage) : Gateway ρ :=
  g.setRequest k { r with stage }

/-- The answer to an exception of the gateway. Every such exception is counted under one
label. -/
def reject (g : Gateway ρ) (k : ρ) (r : Request) (e : GatewayException) : Gateway ρ :=
  let g : Gateway ρ :=
    { g with requestsTotal := g.requestsTotal ++ [⟨"unknown", "none", .budgetRejected⟩] }
  g.setStage k r (.over (.rejected e))

/-- Go on after a stretch of `gate`, with where it left the request. -/
def settle (g : Gateway ρ) (k : ρ) (r : Request) (b : BackendInfo) : Caller → Gateway ρ
  | .inside _ _ => g.setStage k r .waiting
  | .holding _ => g.setRequest k (r.afterGate b)
  | .raised (.exception e) => g.reject k r e
  | .raised (.keyError _) => g.setStage k r (.over .failed)
  | .raised .cancelled => g.setStage k r (.over .cancelled)
  -- No stretch of `gate` ends with a slot given back.
  | .released => g.setStage k r (.over .cancelled)

/-- Release the slot of a request, and log the slot given back, if there is one. -/
def giveBack (g : Gateway ρ) (k : ρ) : Option (Gateway ρ) := do
  let ticket ← g.admission.tickets.get? k
  let admission ← g.admission.step (.release k)
  let tier := g.admission.controller.held.get? ticket.session.sessionId
  return { g with admission, givenBack := g.givenBack ++ tier.toList.map fun t => (k, t) }

/-- Give the slot back at the end of a request. -/
def finish (g : Gateway ρ) (k : ρ) (r : Request) (exit : Exit) : Option (Gateway ρ) :=
  (g.giveBack k).map fun g => g.setStage k r (.over exit)

/-- The arrival of a request, with what the router decided, up to the first suspension in
`gate`. -/
def chatCompletions (g : Gateway ρ) (k : ρ) (input : ChatInput) (decision : RoutingDecision)
    (now made : Time) (clock : GateClock) : Option (Gateway ρ) :=
  let session := buildSession input
  let candidates := g.registry.getHealthyBackends decision.tier
  match g.affinity.selectBackend session decision.tier candidates now made with
  | (affinity, .error e) => some ({ g with affinity }.reject k { input, session, decision } e)
  | (affinity, .ok (b, hit)) =>
    let decision := { decision with backendId := b.id, affinityHit := hit }
    let r : Request := { input, session, decision, backend := some b }
    (g.admission.step (.gate k session decision.tier (estimatedTokens input) clock)).bind
      fun admission => (admission.tickets.get? k).map fun ticket =>
        { g with affinity, admission }.settle k r b ticket.caller

/-- A request inside `gate` is interrupted. -/
def interruptGate (g : Gateway ρ) (k : ρ) (r : Request) (i : Interrupt) : Option (Gateway ρ) :=
  match r.stage with
  | .waiting => (g.admission.step (.interrupt k i)).map fun admission => { g with admission }
  | _ => none

/-- A request inside `gate` wakes up. -/
def resumeGate (g : Gateway ρ) (k : ρ) (r : Request) (finish : Time) : Option (Gateway ρ) :=
  match r.stage, r.backend with
  | .waiting, some b =>
    (g.admission.step (.resume k finish)).bind fun admission =>
      (admission.tickets.get? k).map fun ticket =>
        { g with admission }.settle k r b ticket.caller
  | _, _ => none

/-- A backend fails. A call is answered with an error at once, and a stream hands out its last
event first. -/
def upstreamFails (g : Gateway ρ) (k : ρ) (r : Request) : Option (Gateway ρ) :=
  match r.stage with
  | .awaiting =>
    some ((g.countRequest r .upstreamError).setRequest k
      { r with delivered := r.delivered ++ [doneEvent], stage := .doneYielded })
  | .completing => (g.countRequest r .upstreamError).finish k r .upstreamError
  | _ => none

/-- A backend replies to a call. A reply that cannot be counted or rendered is answered as a
failure of the backend. -/
def complete (g : Gateway ρ) (k : ρ) (r : Request) (result : Json) (now : Time) :
    Option (Gateway ρ) :=
  match r.stage, r.backend with
  | .completing, some b =>
    let g := g.countRequest r .success
    match renderReply result (r.agentServeMeta b) with
    | some answer => g.finish k r (.completed now answer)
    | none => (g.countRequest r .upstreamError).finish k r .upstreamError
  | _, _ => none

/-- The server takes the next chunk of a body. -/
def advance (g : Gateway ρ) (k : ρ) (r : Request) : Option (Gateway ρ) :=
  match r.stage with
  | .pendingBody | .yielded => some (g.setStage k r .awaiting)
  | .doneYielded => g.finish k r .streamed
  | _ => none

/-- The server lets go of a body. A generator that was started is closed later, and one that was
not is never run. -/
def drop (g : Gateway ρ) (k : ρ) (r : Request) : Option (Gateway ρ) :=
  match r.stage with
  | .pendingBody => some (g.setStage k r (.over .dropped))
  | .yielded | .doneYielded => some (g.setStage k r .closing)
  | _ => none

/-- A generator that was let go is closed. -/
def aclose (g : Gateway ρ) (k : ρ) (r : Request) : Option (Gateway ρ) :=
  match r.stage with
  | .closing => g.finish k r .dropped
  | _ => none

/-- A backend delivers a chunk of a stream. -/
def chunk (g : Gateway ρ) (k : ρ) (r : Request) (bytes : List UInt8) : Option (Gateway ρ) :=
  match r.stage with
  | .awaiting =>
    some (g.setRequest k { r with delivered := r.delivered ++ [bytes], stage := .yielded })
  | _ => none

/-- A backend ends its stream. -/
def upstreamEnds (g : Gateway ρ) (k : ρ) (r : Request) : Option (Gateway ρ) :=
  match r.stage with
  | .awaiting => (g.countRequest r .success).finish k r .streamed
  | _ => none

/-- A request is cancelled while it waits for its backend. -/
def cancel (g : Gateway ρ) (k : ρ) (r : Request) : Option (Gateway ρ) :=
  match r.stage with
  | .awaiting | .completing => g.finish k r .cancelled
  | _ => none

/-- One step. -/
def step (g : Gateway ρ) : GatewayEvent ρ → Option (Gateway ρ)
  | .arrive k input decision now made clock =>
    match g.requests.get? k with
    | none => g.chatCompletions k input decision now made clock
    | some _ => none
  | .interrupt k i => (g.requests.get? k).bind fun r => g.interruptGate k r i
  | .resume k finish => (g.requests.get? k).bind fun r => g.resumeGate k r finish
  | .advance k => (g.requests.get? k).bind (g.advance k)
  | .drop k => (g.requests.get? k).bind (g.drop k)
  | .aclose k => (g.requests.get? k).bind (g.aclose k)
  | .chunk k bytes => (g.requests.get? k).bind fun r => g.chunk k r bytes
  | .upstreamEnds k => (g.requests.get? k).bind (g.upstreamEnds k)
  | .upstreamFails k => (g.requests.get? k).bind (g.upstreamFails k)
  | .reply k result now => (g.requests.get? k).bind fun r => g.complete k r result now
  | .cancel k => (g.requests.get? k).bind (g.cancel k)
  | .markStatus backendId status =>
    (g.admission.step (.markStatus backendId status)).map fun admission => { g with admission }

end Gateway

/-! ## A short request -/

/-- A greeting in a session. -/
def hello (session : String) (stream : Bool) : ChatInput where
  xSessionId := some session
  xAgentId := none
  xTierHint := none
  uuid := "0"
  contents := [some "hello"]
  stream := stream
  dumped := some [("messages", .arr [.obj [("role", .str "user"), ("content", .str "hello")]]),
    ("stream", .bool stream)]

/-- What the router decides for a greeting on a tier, with the first backend of the tier. -/
def greeted (tier : Tier) (backendId : String) : RoutingDecision where
  tier := tier
  backendId := backendId
  reason := .promptLength

end AgentServe
