import AgentServe.Gateway.Answers

/-!
# Responses

What the client of a request receives (`Request.response?`). A stream is answered with its head
before the backend is called, so its status is decided by then. A call is answered when the backend
has replied or failed.

So the two paths never answer alike when a backend fails before the first byte of a body: the client
of a call gets the upstream error, and the client of a stream gets a 200 whose only event is the
last one (`failure_answers_differ`).
-/

set_option autoImplicit false

namespace AgentServe

open Lib GatewayEvent

inductive ResponseBody where
  | json (content : Json)
  | stream (chunks : List (List UInt8))

structure HttpResponse where
  status : ℕ
  body : ResponseBody

/-- The body of an error. -/
def errorBody (message : String) : ResponseBody :=
  .json (.obj [("error", .obj [("message", .str message)])])

/-- The answer to a call whose backend failed. -/
def upstreamErrorResponse : HttpResponse := ⟨502, errorBody "upstream error"⟩

/-- What the client of a request has received, if it has received anything. The head of a stream
goes out when the server asks for the first chunk. -/
def Request.response? (r : Request) : Option HttpResponse :=
  match r.stage with
  | .over (.rejected e) => some ⟨e.statusCode, errorBody e.detail⟩
  | .over .failed => some ⟨500, errorBody "internal gateway error"⟩
  | .over (.completed _ result) => some ⟨200, .json result⟩
  | .over .upstreamError => some upstreamErrorResponse
  | .awaiting | .yielded | .doneYielded | .closing | .over .streamed =>
    some ⟨200, .stream r.delivered⟩
  | .over .dropped => if r.delivered = [] then none else some ⟨200, .stream r.delivered⟩
  | .waiting | .pendingBody | .completing | .over .cancelled => none

/-- A backend failed before it delivered a byte of a body. -/
def FailsBeforeFirstByte {ρ : Type} (es : List (GatewayEvent ρ)) : Prop :=
  failed es = true ∧ (sent es).flatten = []

/-- A stream and a call are answered alike, with the upstream error, and neither with a 200. -/
structure AgreeOnFailure (stream call : Request) : Prop where
  same : stream.response? = call.response?
  upstream : call.response? = some upstreamErrorResponse
  error : ∀ response, stream.response? = some response ∨ call.response? = some response →
    response.status ≠ 200

namespace Gateway

variable {ρ : Type} {ticket : Option Ticket} {es : List (GatewayEvent ρ)} {r : Request}

/-- A call whose backend failed is answered with the upstream error. -/
theorem response_of_failed_call (course : Course ticket es r r.stage) (failed : failed es = true)
    (call : r.input.stream = false) : r.response? = some upstreamErrorResponse := by
  rcases stage_of_failed course failed with ⟨streamed, _⟩ | ⟨_, stage⟩
  · cases streamed.stream.symm.trans call
  · rw [Request.response?, stage]

/-- A stream whose backend failed is answered with a 200, and with what the backend delivered and
a last event. -/
theorem response_of_failed_stream (course : Course ticket es r r.stage) (failed : failed es = true)
    (stream : r.input.stream = true) :
    r.response? = some ⟨200, .stream (sent es ++ [doneEvent])⟩ := by
  rcases stage_of_failed course failed with ⟨streamed, stages⟩ | ⟨call, _⟩
  · have handed : r.delivered = sent es ++ [doneEvent] := by
      rw [streamed.delivered, if_pos failed]
    unfold Request.response?
    rcases stages with stage | stage | stage | stage
    all_goals
      rw [stage]
      simp [handed]
  · cases stream.symm.trans call

variable [DecidableEq ρ]

/-- **The two paths never answer alike.** Of any two requests whose backends fail before the first
byte of a body, the call is answered with the upstream error, and the stream with a 200 and nothing
but the last event. -/
theorem failure_answers_differ (config config' : GatewayConfig)
    (events events' : List (GatewayEvent ρ)) (g g' : Gateway ρ)
    (ran : run step (new config) events = some g) (ran' : run step (new config') events' = some g')
    (k k' : ρ) (r r' : Request) (found : g.requests.get? k = some r)
    (found' : g'.requests.get? k' = some r') (stream : r.input.stream = true)
    (call : r'.input.stream = false) (fails : FailsBeforeFirstByte (ownEvents k events))
    (fails' : FailsBeforeFirstByte (ownEvents k' events')) :
    ¬ AgreeOnFailure r r' ∧ r'.response? = some upstreamErrorResponse ∧
      ∃ chunks, r.response? = some ⟨200, .stream chunks⟩ ∧ chunks.flatten = doneEvent := by
  have streamed := response_of_failed_stream ((accounted_run ran k).course r found) fails.1 stream
  have called := response_of_failed_call ((accounted_run ran' k').course r' found') fails'.1 call
  refine ⟨fun agree => ?_, called, _, streamed, ?_⟩
  · exact agree.error _ (.inl streamed) rfl
  · rw [List.flatten_append, fails.2]
    simp

/-! ## A backend that cannot be reached -/

/-- A stream whose backend fails at once. -/
def failedStream : List (GatewayEvent ℕ) := [
  .arrive 0 (hello "s" true) (greeted .big "big-0") 0 0 AdmissionSystem.atStart, .advance 0,
  .upstreamFails 0]

/-- A call whose backend fails at once. -/
def failedCall : List (GatewayEvent ℕ) := [
  .arrive 0 (hello "s" false) (greeted .big "big-0") 0 0 AdmissionSystem.atStart,
  .upstreamFails 0]

/-- The requests that a backend fails for. -/
theorem failed_requests :
    ∃ (g g' : Gateway ℕ) (r r' : Request), run step (new shippedConfig) failedStream = some g ∧
      run step (new shippedConfig) failedCall = some g' ∧ g.requests.get? 0 = some r ∧
      g'.requests.get? 0 = some r' ∧ r.input.stream = true ∧ r'.input.stream = false ∧
      r.response?.map HttpResponse.status = some 200 := by
  have streamed : ((run step (new shippedConfig) failedStream).bind fun g =>
      (g.requests.get? 0).map fun r =>
        (r.input.stream, r.response?.map HttpResponse.status)) = some (true, some 200) := by
    decide +kernel
  have called : ((run step (new shippedConfig) failedCall).bind fun g =>
      (g.requests.get? 0).map fun r => r.input.stream) = some false := by
    decide +kernel
  obtain ⟨g, r, ran, found, shown⟩ := request_of_eval streamed
  obtain ⟨stream, status⟩ := Prod.mk.inj shown
  obtain ⟨g', r', ran', found', call⟩ := request_of_eval called
  exact ⟨g, g', r, r', ran, ran', found, found', stream, call, status⟩

/-- The stream is answered with a 200. -/
theorem failed_stream_is_answered_ok :
    ¬ ∀ (config : GatewayConfig) (events events' : List (GatewayEvent ℕ)) (g g' : Gateway ℕ),
      run step (new config) events = some g → run step (new config) events' = some g' →
      ∀ (k : ℕ) (r r' : Request), g.requests.get? k = some r → g'.requests.get? k = some r' →
        r.input.stream = true → r'.input.stream = false →
        FailsBeforeFirstByte (ownEvents k events) → FailsBeforeFirstByte (ownEvents k events') →
        AgreeOnFailure r r' := by
  intro always
  obtain ⟨g, g', r, r', ran, ran', found, found', stream, call, status⟩ := failed_requests
  have agree := always shippedConfig failedStream failedCall g g' ran ran' 0 r r' found found'
    stream call ⟨rfl, rfl⟩ ⟨rfl, rfl⟩
  obtain ⟨response, answered, ok⟩ := Option.map_eq_some_iff.mp status
  exact agree.error response (.inl answered) ok

/-- The answers to the two requests. -/
theorem failure_answers_differ_at_once :
    ∃ r r' : Request, ¬ AgreeOnFailure r r' ∧ r'.response? = some upstreamErrorResponse ∧
      ∃ chunks, r.response? = some ⟨200, .stream chunks⟩ ∧ chunks.flatten = doneEvent := by
  obtain ⟨g, g', r, r', ran, ran', found, found', stream, call, _⟩ := failed_requests
  exact ⟨r, r', failure_answers_differ shippedConfig shippedConfig failedStream failedCall g g' ran
    ran' 0 0 r r' found found' stream call ⟨rfl, rfl⟩ ⟨rfl, rfl⟩⟩

end Gateway

end AgentServe
