import AgentServe.Core.Schemas
import AgentServe.Gateway.Chat

/-!
# The payload of a request

A body is read by the schema, dumped without its null members, stripped of the
members that are for the gateway, and given the model of the backend
(`lookup_payload`). Members that the schema has no field for are lost on the way, at
the top and inside the messages, and a member that is read as another value is
forwarded as that value. So the backend gets the client's request exactly if the
body has no such member (`payload_carries_iff`).
-/

set_option autoImplicit false

namespace AgentServe

open Json (nonNull)
open Schema

/-- The input of the handler for an accepted body, with the headers. -/
def ChatInput.ofRequest (lib : SchemaLibrary) (xSessionId xAgentId xTierHint : Option String)
    (uuid : String) (r : ChatCompletionRequest) : ChatInput where
  xSessionId := xSessionId
  xAgentId := xAgentId
  xTierHint := xTierHint
  uuid := uuid
  contents := r.messages.map ChatMessage.content
  stream := r.stream
  dumped := if lib.dumps (.obj r.modelDump) then some r.modelDump else none

/-! ## What is forwarded -/

/-- The members at the top of a body that have a field and are not for the gateway. -/
def requestNames : List String :=
  ["model", "messages", "stream", "temperature", "max_tokens", "tools", "tool_choice"]

/-- The members of a body that are for the gateway only. -/
def gatewayOnly : List String :=
  ["session_id", "agent_id", "tier_hint", "x_session_id", "x_agent_id", "x_tier_hint"]

/-- The members that are forwarded without being sent. -/
def schemaDefaults : List (String × Json) := [("stream", .bool false)]

/-- A message with the members of another that are not null, and no others. -/
def CarriesMessage (sent forwarded : Json) : Prop :=
  ∃ fields kept, sent = .obj fields ∧ forwarded = .obj kept ∧
    ∀ name, kept.lookup name = nonNull fields name

/-- The payload is the client's request. -/
structure Carries (fields payload : List (String × Json)) (b : BackendInfo) : Prop where
  kept : ∀ name value, nonNull fields name = some value → name ∉ gatewayOnly →
    name ≠ "messages" → (name = "model" → b.model = "") → payload.lookup name = some value
  messages : ∃ sent forwarded, fields.lookup "messages" = some (.arr sent) ∧
    payload.lookup "messages" = some (.arr forwarded) ∧ List.Forall₂ CarriesMessage sent forwarded
  model : b.model ≠ "" → payload.lookup "model" = some (.str b.model)
  stripped : ∀ name ∈ gatewayOnly, payload.lookup name = none
  nothingElse : ∀ name value, payload.lookup name = some value →
    (nonNull fields name).isSome ∨ (name, value) ∈ schemaDefaults

/-- A message in which every member that is not null has a field. -/
def MessageNamed (j : Json) : Prop :=
  ∀ fields, j = .obj fields → ∀ name value, nonNull fields name = some value →
    name ∈ ChatMessage.names

/-- A body that the schema conveys: all its members that are not null have fields, and those that
are read as a Boolean, a float or an integer are one. -/
structure Conveyed (lib : SchemaLibrary) (fields : List (String × Json)) : Prop where
  named : ∀ name value, nonNull fields name = some value → name ∈ requestNames ++ gatewayOnly
  messages : ∀ items, fields.lookup "messages" = some (.arr items) → ∀ j ∈ items, MessageNamed j
  stream : ∀ j value, nonNull fields "stream" = some j → lib.toBool j = some value →
    j = .bool value
  temperature : ∀ j value, nonNull fields "temperature" = some j → lib.toFloat j = some value →
    j = value
  maxTokens : ∀ j value, nonNull fields "max_tokens" = some j → lib.toInt j = some value →
    j = .number value

/-! ## The members of the payload -/

/-- What is stripped is what is for the gateway only. -/
theorem gatewayFields_eq : gatewayFields = gatewayOnly := rfl

theorem lookup_payload {input : ChatInput} {b : BackendInfo}
    {dumped payload : List (String × Json)} (dump : input.dumped = some dumped)
    (built : payloadFor input b = some payload) (name : String) :
    payload.lookup name =
      if b.model ≠ "" ∧ name = "model" then some (.str b.model)
      else if name ∈ gatewayOnly then none else dumped.lookup name := by
  have stripped : (dumped.filter fun e => e.1 ∉ gatewayOnly).lookup name =
      if name ∈ gatewayOnly then none else dumped.lookup name := by
    rw [Json.lookup_filter fun key => key ∉ gatewayOnly]
    by_cases kept : name ∈ gatewayOnly <;> simp [kept]
  rw [payloadFor, stripGatewayFields, dump, Option.map_some, Option.map_some,
    gatewayFields_eq] at built
  cases built
  by_cases named : b.model = ""
  · simp only [named, if_true, stripped, ne_eq, not_true_eq_false, false_and, if_false]
  · simp only [named, if_false, Json.lookup_setItems, stripped, ne_eq, not_false_eq_true,
      true_and]

theorem dumped_of_payload {lib : SchemaLibrary} {xSessionId xAgentId xTierHint : Option String}
    {uuid : String} {r : ChatCompletionRequest} {b : BackendInfo} {payload : List (String × Json)}
    (built : payloadFor (ChatInput.ofRequest lib xSessionId xAgentId xTierHint uuid r) b =
      some payload) :
    (ChatInput.ofRequest lib xSessionId xAgentId xTierHint uuid r).dumped = some r.modelDump := by
  rw [payloadFor, stripGatewayFields] at built
  obtain ⟨_, stripped, _⟩ := Option.map_eq_some_iff.mp built
  obtain ⟨dumped, dump, _⟩ := Option.map_eq_some_iff.mp stripped
  have whole : (if lib.dumps (.obj r.modelDump) then some r.modelDump else none) = some dumped :=
    dump
  split at whole
  · exact dump.trans whole.symm
  · cases whole

/-- The messages are forwarded with all their members exactly if their members all have fields. -/
theorem carriesMessages_iff {items : List Json} {messages : List ChatMessage}
    (read : items.mapM ChatMessage.validate = some messages) :
    List.Forall₂ CarriesMessage items (messages.map fun m => .obj m.modelDump) ↔
      ∀ j ∈ items, MessageNamed j := by
  induction items generalizing messages with
  | nil =>
      cases read
      simp
  | cons j rest ih =>
      rw [List.mapM_cons] at read
      obtain ⟨m, first, read⟩ := Option.bind_eq_some_iff.mp read
      obtain ⟨others, remaining, read⟩ := Option.bind_eq_some_iff.mp read
      cases read
      obtain ⟨fields, rfl, dumped⟩ := ChatMessage.lookup_modelDump first
      have here : CarriesMessage (.obj fields) (.obj m.modelDump) ↔
          MessageNamed (.obj fields) := by
        constructor
        · rintro ⟨sent, kept, same, forwarded, all⟩ other equal name value found
          cases same
          cases forwarded
          cases equal
          by_contra unnamed
          have lost := all name
          rw [dumped, if_neg unnamed, found] at lost
          cases lost
        · intro named
          refine ⟨fields, m.modelDump, rfl, rfl, fun name => ?_⟩
          rw [dumped]
          cases found : nonNull fields name with
          | none => exact ite_self none
          | some value => exact if_pos (named fields rfl name value found)
      rw [List.map_cons, List.forall₂_cons, List.forall_mem_cons, here, ih remaining]

namespace ChatCompletionRequest

variable {lib : SchemaLibrary} {fields : List (String × Json)} {r : ChatCompletionRequest}

/-- The messages are read from the member of the body, and dumped from the record. -/
theorem lookup_messages (r : ChatCompletionRequest) :
    r.modelDump.lookup "messages" = some (.arr (r.messages.map fun m => .obj m.modelDump)) := by
  rw [lookup_modelDump]
  rfl

/-- What a conveyed body has under a name of a field is dumped. -/
theorem Accepted.dumped_of_conveyed (accepted : Accepted lib fields r)
    (conveyed : Conveyed lib fields) {name : String} {value : Json}
    (found : nonNull fields name = some value) (known : name ∈ requestNames)
    (other : name ≠ "messages") : r.modelDump.lookup name = some value := by
  simp only [requestNames, List.mem_cons, List.not_mem_nil, or_false] at known
  rw [lookup_modelDump]
  rcases known with rfl | rfl | rfl | rfl | rfl | rfl | rfl
  · exact accepted.model.trans found
  · exact absurd rfl other
  · exact (dumped_iff_of_notNull accepted.stream).mpr conveyed.stream value found
  · have kept := (dumped_iff_of_nullable accepted.temperature).mpr conveyed.temperature value found
    rwa [Option.map_id'] at kept
  · exact (dumped_iff_of_nullable accepted.maxTokens).mpr conveyed.maxTokens value found
  · exact accepted.tools.trans found
  · exact accepted.toolChoice.trans found

/-- What is dumped under a name that is not the gateway's was sent, or is a default. -/
theorem Accepted.sent_of_dumped (accepted : Accepted lib fields r) {name : String} {value : Json}
    (dumped : r.modelDump.lookup name = some value) (other : name ∉ gatewayOnly) :
    (nonNull fields name).isSome ∨ (name, value) ∈ schemaDefaults := by
  have known : name ∈ names := by
    by_contra unnamed
    rw [lookup_modelDump_of_notMem unnamed] at dumped
    cases dumped
  cases sent : nonNull fields name with
  | some j => exact .inl rfl
  | none =>
      rw [lookup_modelDump] at dumped
      simp only [names, List.mem_cons, List.not_mem_nil, or_false] at known
      rcases known with rfl | rfl | rfl | rfl | rfl | rfl | rfl | rfl | rfl | rfl
      · rw [← accepted.model] at sent
        cases sent
      · obtain ⟨items, found, _⟩ := accepted.messages
        rw [nonNull, found] at sent
        cases sent
      · have default : r.stream = false := notNull_of_nonNull_none sent accepted.stream
        cases (Option.some.inj dumped : Json.bool r.stream = value)
        simp [default, schemaDefaults]
      · have missing := nullable_of_nonNull_none sent accepted.temperature
        cases (missing.symm.trans dumped : none = some value)
      · have missing := nullable_of_nonNull_none sent accepted.maxTokens
        have empty : r.maxTokens.map (fun n : ℤ => Json.number n) = some value := dumped
        rw [missing] at empty
        cases empty
      · cases (sent.symm.trans (accepted.tools.symm.trans dumped) : none = some value)
      · cases (sent.symm.trans (accepted.toolChoice.symm.trans dumped) : none = some value)
      all_goals exact absurd (by decide) other

end ChatCompletionRequest

open ChatCompletionRequest

/-! ## When the payload is the request -/

section Built

variable {lib : SchemaLibrary} {xSessionId xAgentId xTierHint : Option String} {uuid : String}
  {fields payload : List (String × Json)} {r : ChatCompletionRequest} {b : BackendInfo}

/-- Members other than the model and the gateway's own are forwarded as they are dumped. -/
theorem lookup_payload_of_plain
    (built : payloadFor (ChatInput.ofRequest lib xSessionId xAgentId xTierHint uuid r) b =
      some payload) {name : String} (differ : name ≠ "model") (other : name ∉ gatewayOnly) :
    payload.lookup name = r.modelDump.lookup name := by
  rw [lookup_payload (dumped_of_payload built) built, if_neg (fun both => differ both.2),
    if_neg other]

/-- A payload that carries the request shows that nothing was lost on the way. -/
theorem Carries.conveyed (accepted : Accepted lib fields r)
    (built : payloadFor (ChatInput.ofRequest lib xSessionId xAgentId xTierHint uuid r) b =
      some payload) (carries : Carries fields payload b) : Conveyed lib fields := by
  have kept : ∀ {name : String} {value : Json}, nonNull fields name = some value →
      name ≠ "model" → name ∉ gatewayOnly → name ≠ "messages" →
      r.modelDump.lookup name = some value := by
    intro name value sent differ other apart
    rw [← lookup_payload_of_plain built differ other]
    exact carries.kept name value sent other apart fun same => absurd same differ
  refine {
    named := ?_
    messages := ?_
    stream := (dumped_iff_of_notNull accepted.stream).mp fun j sent => ?_
    temperature := (dumped_iff_of_nullable accepted.temperature).mp fun j sent => ?_
    maxTokens := (dumped_iff_of_nullable accepted.maxTokens).mp fun j sent => ?_ }
  · intro name value sent
    by_contra unnamed
    have differ : ∀ {known : String}, known ∈ requestNames ++ gatewayOnly → name ≠ known :=
      fun member same => unnamed (same ▸ member)
    have lost := kept sent (differ (by decide))
      (fun own => unnamed (List.mem_append_right _ own)) (differ (by decide))
    have unknown : name ∉ names := fun known =>
      unnamed ((by decide : ∀ n ∈ names, n ∈ requestNames ++ gatewayOnly) name known)
    rw [lookup_modelDump_of_notMem unknown] at lost
    cases lost
  · intro items here
    obtain ⟨read, found, each⟩ := accepted.messages
    obtain ⟨sent, forwarded, at_messages, shown, all⟩ := carries.messages
    cases found.symm.trans here
    cases found.symm.trans at_messages
    rw [lookup_payload_of_plain built (by decide) (by decide), lookup_messages] at shown
    cases shown
    exact (carriesMessages_iff each).mp all
  · have dumped := kept sent (by decide) (by decide) (by decide)
    rwa [lookup_modelDump] at dumped
  · have dumped := kept sent (by decide) (by decide) (by decide)
    rw [lookup_modelDump] at dumped
    exact Option.map_id'.trans dumped
  · have dumped := kept sent (by decide) (by decide) (by decide)
    rwa [lookup_modelDump] at dumped

/-- A body that the schema conveys is carried by its payload. -/
theorem Conveyed.carries (accepted : Accepted lib fields r)
    (built : payloadFor (ChatInput.ofRequest lib xSessionId xAgentId xTierHint uuid r) b =
      some payload) (conveyed : Conveyed lib fields) : Carries fields payload b := by
  have members := lookup_payload (dumped_of_payload built) built
  obtain ⟨items, found, each⟩ := accepted.messages
  refine {
    kept := ?_
    messages := ⟨items, _, found,
      (lookup_payload_of_plain built (by decide) (by decide)).trans (lookup_messages r),
      (carriesMessages_iff each).mpr (conveyed.messages items found)⟩
    model := fun named => by rw [members, if_pos ⟨named, rfl⟩]
    stripped := ?_
    nothingElse := ?_ }
  · intro name value sent other apart model
    have known : name ∈ requestNames :=
      (List.mem_append.mp (conveyed.named name value sent)).resolve_right other
    rw [members, if_neg (fun both => both.1 (model both.2)), if_neg other]
    exact accepted.dumped_of_conveyed conveyed sent known apart
  · intro name own
    have differ : name ≠ "model" := by
      rintro rfl
      exact absurd own (by decide)
    rw [members, if_neg (fun both => differ both.2), if_pos own]
  · intro name value shown
    rw [members] at shown
    split at shown
    · rename_i model
      rw [model.2, ← accepted.model]
      exact .inl rfl
    · split at shown
      · cases shown
      · rename_i other
        exact accepted.sent_of_dumped shown other

end Built

/-- **When the backend gets the client's request.** The payload for an accepted body has every
member of the body that is not null with its value, but for the gateway's own members and the
model, and nothing else but defaults, exactly if the schema has a field for every such member, at
the top and inside the messages, and reads each of them as the value it is. -/
theorem payload_carries_iff (lib : SchemaLibrary) (xSessionId xAgentId xTierHint : Option String)
    (uuid : String) (fields payload : List (String × Json)) (r : ChatCompletionRequest)
    (b : BackendInfo) (read : ChatCompletionRequest.validate lib (.obj fields) = some r)
    (built : payloadFor (ChatInput.ofRequest lib xSessionId xAgentId xTierHint uuid r) b =
      some payload) :
    Carries fields payload b ↔ Conveyed lib fields := by
  have accepted := accepted_of_validate read
  exact ⟨Carries.conveyed accepted built, Conveyed.carries accepted built⟩

/-! ## A body with a stop sequence -/

/-- A schema library that reads Booleans and numbers as what they are, and nothing else. -/
def plainLibrary : SchemaLibrary where
  toBool
    | .bool b => some b
    | _ => none
  toFloat
    | .number q => some (.number q)
    | _ => none
  toInt
    | .number q => if q.den = 1 then some q.num else none
    | _ => none
  dumps _ := true

def stopBody : List (String × Json) := [
  ("model", .str "auto"), ("messages", .arr [.obj [("role", .str "user"), ("content", .str "hi")]]),
  ("temperature", .number (1 / 2)), ("stop", .arr [.str "END"]), ("x_session_id", .str "s")]

def stopRequest : ChatCompletionRequest where
  model := "auto"
  messages := [{ role := "user", content := some "hi" }]
  temperature := some (.number (1 / 2))
  sessionId := some "s"

def stopInput : ChatInput := .ofRequest plainLibrary none none none "0" stopRequest

def stopBackend : BackendInfo where
  id := "small-0"
  tier := .small
  baseUrl := "http://vllm-small-0:8002"
  gpu := 0
  maxInflight := 64
  model := "Qwen/Qwen2.5-7B-Instruct"

def stopPayload : List (String × Json) := [
  ("model", .str "Qwen/Qwen2.5-7B-Instruct"),
  ("messages", .arr [.obj [("role", .str "user"), ("content", .str "hi")]]),
  ("stream", .bool false), ("temperature", .number (1 / 2))]

theorem stopRequest_read : validate plainLibrary (.obj stopBody) = some stopRequest := rfl

theorem stopPayload_built : payloadFor stopInput stopBackend = some stopPayload := rfl

/-- The stop sequence is not forwarded. -/
theorem stop_is_dropped :
    ¬ ∀ (lib : SchemaLibrary) (xSessionId xAgentId xTierHint : Option String) (uuid : String)
      (fields payload : List (String × Json)) (r : ChatCompletionRequest) (b : BackendInfo),
      validate lib (.obj fields) = some r →
      payloadFor (ChatInput.ofRequest lib xSessionId xAgentId xTierHint uuid r) b = some payload →
      Carries fields payload b := by
  intro always
  have forwards := always plainLibrary none none none "0" stopBody stopPayload stopRequest
    stopBackend stopRequest_read stopPayload_built
  have kept := forwards.kept "stop" (.arr [.str "END"]) rfl (by decide) (by decide)
    fun model => absurd model (by decide)
  have lost : stopPayload.lookup "stop" = none := rfl
  rw [lost] at kept
  cases kept

/-- The condition for the body with the stop sequence. -/
theorem payload_carries_iff_with_stop :
    Carries stopBody stopPayload stopBackend ↔ Conveyed plainLibrary stopBody :=
  payload_carries_iff plainLibrary none none none "0" stopBody stopPayload stopRequest stopBackend
    stopRequest_read stopPayload_built

end AgentServe
