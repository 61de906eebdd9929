import AgentServe.Core.Json
import AgentServe.Core.Models

/-!
# The request schema

A request body is read into a typed record: every member has its type, and members
without a field are ignored. Dumping the record gives a body again, without the
members that are null.

A member of one type is read as it is, so it is dumped as it was
(`lookup_modelDump`). Booleans, floats and integers are also read from other values,
and the member that is dumped may then be another one. What they are read from is
left to the schema library.
-/

set_option autoImplicit false

namespace AgentServe

/-- What the schema library decides: which values, other than null, are read as a Boolean, a
float and an integer, and which values can be dumped again. -/
structure SchemaLibrary where
  toBool : Json → Option Bool
  toFloat : Json → Option Json
  toInt : Json → Option ℤ
  dumps : Json → Bool

namespace Schema

open Json (nonNull)

/-! ## Members -/

variable {α : Type}

/-- A member that has to be there. -/
def required (value : Option Json) (parse : Json → Option α) : Option α := value.bind parse

/-- A member with a default. -/
def defaulted (value : Option Json) (default : α) (parse : Json → Option α) : Option α :=
  match value with
  | none => some default
  | some j => parse j

/-- Null is read as nothing. -/
def nullable (parse : Json → Option α) : Json → Option (Option α)
  | .null => some none
  | j => (parse j).map some

/-- Null is refused. -/
def notNull (parse : Json → Option α) : Json → Option α
  | .null => none
  | j => parse j

def str? : Json → Option String
  | .str s => some s
  | _ => none

def list? : Json → Option (List Json)
  | .arr items => some items
  | _ => none

def strOrDict? : Json → Option Json
  | .str s => some (.str s)
  | .obj fields => some (.obj fields)
  | _ => none

def tier? : Json → Option Tier
  | .str s => Tier.ofValue? s
  | _ => none

/-- A member with two names. The first name has precedence. -/
def aliased (fields : List (String × Json)) (first name : String) : Option Json :=
  (fields.lookup first).or (fields.lookup name)

variable {parse : Json → Option α} {fields : List (String × Json)} {name : String}

/-- A member that is not null is there. -/
theorem lookup_of_nonNull {j : Json} (found : nonNull fields name = some j) :
    fields.lookup name = some j ∧ j ≠ .null := by
  obtain ⟨here, value⟩ := Option.filter_eq_some_iff.mp found
  refine ⟨here, ?_⟩
  rintro rfl
  cases value

/-- A member without a value is missing or null. -/
theorem lookup_of_nonNull_none (absent : nonNull fields name = none) :
    fields.lookup name = none ∨ fields.lookup name = some .null := by
  cases found : fields.lookup name with
  | none => exact .inl rfl
  | some j =>
      rw [nonNull, found] at absent
      cases j with
      | null => exact .inr rfl
      | _ => cases absent

theorem nullable_of_nonNull {j : Json} {a : Option α} (found : nonNull fields name = some j)
    (read : defaulted (fields.lookup name) none (nullable parse) = some a) :
    ∃ b, parse j = some b ∧ a = some b := by
  obtain ⟨here, value⟩ := lookup_of_nonNull found
  rw [here] at read
  have parsed : (parse j).map some = some a := by
    cases j with
    | null => exact absurd rfl value
    | _ => exact read
  obtain ⟨b, result, same⟩ := Option.map_eq_some_iff.mp parsed
  exact ⟨b, result, same.symm⟩

theorem nullable_of_nonNull_none {a : Option α} (absent : nonNull fields name = none)
    (read : defaulted (fields.lookup name) none (nullable parse) = some a) : a = none := by
  rcases lookup_of_nonNull_none absent with missing | null
  · rw [missing] at read
    exact (Option.some.inj read).symm
  · rw [null] at read
    exact (Option.some.inj read).symm

theorem notNull_of_nonNull {j : Json} {a default : α} (found : nonNull fields name = some j)
    (read : defaulted (fields.lookup name) default (notNull parse) = some a) :
    parse j = some a := by
  obtain ⟨here, value⟩ := lookup_of_nonNull found
  rw [here] at read
  cases j with
  | null => exact absurd rfl value
  | _ => exact read

theorem notNull_of_nonNull_none {a default : α} (absent : nonNull fields name = none)
    (read : defaulted (fields.lookup name) default (notNull parse) = some a) : a = default := by
  rcases lookup_of_nonNull_none absent with missing | null
  · rw [missing] at read
    exact (Option.some.inj read).symm
  · rw [null] at read
    cases read

/-- A value that is read from a member is dumped as the member was exactly if no value of the
member is read as another. -/
theorem dumped_iff_of_nullable {dump : α → Json} {a : Option α}
    (read : defaulted (fields.lookup name) none (nullable parse) = some a) :
    (∀ j, nonNull fields name = some j → a.map dump = some j) ↔
      ∀ j b, nonNull fields name = some j → parse j = some b → j = dump b := by
  constructor
  · intro kept j b found parsed
    obtain ⟨c, here, rfl⟩ := nullable_of_nonNull found read
    rw [parsed] at here
    cases here
    exact (Option.some.inj (kept j found)).symm
  · intro exact j found
    obtain ⟨b, here, rfl⟩ := nullable_of_nonNull found read
    rw [Option.map_some, ← exact j b found here]

theorem dumped_iff_of_notNull {dump : α → Json} {a default : α}
    (read : defaulted (fields.lookup name) default (notNull parse) = some a) :
    (∀ j, nonNull fields name = some j → some (dump a) = some j) ↔
      ∀ j b, nonNull fields name = some j → parse j = some b → j = dump b := by
  constructor
  · intro kept j b found parsed
    have here := notNull_of_nonNull found read
    rw [parsed] at here
    cases here
    exact (Option.some.inj (kept j found)).symm
  · intro exact j found
    rw [← exact j a found (notNull_of_nonNull found read)]

/-! ## Members that are dumped as they are read -/

/-- What is read is dumped as it was, and null is not read. -/
def Exact (parse : Json → Option α) (dump : α → Json) : Prop :=
  ∀ j a, parse j = some a → dump a = j ∧ j.isNull = false

theorem exact_str : Exact str? .str := by
  intro j s read
  cases j <;> cases read
  exact ⟨rfl, rfl⟩

theorem exact_list : Exact list? .arr := by
  intro j items read
  cases j <;> cases read
  exact ⟨rfl, rfl⟩

theorem exact_strOrDict : Exact strOrDict? id := by
  intro j value read
  cases j <;> cases read <;> exact ⟨rfl, rfl⟩

variable {dump : α → Json}

theorem Exact.required (exact : Exact parse dump) {a : α}
    (read : required (fields.lookup name) parse = some a) :
    some (dump a) = nonNull fields name := by
  obtain ⟨j, found, parsed⟩ := Option.bind_eq_some_iff.mp read
  obtain ⟨rfl, value⟩ := exact j a parsed
  simp [nonNull, found, Option.filter, value]

theorem Exact.nullable (exact : Exact parse dump) {a : Option α}
    (read : defaulted (fields.lookup name) none (nullable parse) = some a) :
    a.map dump = nonNull fields name := by
  cases found : nonNull fields name with
  | none =>
      rw [nullable_of_nonNull_none found read]
      rfl
  | some j =>
      obtain ⟨b, parsed, rfl⟩ := nullable_of_nonNull found read
      rw [Option.map_some, (exact j b parsed).1]

end Schema

open Schema Json

/-! ## Messages -/

structure ChatMessage where
  role : String
  content : Option String := none
  toolCalls : Option (List Json) := none
  toolCallId : Option String := none

namespace ChatMessage

def validate : Json → Option ChatMessage
  | .obj fields => do
    let role ← required (fields.lookup "role") str?
    let content ← defaulted (fields.lookup "content") none (nullable str?)
    let toolCalls ← defaulted (fields.lookup "tool_calls") none (nullable list?)
    let toolCallId ← defaulted (fields.lookup "tool_call_id") none (nullable str?)
    return { role, content, toolCalls, toolCallId }
  | _ => none

/-- The fields as members of a dictionary. -/
def members (m : ChatMessage) : List (String × Option Json) := [
  ("role", some (.str m.role)), ("content", m.content.map .str),
  ("tool_calls", m.toolCalls.map .arr), ("tool_call_id", m.toolCallId.map .str)]

/-- The message as a dictionary, without the members that are null. -/
def modelDump (m : ChatMessage) : List (String × Json) := present m.members

/-- The members of a message with a field. -/
def names : List String := ["role", "content", "tool_calls", "tool_call_id"]

theorem nodup_members (m : ChatMessage) : (m.members.map Prod.fst).Nodup :=
  show names.Nodup by decide

/-- A message that is read is an object, and dumping it gives the members with a field. -/
theorem lookup_modelDump {j : Json} {m : ChatMessage} (read : validate j = some m) :
    ∃ fields, j = .obj fields ∧
      ∀ name, m.modelDump.lookup name = if name ∈ names then nonNull fields name else none := by
  cases j with
  | obj fields =>
      obtain ⟨role, readRole, read⟩ := Option.bind_eq_some_iff.mp read
      obtain ⟨content, readContent, read⟩ := Option.bind_eq_some_iff.mp read
      obtain ⟨toolCalls, readCalls, read⟩ := Option.bind_eq_some_iff.mp read
      obtain ⟨toolCallId, readId, read⟩ := Option.bind_eq_some_iff.mp read
      cases read
      refine ⟨fields, rfl, fun name => ?_⟩
      rw [modelDump, lookup_present (nodup_members _), members, exact_str.required readRole,
        exact_str.nullable readContent, exact_list.nullable readCalls, exact_str.nullable readId]
      by_cases known : name ∈ names
      · rw [if_pos known]
        simp only [names, List.mem_cons, List.not_mem_nil, or_false] at known
        rcases known with rfl | rfl | rfl | rfl <;> rfl
      · rw [if_neg known, List.lookup_eq_none_iff.mpr, Option.join_none]
        intro e member
        simp only [List.mem_cons, List.not_mem_nil, or_false] at member
        simp only [names, List.mem_cons, List.not_mem_nil, or_false, not_or] at known
        rcases member with rfl | rfl | rfl | rfl <;> simp [known]
  | _ => cases read

end ChatMessage

/-! ## Requests -/

structure ChatCompletionRequest where
  model : String
  messages : List ChatMessage
  stream : Bool := false
  temperature : Option Json := none
  maxTokens : Option ℤ := none
  tools : Option (List Json) := none
  toolChoice : Option Json := none
  sessionId : Option String := none
  agentId : Option String := none
  tierHint : Tier := .auto

namespace ChatCompletionRequest

def validate (lib : SchemaLibrary) : Json → Option ChatCompletionRequest
  | .obj fields => do
    let model ← required (fields.lookup "model") str?
    let messages ← required (fields.lookup "messages") fun j =>
      (list? j).bind (List.mapM ChatMessage.validate)
    let stream ← defaulted (fields.lookup "stream") false (notNull lib.toBool)
    let temperature ← defaulted (fields.lookup "temperature") none (nullable lib.toFloat)
    let maxTokens ← defaulted (fields.lookup "max_tokens") none (nullable lib.toInt)
    let tools ← defaulted (fields.lookup "tools") none (nullable list?)
    let toolChoice ← defaulted (fields.lookup "tool_choice") none (nullable strOrDict?)
    let sessionId ← defaulted (aliased fields "x_session_id" "session_id") none (nullable str?)
    let agentId ← defaulted (aliased fields "x_agent_id" "agent_id") none (nullable str?)
    let tierHint ← defaulted (aliased fields "x_tier_hint" "tier_hint") .auto tier?
    return {
      model, messages, stream, temperature, maxTokens, tools, toolChoice, sessionId, agentId,
      tierHint }
  | _ => none

/-- The fields as members of a dictionary, under their names. -/
def members (r : ChatCompletionRequest) : List (String × Option Json) := [
  ("model", some (.str r.model)),
  ("messages", some (.arr (r.messages.map fun m => .obj m.modelDump))),
  ("stream", some (.bool r.stream)), ("temperature", r.temperature),
  ("max_tokens", r.maxTokens.map fun n : ℤ => .number n), ("tools", r.tools.map .arr),
  ("tool_choice", r.toolChoice), ("session_id", r.sessionId.map .str),
  ("agent_id", r.agentId.map .str), ("tier_hint", some (.str r.tierHint.value))]

/-- The request as a dictionary, without the members that are null. -/
def modelDump (r : ChatCompletionRequest) : List (String × Json) := present r.members

/-- The names of the fields. -/
def names : List String := [
  "model", "messages", "stream", "temperature", "max_tokens", "tools", "tool_choice", "session_id",
  "agent_id", "tier_hint"]

theorem nodup_members (r : ChatCompletionRequest) : (r.members.map Prod.fst).Nodup :=
  show names.Nodup by decide

theorem lookup_modelDump (r : ChatCompletionRequest) (name : String) :
    r.modelDump.lookup name = (r.members.lookup name).join :=
  lookup_present r.nodup_members name

/-- What is not a field is not dumped. -/
theorem lookup_modelDump_of_notMem {r : ChatCompletionRequest} {name : String}
    (unnamed : name ∉ names) : r.modelDump.lookup name = none :=
  lookup_present_of_notMem (show name ∉ r.members.map Prod.fst from unnamed)

/-- What is known of a body that was read. -/
structure Accepted (lib : SchemaLibrary) (fields : List (String × Json))
    (r : ChatCompletionRequest) : Prop where
  model : some (.str r.model) = nonNull fields "model"
  messages : ∃ items, fields.lookup "messages" = some (.arr items) ∧
    items.mapM ChatMessage.validate = some r.messages
  stream : defaulted (fields.lookup "stream") false (notNull lib.toBool) = some r.stream
  temperature : defaulted (fields.lookup "temperature") none (nullable lib.toFloat) =
    some r.temperature
  maxTokens : defaulted (fields.lookup "max_tokens") none (nullable lib.toInt) = some r.maxTokens
  tools : r.tools.map .arr = nonNull fields "tools"
  toolChoice : r.toolChoice = nonNull fields "tool_choice"

theorem accepted_of_validate {lib : SchemaLibrary} {fields : List (String × Json)}
    {r : ChatCompletionRequest} (read : validate lib (.obj fields) = some r) :
    Accepted lib fields r := by
  obtain ⟨model, readModel, read⟩ := Option.bind_eq_some_iff.mp read
  obtain ⟨messages, readMessages, read⟩ := Option.bind_eq_some_iff.mp read
  obtain ⟨stream, readStream, read⟩ := Option.bind_eq_some_iff.mp read
  obtain ⟨temperature, readTemperature, read⟩ := Option.bind_eq_some_iff.mp read
  obtain ⟨maxTokens, readMax, read⟩ := Option.bind_eq_some_iff.mp read
  obtain ⟨tools, readTools, read⟩ := Option.bind_eq_some_iff.mp read
  obtain ⟨toolChoice, readChoice, read⟩ := Option.bind_eq_some_iff.mp read
  obtain ⟨sessionId, readSession, read⟩ := Option.bind_eq_some_iff.mp read
  obtain ⟨agentId, readAgent, read⟩ := Option.bind_eq_some_iff.mp read
  obtain ⟨tierHint, readHint, read⟩ := Option.bind_eq_some_iff.mp read
  cases read
  obtain ⟨j, found, listed⟩ := Option.bind_eq_some_iff.mp readMessages
  obtain ⟨items, array, each⟩ := Option.bind_eq_some_iff.mp listed
  obtain ⟨rfl, _⟩ := exact_list j items array
  exact {
    model := exact_str.required readModel
    messages := ⟨items, found, each⟩
    stream := readStream
    temperature := readTemperature
    maxTokens := readMax
    tools := exact_list.nullable readTools
    toolChoice := by simpa using exact_strOrDict.nullable readChoice }

end ChatCompletionRequest

end AgentServe
