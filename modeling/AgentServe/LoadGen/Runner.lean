import AgentServe.Gateway.Metadata

/-!
# The runner of a session

A runner of the load generator sends the turns of a session to the gateway and makes a
row of every turn. A session names itself in a header, and the gateway takes that name,
so the turns of a session are turns of one session at the gateway, and no two sessions
share a name (`sessionId_injective`, `session_of_request`).

A turn that fails is a row with the status zero. What a reply says is read member by
member, and what was read before a failure stays in the row. So only the rows with the
status of a success say what the gateway did, and these do: the row of a reply names the
backend that the request was forwarded to, its tier, and whether the scheduler kept the
session there (`row_of_answer`).
-/

set_option autoImplicit false

namespace AgentServe

open Lib

/-! ## Profiles and rows -/

structure TurnSpec where
  minTurns : ℤ := 1
  maxTurns : ℤ := 5
  systemPromptChars : ℤ := 2000
  userPromptChars : ℤ := 200

structure ProfileConfig where
  name : String
  concurrency : ℕ := 10
  totalSessions : ℕ := 100
  thinkTimeSeconds : ℚ := 1 / 2
  turnSpec : TurnSpec := {}
  tierHint : String := "auto"

structure ResultRow where
  requestId : String
  sessionId : String
  agentId : String
  tier : String
  backendId : String
  ttftMs : ℚ
  e2eMs : ℚ
  inputTokens : ℤ
  outputTokens : ℤ
  affinityHit : Bool
  statusCode : ℤ
  timestampIso : String
  profile : String
deriving DecidableEq

/-- The number of a session in five digits, or in as many as it has. -/
def paddedIndex (k : ℕ) : List Char :=
  List.replicate (5 - (Nat.toDigits 10 k).length) '0' ++ Nat.toDigits 10 k

def ProfileConfig.sessionId (profile : ProfileConfig) (k : ℕ) : String :=
  "loadgen-" ++ profile.name ++ "-" ++ String.ofList (paddedIndex k)

/-! ## Prompts -/

/-- The first characters of a text, or, from a negative number on, all but the last ones. -/
def sliceTo (text : List Char) (n : ℤ) : List Char :=
  if 0 ≤ n then text.take n.toNat else text.take (text.length - n.natAbs)

/-- A text a number of times. -/
def repeated (text : List Char) (n : ℤ) : List Char := (List.replicate n.toNat text).flatten

def sharedSystemPromptBase : List Char :=
  "You are a helpful assistant. ".toList ++
    repeated "Analyze the following carefully. ".toList 50

def makeSystemPrompt (chars : ℤ) : List Char :=
  sliceTo (repeated sharedSystemPromptBase (chars.fdiv sharedSystemPromptBase.length + 1)) chars

def templates : List String := [
  "Explain the concept of caching in distributed systems.",
  "What are the tradeoffs between consistency and availability?",
  "Summarize what you know about gradient descent.",
  "How does prefix caching work in LLM serving?",
  "What is the difference between TCP and UDP?",
  "Describe a good approach for load testing an API.",
  "What is rendezvous hashing and when should you use it?",
  "Explain the sliding window algorithm for rate limiting."]

def makeUserPrompt (chars : ℤ) (turn : ℕ) : List Char :=
  sliceTo ((templates.getD (turn % templates.length) "").toList ++ [' '] ++
    repeated "Provide a detailed explanation. ".toList 10) chars

/-- The system prompt has as many characters as are asked for. -/
theorem length_makeSystemPrompt {chars : ℤ} (asked : 0 ≤ chars) :
    ((makeSystemPrompt chars).length : ℤ) = chars := by
  obtain ⟨b, base⟩ : ∃ b, sharedSystemPromptBase.length = b := ⟨_, rfl⟩
  have some_base : 0 < b := by
    rw [← base]
    decide +kernel
  have long : ((repeated sharedSystemPromptBase (chars.fdiv b + 1)).length : ℤ) =
      (chars.fdiv b + 1) * b := by
    have whole : 0 ≤ chars.fdiv b := Int.fdiv_nonneg asked (Int.natCast_nonneg b)
    have times : ((chars.fdiv b + 1).toNat : ℤ) = chars.fdiv b + 1 :=
      Int.toNat_of_nonneg (by omega)
    rw [repeated, List.length_flatten, List.map_replicate, List.sum_replicate, base, nsmul_eq_mul,
      Nat.cast_mul, Nat.cast_id, times]
  have enough : chars < (chars.fdiv b + 1) * b := by
    rw [Int.fdiv_eq_ediv_of_nonneg _ (Int.natCast_nonneg b)]
    exact Int.lt_ediv_add_one_mul_self chars (Int.natCast_pos.mpr some_base)
  rw [makeSystemPrompt, base, sliceTo, if_pos asked, List.length_take]
  omega

namespace SessionRunner

/-! ## Turns -/

/-- The body of the request of a turn. -/
def payload (profile : ProfileConfig) (turn : ℕ) : List (String × Json) := [
  ("model", .str "auto"),
  ("messages", .arr [
    .obj [("role", .str "system"),
      ("content", .str (.ofList (makeSystemPrompt profile.turnSpec.systemPromptChars)))],
    .obj [("role", .str "user"),
      ("content", .str (.ofList (makeUserPrompt profile.turnSpec.userPromptChars turn)))]]),
  ("stream", .bool false)]

/-- The request of a turn as the gateway receives it, with its headers. -/
def request? (lib : SchemaLibrary) (profile : ProfileConfig) (sessionId uuid : String)
    (turn : ℕ) : Option IncomingRequest :=
  (ChatCompletionRequest.validate lib (.obj (payload profile turn))).map fun body =>
    { xSessionId := some sessionId, xAgentId := some "loadgen",
      xTierHint := some profile.tierHint, uuid, body }

/-- A response, with its body if that is a document. -/
structure TurnResponse where
  statusCode : ℤ
  json : Option Json

/-- What a turn meets: its response, unless the call failed, and how many milliseconds it took until
the response was there, and until it failed. -/
structure TurnOutcome where
  requestId : String
  response : Option TurnResponse
  answeredMs : ℚ := 0
  failedMs : ℚ := 0
  timestampIso : String

/-- What is read of a reply. -/
structure TurnLocals where
  tier : Json := .str "unknown"
  backendId : Json := .str "unknown"
  affinityHit : Json := .bool false
  inputTokens : Json := .number 0
  outputTokens : Json := .number 0

namespace TurnLocals

def readMetadata (l : TurnLocals) (data : Json) : Option TurnLocals := do
  let told ← data.get "x_agent_serve" (.obj [])
  let tier ← told.get "tier" (.str "unknown")
  let backendId ← told.get "backend_id" (.str "unknown")
  let affinityHit ← told.get "affinity_hit" (.bool false)
  return { l with tier, backendId, affinityHit }

def readUsage (l : TurnLocals) (data : Json) : Option TurnLocals := do
  let usage ← data.get "usage" .null
  let usage := if usage.truthy then usage else .obj []
  let inputTokens ← usage.get "prompt_tokens" (.number 0)
  let outputTokens ← usage.get "completion_tokens" (.number 0)
  return { l with inputTokens, outputTokens }

/-- Read a reply. What was read before a failure stays read. -/
def read (l : TurnLocals) (data : Json) : TurnLocals × Bool :=
  match l.readMetadata data with
  | none => (l, false)
  | some l =>
    match l.readUsage data with
    | none => (l, false)
    | some l => (l, true)

end TurnLocals

/-! ## Rows -/

/-- The row of a turn, unless the schema refuses what was read. -/
def makeRow (lib : SchemaLibrary) (profile : ProfileConfig) (sessionId : String) (o : TurnOutcome)
    (l : TurnLocals) (statusCode : ℤ) (ttftMs e2eMs : ℚ) : Option ResultRow := do
  let tier ← Schema.str? l.tier
  let backendId ← Schema.str? l.backendId
  let inputTokens ← Schema.notNull lib.toInt l.inputTokens
  let outputTokens ← Schema.notNull lib.toInt l.outputTokens
  let affinityHit ← Schema.notNull lib.toBool l.affinityHit
  return {
    requestId := o.requestId, sessionId, agentId := "loadgen", tier, backendId, ttftMs, e2eMs,
    inputTokens, outputTokens, affinityHit, statusCode, timestampIso := o.timestampIso,
    profile := profile.name }

/-- One turn. -/
def singleTurn (lib : SchemaLibrary) (profile : ProfileConfig) (sessionId : String)
    (o : TurnOutcome) : Option ResultRow :=
  match o.response with
  | none => makeRow lib profile sessionId o {} 0 0 o.failedMs
  | some r =>
    if r.statusCode = 200 then
      match r.json with
      | none => makeRow lib profile sessionId o {} 0 o.answeredMs o.failedMs
      | some data =>
        match ({} : TurnLocals).read data with
        | (l, true) => makeRow lib profile sessionId o l 200 o.answeredMs o.answeredMs
        | (l, false) => makeRow lib profile sessionId o l 0 o.answeredMs o.failedMs
    else makeRow lib profile sessionId o {} r.statusCode o.answeredMs o.answeredMs

/-! ## The name of a session -/

/-- The number can be read off its padded digits. -/
theorem ofDigitChars_paddedIndex (k : ℕ) : Nat.ofDigitChars 10 (paddedIndex k) 0 = k := by
  have zeros : ∀ n (rest : List Char),
      Nat.ofDigitChars 10 (List.replicate n '0' ++ rest) 0 = Nat.ofDigitChars 10 rest 0 := by
    intro n rest
    induction n with
    | zero => rfl
    | succ n ih =>
        rw [List.replicate_succ, List.cons_append, Nat.ofDigitChars_cons]
        exact ih
  rw [paddedIndex, zeros, Nat.ofDigitChars_ten_toDigits]

theorem sessionId_injective (profile : ProfileConfig) : Function.Injective profile.sessionId := by
  intro j k same
  have digits : paddedIndex j = paddedIndex k := by
    have texts := congrArg String.toList same
    simpa [ProfileConfig.sessionId] using texts
  rw [← ofDigitChars_paddedIndex j, digits, ofDigitChars_paddedIndex]

theorem sessionId_ne_empty (profile : ProfileConfig) (k : ℕ) : profile.sessionId k ≠ "" := by
  intro same
  have texts := congrArg String.toList same
  simp [ProfileConfig.sessionId] at texts

/-- **Sessions.** The requests of a session are accepted, and are of the session of that name. -/
theorem session_of_request {lib : SchemaLibrary} (bools : lib.toBool (.bool false) = some false)
    (profile : ProfileConfig) {sessionId : String} (named : sessionId ≠ "") (uuid : String)
    (turn : ℕ) :
    ∃ q, request? lib profile sessionId uuid turn = some q ∧ q.session lib = {
      sessionId, agentId := "loadgen"
      tierHint := (Tier.ofValue? profile.tierHint).getD .auto } := by
  obtain ⟨body, accepted⟩ : ∃ body,
      ChatCompletionRequest.validate lib (.obj (payload profile turn)) = some body := by
    apply Option.isSome_iff_exists.mp
    simp [ChatCompletionRequest.validate, payload, Schema.required, Schema.defaulted,
      Schema.notNull, Schema.nullable, Schema.aliased, Schema.str?, Schema.list?, bools,
      ChatMessage.validate, List.lookup_cons]
  refine ⟨_, by rw [request?, accepted, Option.map_some], ?_⟩
  simp [IncomingRequest.session, IncomingRequest.input, buildSession, ChatInput.ofRequest,
    headerOr, named]

/-- The row of a turn is made by the schema. -/
theorem makeRow_of_singleTurn {lib : SchemaLibrary} {profile : ProfileConfig}
    {sessionId : String} {o : TurnOutcome} {row : ResultRow}
    (made : singleTurn lib profile sessionId o = some row) :
    ∃ l status ttft e2e, makeRow lib profile sessionId o l status ttft e2e = some row := by
  unfold singleTurn at made
  split at made
  · exact ⟨_, _, _, _, made⟩
  · split at made
    · split at made
      · exact ⟨_, _, _, _, made⟩
      · split at made <;> exact ⟨_, _, _, _, made⟩
    · exact ⟨_, _, _, _, made⟩

/-- The row of a turn has the names of the session and of the generator. -/
theorem names_of_singleTurn {lib : SchemaLibrary} {profile : ProfileConfig}
    {sessionId : String} {o : TurnOutcome} {row : ResultRow}
    (made : singleTurn lib profile sessionId o = some row) :
    row.sessionId = sessionId ∧ row.agentId = "loadgen" := by
  obtain ⟨l, status, ttft, e2e, made⟩ := makeRow_of_singleTurn made
  obtain ⟨tier, _, made⟩ := Option.bind_eq_some_iff.mp made
  obtain ⟨backendId, _, made⟩ := Option.bind_eq_some_iff.mp made
  obtain ⟨inputTokens, _, made⟩ := Option.bind_eq_some_iff.mp made
  obtain ⟨outputTokens, _, made⟩ := Option.bind_eq_some_iff.mp made
  obtain ⟨affinityHit, _, made⟩ := Option.bind_eq_some_iff.mp made
  cases made
  exact ⟨rfl, rfl⟩

/-! ## What a row says -/

/-- How the schema library reads Booleans, and integers that a counter accepts. -/
structure RowLaws (lib : SchemaLibrary) : Prop where
  bools : ∀ b, lib.toBool (.bool b) = some b
  ints : ∀ j n q, lib.toInt j = some n → j.increment = some q → q = n

/-- The members of a record are read by their names. -/
theorem readMetadata_of_reports {data : Json} {b : BackendInfo} {hit : Bool} {queueWaitMs : ℚ}
    (reported : ChatHandler.Reports data b hit queueWaitMs) (l : TurnLocals) :
    l.readMetadata data = some { l with
      tier := .str b.tier.value, backendId := .str b.id, affinityHit := .bool hit } := by
  obtain ⟨record, found, described⟩ := reported
  have object : record ≠ .null := by
    rintro rfl
    cases described.backend
  simp only [TurnLocals.readMetadata, Json.get_of_ne_null found object,
    Json.get_of_ne_null described.tier nofun, Json.get_of_ne_null described.backend nofun,
    Json.get_of_ne_null described.hit nofun, Option.bind_eq_bind, Option.bind_some]
  rfl

theorem of_notNull {α : Type} {parse : Json → Option α} {j : Json} {a : α}
    (read : Schema.notNull parse j = some a) : parse j = some a := by
  cases j with
  | null => cases read
  | _ => exact read

/-- The tokens that the gateway can count are read. -/
theorem readUsage_of_counted {data : Json} {tokens : ℚ} (counted : reportTokens data = some tokens)
    (l : TurnLocals) :
    ∃ input output x y, l.readUsage data = some { l with
      inputTokens := input, outputTokens := output } ∧
      input.increment = some x ∧ output.increment = some y ∧ tokens = x + y := by
  have nothing : (Json.number 0).increment = some 0 := by decide +kernel
  obtain ⟨usage, got, counted⟩ := Option.bind_eq_some_iff.mp counted
  cases data with
  | obj fields =>
      cases found : fields.lookup "usage" with
      | none =>
          rw [Json.get, found] at got
          cases got
          cases counted
          refine ⟨.number 0, .number 0, 0, 0, ?_, nothing, nothing, by simp⟩
          simp [TurnLocals.readUsage, Json.get, found, Json.truthy]
      | some value =>
          rw [Json.get, found] at got
          cases got
          cases truth : value.truthy with
          | false =>
              simp only [Option.getD_some, truth] at counted
              cases counted
              refine ⟨.number 0, .number 0, 0, 0, ?_, nothing, nothing, by simp⟩
              simp [TurnLocals.readUsage, Json.get, found, truth]
          | true =>
              simp only [Option.getD_some, truth, if_true] at counted
              obtain ⟨input, atInput, counted⟩ := Option.bind_eq_some_iff.mp counted
              obtain ⟨x, first, counted⟩ := Option.bind_eq_some_iff.mp counted
              obtain ⟨output, atOutput, counted⟩ := Option.bind_eq_some_iff.mp counted
              obtain ⟨y, second, counted⟩ := Option.bind_eq_some_iff.mp counted
              cases counted
              refine ⟨input, output, x, y, ?_, first, second, rfl⟩
              simp [TurnLocals.readUsage, Json.get, found, truth] at atInput atOutput ⊢
              simp [atInput, atOutput]
  | _ => cases got

/-- What a row says of a turn that the gateway answered with a reply. -/
structure Tells (row : ResultRow) (sessionId : String) (m : AgentServeMeta)
    (counted : ℚ) : Prop where
  session : row.sessionId = sessionId
  success : row.statusCode = 200
  tier : row.tier = m.tier.value
  backend : row.backendId = m.backendId
  hit : row.affinityHit = m.affinityHit
  tokens : (row.inputTokens + row.outputTokens : ℚ) = counted

/-- The row of a reply with metadata and tokens that can be counted says both. -/
theorem row_of_reply {lib : SchemaLibrary} (laws : RowLaws lib) {profile : ProfileConfig}
    {sessionId : String} {o : TurnOutcome} {data : Json} (response : o.response = some ⟨200, data⟩)
    {b : BackendInfo} {hit : Bool} {queueWaitMs : ℚ}
    (reported : ChatHandler.Reports data b hit queueWaitMs) {tokens : ℚ}
    (counted : reportTokens data = some tokens) {row : ResultRow}
    (made : singleTurn lib profile sessionId o = some row) (reason : RoutingReason) :
    Tells row sessionId
      { tier := b.tier, backendId := b.id, queueWaitMs, affinityHit := hit,
        routingReason := reason } tokens := by
  obtain ⟨input, output, x, y, usage, first, second, rfl⟩ := readUsage_of_counted counted
    { ({} : TurnLocals) with
      tier := .str b.tier.value, backendId := .str b.id, affinityHit := .bool hit }
  simp only [singleTurn, response, if_true, TurnLocals.read, readMetadata_of_reports reported,
    usage, makeRow, Schema.str?, Schema.notNull, laws.bools, Option.bind_eq_bind,
    Option.bind_some] at made
  obtain ⟨n, readInput, made⟩ := Option.bind_eq_some_iff.mp made
  obtain ⟨k, readOutput, made⟩ := Option.bind_eq_some_iff.mp made
  cases made
  have one : x = n := laws.ints input n x (of_notNull readInput) first
  have other : y = k := laws.ints output k y (of_notNull readOutput) second
  exact ⟨rfl, rfl, rfl, rfl, rfl, by rw [one, other]⟩

/-! ## Rows and the gateway -/

/-- A rendered reply has as many tokens as the reply of the backend. -/
theorem reportTokens_of_renderReply {result answer : Json} {m : AgentServeMeta}
    (rendered : renderReply result m = some answer) :
    ∃ tokens, reportTokens result = some tokens ∧ reportTokens answer = some tokens := by
  obtain ⟨tokens, counted, rendered⟩ := Option.bind_eq_some_iff.mp rendered
  obtain ⟨set, assigned, rendered⟩ := Option.bind_eq_some_iff.mp rendered
  refine ⟨tokens, counted, ?_⟩
  split at rendered
  · cases rendered
    cases result with
    | obj fields =>
        cases assigned
        rw [← counted]
        simp [reportTokens, Json.get, Json.lookup_setItems]
    | _ => cases assigned
  · cases rendered

variable {ρ : Type} [DecidableEq ρ] {lib : SchemaLibrary} {config : GatewayConfig}

theorem reportTokens_of_answer {s : ChatHandler ρ} {e : HandlerEvent ρ} {k : ρ} {answer : Json}
    (answers : s.Answers lib e k answer) : ∃ tokens, reportTokens answer = some tokens := by
  obtain ⟨t, r, now, stepped, found, answered, running⟩ := answers
  have new_answer : s.gateway.requests.get? k ≠ some r := by
    intro before
    have unended := running r before
    simp [Request.isOver, answered] at unended
  rcases ChatHandler.gateway_of_step stepped with same | ⟨f, inside⟩
  · exact absurd (same ▸ found) new_answer
  · rcases Gateway.answer_of_step inside found answered with
      before | ⟨_, _, _, _, _, _, _, _, _, rendered, _⟩
    · exact absurd before new_answer
    · obtain ⟨tokens, _, counted⟩ := reportTokens_of_renderReply rendered
      exact ⟨tokens, counted⟩

/-- **Rows.** The row of a turn that is answered with a reply of the gateway names the backend that
the request was forwarded to and its tier, says whether the scheduler kept the session there, and
has the tokens that the gateway counted. -/
theorem row_of_answer (laws : RowLaws lib) {events : List (HandlerEvent ρ)} {s : ChatHandler ρ}
    (ran : run (ChatHandler.step lib) (ChatHandler.new config) events = some s)
    {e : HandlerEvent ρ} {k : ρ} {answer : Json} (answers : s.Answers lib e k answer)
    {profile : ProfileConfig} {sessionId : String} {o : TurnOutcome}
    (response : o.response = some ⟨200, answer⟩) {row : ResultRow}
    (made : singleTurn lib profile sessionId o = some row) :
    ∃ b hit wait reason tokens, ChatHandler.Happened lib config events s k b hit wait ∧
      reportTokens answer = some tokens ∧
      Tells row sessionId
        { tier := b.tier, backendId := b.id, queueWaitMs := 0, affinityHit := hit,
          routingReason := reason } tokens := by
  obtain ⟨b, hit, wait, happened, reported⟩ :=
    ChatHandler.metadata_of_answer (ChatHandler.recorded_run ran) answers
  obtain ⟨record, found, described⟩ := id reported
  obtain ⟨reason, _⟩ := described.reason
  obtain ⟨tokens, counted⟩ := reportTokens_of_answer answers
  exact ⟨b, hit, wait, reason, tokens, happened, counted,
    row_of_reply laws response reported counted made reason⟩

def steady : ProfileConfig where
  name := "steady"
  tierHint := "big"

/-- The first turn of the first session, until it is answered. -/
def firstTurn : List (HandlerEvent ℕ) := [
  .receive 0 (ChatHandler.bigIn (steady.sessionId 0)) 0 0 AdmissionSystem.atStart]

/-- A reply of seven tokens. -/
def sevenTokens : Json := .obj [
  ("usage", .obj [("prompt_tokens", .number 3), ("completion_tokens", .number 4)])]

/-- The outcome of a turn that was answered. -/
def answeredWith (answer : Json) : TurnOutcome where
  requestId := "0"
  response := some ⟨200, answer⟩
  answeredMs := 12
  timestampIso := "now"

theorem rowLaws_plain : RowLaws plainLibrary where
  bools _ := rfl
  ints := by
    intro j n q read counted
    cases j with
    | number p =>
        simp only [plainLibrary] at read
        simp only [Json.increment] at counted
        split at read
        · rename_i whole
          split at counted
          · cases read
            cases counted
            exact (Rat.den_eq_one_iff q).mp whole |>.symm
          · cases counted
        · cases read
    | _ => cases read

/-- The row of the first turn. -/
def firstRow : ResultRow where
  requestId := "0"
  sessionId := steady.sessionId 0
  agentId := "loadgen"
  tier := "big"
  backendId := "big-0"
  ttftMs := 12
  e2eMs := 12
  inputTokens := 3
  outputTokens := 4
  affinityHit := false
  statusCode := 200
  timestampIso := "now"
  profile := "steady"

/-- The row of the first turn, from the stage that it ends in. -/
def rowOfStage : Stage → Option ResultRow
  | .over (.completed _ answer) =>
    singleTurn plainLibrary steady (steady.sessionId 0) (answeredWith answer)
  | _ => none

theorem stage_of_rowOfStage {stage : Stage} {row : ResultRow} (made : rowOfStage stage = some row) :
    ∃ now answer, stage = .over (.completed now answer) ∧
      singleTurn plainLibrary steady (steady.sessionId 0) (answeredWith answer) = some row := by
  unfold rowOfStage at made
  split at made
  · exact ⟨_, _, rfl, made⟩
  · cases made

/-- The first turn is answered. -/
theorem firstTurn_answered :
    ∃ (s : ChatHandler ℕ) (answer : Json),
      run (ChatHandler.step plainLibrary) (ChatHandler.new Gateway.oneSlot) firstTurn = some s ∧
        s.Answers plainLibrary (.gateway (.reply 0 sevenTokens 10)) 0 answer ∧
        singleTurn plainLibrary steady (steady.sessionId 0) (answeredWith answer) =
          some firstRow := by
  have before : ((run (ChatHandler.step plainLibrary) (ChatHandler.new Gateway.oneSlot)
      firstTurn).map fun s => (s.gateway.requests.get? 0).map Request.isOver) =
      some (some false) := by
    decide +kernel
  have after : ((run (ChatHandler.step plainLibrary) (ChatHandler.new Gateway.oneSlot)
      (firstTurn ++ [.gateway (.reply 0 sevenTokens 10)])).map fun t =>
        (t.gateway.requests.get? 0).map fun r => rowOfStage r.stage) =
      some (some (some firstRow)) := by
    decide +kernel
  obtain ⟨t, on, shown⟩ := Option.map_eq_some_iff.mp after
  obtain ⟨r, found, first⟩ := Option.map_eq_some_iff.mp shown
  obtain ⟨now, answer, answered, made⟩ := stage_of_rowOfStage first
  obtain ⟨s, ran, stepped⟩ := run_concat_eq_some.mp on
  rw [ran, Option.map_some, Option.some.injEq] at before
  obtain ⟨q, at_zero, running⟩ := Option.map_eq_some_iff.mp before
  refine ⟨s, answer, ran, ⟨t, r, now, stepped, found, answered, ?_⟩, made⟩
  intro q' at_zero'
  cases at_zero.symm.trans at_zero'
  exact running

/-- The row of the first turn has seven tokens. -/
theorem row_of_answer_firstTurn :
    ∃ (s : ChatHandler ℕ) (answer : Json) (row : ResultRow) (b : BackendInfo) (hit : Bool)
      (wait : Time) (reason : RoutingReason) (tokens : ℚ),
      ChatHandler.Happened plainLibrary Gateway.oneSlot firstTurn s 0 b hit wait ∧
        reportTokens answer = some tokens ∧
        Tells row (steady.sessionId 0)
          { tier := b.tier, backendId := b.id, queueWaitMs := 0, affinityHit := hit,
            routingReason := reason } tokens := by
  obtain ⟨s, answer, ran, answers, made⟩ := firstTurn_answered
  exact ⟨s, answer, firstRow, row_of_answer rowLaws_plain ran answers rfl made⟩

end SessionRunner

end AgentServe
