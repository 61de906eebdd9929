import AgentServe.LoadGen.Study

/-!
# The replay of a load

A replay reads the file that the rows of a load were written to, and sends a request for
every row: under the names of the row's session and agent, and with the row's tier as a
hint. A row without a value that is needed, or with one that no header can have, is
passed over.

The request of a row is of the row's session at the gateway (`replayOne_recordOf`). A row
of a turn that was answered has the tier that it was answered on, so, as long as that
tier has a healthy backend, every gateway decides for that tier again, and without the
classifier (`replay_of_answer`). A row of a turn that failed has no tier, and its request
is routed as one without a hint.
-/

set_option autoImplicit false

namespace AgentServe

open Lib JsonText

/-- A visible character of ASCII. -/
def isVisible (c : Char) : Bool := 0x21 ≤ c.toNat && c.toNat ≤ 0x7e

/-- What a client sends as the value of a header. It sends visible characters, and only single
lines. -/
structure HeaderRules where
  sends : List Char → Bool
  visible : ∀ text, text.all isVisible = true → sends text = true
  oneLine : ∀ text, sends text = true → '\r' ∉ text

namespace Replay

/-! ## Requests -/

/-- The rows of a file. -/
def readRows (file : Option (List Char)) : Option (List CsvRow) :=
  file.bind (readDicts Study.fieldSizeLimit)

/-- The text that stands for a value, or for a missing one. -/
def shown (value : Option (List Char)) : List Char := value.getD "None".toList

def payload (requestId : Option (List Char)) : List (String × Json) := [
  ("model", .str "auto"),
  ("messages", .arr [
    .obj [("role", .str "system"), ("content", .str "You are a helpful assistant.")],
    .obj [("role", .str "user"),
      ("content", .str (.ofList ("Replay request ".toList ++ shown requestId)))]])]

/-- A value as a header, if it can be sent. -/
def header (rules : HeaderRules) (value : Option (List Char)) : Option String :=
  (value.filter rules.sends).map String.ofList

/-- The request of a row as the gateway receives it, if it is sent. -/
def replayOne (rules : HeaderRules) (lib : SchemaLibrary) (uuid : String) (row : CsvRow) :
    Option IncomingRequest := do
  let requestId ← row.values.get? "request_id".toList
  let sessionId ← row.values.get? "session_id".toList
  let agentId ← row.values.get? "agent_id".toList
  let tier := (row.values.get? "tier".toList).getD (some "auto".toList)
  let xSessionId ← header rules sessionId
  let xAgentId ← header rules agentId
  let xTierHint ← header rules tier
  let body ← ChatCompletionRequest.validate lib (.obj (payload requestId))
  return {
    xSessionId := some xSessionId, xAgentId := some xAgentId, xTierHint := some xTierHint,
    uuid, body }

theorem header_of_sends {rules : HeaderRules} {text : String}
    (sends : rules.sends text.toList = true) :
    header rules (some (translate text.toList)) = some text := by
  have plain : translate text.toList = text.toList :=
    translateFrom_eq_self (rules.oneLine text.toList sends)
  rw [header, plain, Option.filter_some_pos sends, Option.map_some, String.ofList_toList]

theorem validate_payload (lib : SchemaLibrary) (requestId : Option (List Char)) :
    ∃ body, ChatCompletionRequest.validate lib (.obj (payload requestId)) = some body := by
  apply Option.isSome_iff_exists.mp
  simp [ChatCompletionRequest.validate, payload, Schema.required, Schema.defaulted,
    Schema.nullable, Schema.aliased, Schema.str?, Schema.list?, ChatMessage.validate,
    List.lookup_cons]

/-! ## Rows of a load -/

/-- The names of a row can be sent. -/
structure Sendable (rules : HeaderRules) (row : ResultRow) : Prop where
  session : rules.sends row.sessionId.toList = true
  agent : rules.sends row.agentId.toList = true
  tier : rules.sends row.tier.toList = true

/-- The request of a row is accepted, and is of the session of the row. -/
theorem replayOne_recordOf {rules : HeaderRules} (lib : SchemaLibrary) (uuid : String)
    (floats : FloatText) {row : ResultRow} (sendable : Sendable rules row)
    (named : row.sessionId ≠ "") (by_agent : row.agentId ≠ "") :
    ∃ q, replayOne rules lib uuid (Study.recordOf floats row) = some q ∧ q.session lib = {
      sessionId := row.sessionId, agentId := row.agentId,
      tierHint := (Tier.ofValue? row.tier).getD .auto } := by
  have requestId : (Study.recordOf floats row).values.get? "request_id".toList =
      some (some (translate row.requestId.toList)) := by
    rw [Study.get?_recordOf]
    rfl
  have session : (Study.recordOf floats row).values.get? "session_id".toList =
      some (some (translate row.sessionId.toList)) := by
    rw [Study.get?_recordOf]
    rfl
  have agent : (Study.recordOf floats row).values.get? "agent_id".toList =
      some (some (translate row.agentId.toList)) := by
    rw [Study.get?_recordOf]
    rfl
  have tier : (Study.recordOf floats row).values.get? "tier".toList =
      some (some (translate row.tier.toList)) := by
    rw [Study.get?_recordOf]
    rfl
  obtain ⟨body, accepted⟩ := validate_payload lib (some (translate row.requestId.toList))
  refine ⟨_, by
    simp only [replayOne, requestId, session, agent, tier, header_of_sends sendable.session,
      header_of_sends sendable.agent, header_of_sends sendable.tier, accepted,
      Option.bind_eq_bind, Option.bind_some, Option.getD_some]
    rfl, ?_⟩
  simp [IncomingRequest.session, IncomingRequest.input, buildSession, ChatInput.ofRequest,
    headerOr, named, by_agent]

/-- The rows of a file are those that were written to it. -/
theorem readRows_writeFile {floats : FloatText} {rows : List ResultRow} (some_rows : rows ≠ [])
    (readable : ∀ row ∈ rows, Study.Readable floats row) (file : Option (List Char)) :
    readRows (ResultRow.writeFile floats rows file) = some (rows.map (Study.recordOf floats)) := by
  rw [ResultRow.writeFile, if_neg some_rows, readRows, Option.bind_some,
    Study.readDicts_writeFile readable]

/-! ## The tier of a replay -/

theorem sends_tier (rules : HeaderRules) (tier : Tier) : rules.sends tier.value.toList = true := by
  apply rules.visible
  cases tier <;> decide

/-- A request with the hint of a tier is routed to that tier while one of its backends is healthy.
-/
theorem route_of_tierHint {t : TierRouter} {registry : BackendRegistry} {session : SessionContext}
    (hinted : session.tierHint ≠ .auto)
    (healthy : registry.getHealthyBackends session.tierHint ≠ []) (messages : List ChatMessage)
    (now : Time) :
    ∃ d, t.route registry session messages now = (t, .decided d) ∧
      d.tier = session.tierHint ∧ d.reason = .tierHint ∧ d.classifierUsed = false := by
  have hint : selectTier t.config registry session messages =
      some (session.tierHint, .tierHint) := by
    rw [selectTier, if_pos hinted]
  refine ⟨lookUp registry session.tierHint .tierHint false, by rw [TierRouter.route, hint], ?_⟩
  unfold lookUp
  split
  · exact ⟨rfl, rfl, rfl⟩
  · rename_i empty
    exact absurd empty healthy

variable {ρ : Type} [DecidableEq ρ] {lib : SchemaLibrary} {config : GatewayConfig}

/-- What the gateway makes of the replay of a turn that was answered by a backend. -/
structure Repeats (lib : SchemaLibrary) (sessionId : String) (b : BackendInfo)
    (q : IncomingRequest) : Prop where
  session : q.session lib = { sessionId, agentId := "loadgen", tierHint := b.tier }
  routed : ∀ {σ : Type} (s : ChatHandler σ) (now : Time), b.tier ≠ .auto →
    s.registry.getHealthyBackends b.tier ≠ [] →
    ∃ d, s.routeOf lib q now = (s.router, .decided d) ∧ d.tier = b.tier ∧
      d.reason = .tierHint ∧ d.classifierUsed = false

theorem repeats_of_session {sessionId : String} {b : BackendInfo} {q : IncomingRequest}
    (session : q.session lib = { sessionId, agentId := "loadgen", tierHint := b.tier }) :
    Repeats lib sessionId b q where
  session := session
  routed := by
    intro σ s now hinted healthy
    have hint : (q.session lib).tierHint = b.tier := by rw [session]
    rw [← hint] at hinted healthy ⊢
    exact route_of_tierHint hinted healthy q.body.messages now

/-- **Replays.** The file that the rows of a load were written to has the row of every turn again.
If the turn was answered with a reply of the gateway, its replay is of the same session, and is
routed to the tier that it was answered on while one of its backends is healthy. -/
theorem replay_of_answer (laws : SessionRunner.RowLaws lib) {events : List (HandlerEvent ρ)}
    {s : ChatHandler ρ}
    (ran : run (ChatHandler.step lib) (ChatHandler.new config) events = some s)
    {e : HandlerEvent ρ} {k : ρ} {answer : Json} (answers : s.Answers lib e k answer)
    {profile : ProfileConfig} {j : ℕ} {o : SessionRunner.TurnOutcome}
    (response : o.response = some ⟨200, answer⟩) {rows : List ResultRow} {i : ℕ} {row : ResultRow}
    (made : SessionRunner.singleTurn lib profile (profile.sessionId j) o = some row)
    (at_i : rows[i]? = some row) {floats : FloatText}
    (readable : ∀ row ∈ rows, Study.Readable floats row) (file : Option (List Char))
    {rules : HeaderRules} (sends : rules.sends (profile.sessionId j).toList = true)
    (uuid : String) :
    ∃ records record q b, readRows (ResultRow.writeFile floats rows file) = some records ∧
      records.length = rows.length ∧ records[i]? = some record ∧
      replayOne rules lib uuid record = some q ∧
      (∃ hit wait, ChatHandler.Happened lib config events s k b hit wait) ∧
      Repeats lib (profile.sessionId j) b q := by
  have some_rows : rows ≠ [] := by
    rintro rfl
    cases at_i
  obtain ⟨b, hit, wait, reason, tokens, happened, _, tells⟩ :=
    SessionRunner.row_of_answer laws ran answers response made
  obtain ⟨session, agent⟩ := SessionRunner.names_of_singleTurn made
  have sendable : Sendable rules row := {
    session := by rw [session]; exact sends
    agent := by rw [agent]; exact rules.visible _ (by decide)
    tier := by rw [tells.tier]; exact sends_tier rules b.tier }
  obtain ⟨q, sent, made_session⟩ := replayOne_recordOf lib uuid floats sendable
    (by rw [session]; exact SessionRunner.sessionId_ne_empty profile j) (by rw [agent]; decide)
  refine ⟨rows.map (Study.recordOf floats), Study.recordOf floats row, q, b,
    readRows_writeFile some_rows readable file, List.length_map _, ?_, sent,
    ⟨hit, wait, happened⟩, repeats_of_session ?_⟩
  · rw [List.getElem?_map, at_i, Option.map_some]
  · rw [made_session, session, agent, tells.tier, Tier.ofValue?_value, Option.getD_some]

/-- A client that sends visible characters only. -/
def visibleOnly : HeaderRules where
  sends text := text.all isVisible
  visible _ all := all
  oneLine text sends := by
    intro member
    have inside := List.all_eq_true.mp sends _ member
    revert inside
    decide

/-- The first turn of the first session is sent again. -/
theorem replay_of_answer_firstTurn :
    ∃ (s : ChatHandler ℕ) (records : List CsvRow) (record : CsvRow) (q : IncomingRequest)
      (b : BackendInfo),
      readRows (ResultRow.writeFile wholeFloats [SessionRunner.firstRow] none) = some records ∧
        records.length = 1 ∧ records[0]? = some record ∧
        replayOne visibleOnly plainLibrary "0" record = some q ∧
        (∃ hit wait, ChatHandler.Happened plainLibrary Gateway.oneSlot SessionRunner.firstTurn s 0
          b hit wait) ∧
        Repeats plainLibrary (SessionRunner.steady.sessionId 0) b q := by
  obtain ⟨s, answer, ran, answers, made⟩ := SessionRunner.firstTurn_answered
  have short : ∀ text ∈ SessionRunner.firstRow.texts wholeFloats,
      (translate text).length ≤ Study.fieldSizeLimit := by
    decide +kernel
  have readable : ∀ row ∈ [SessionRunner.firstRow], Study.Readable wholeFloats row := by
    intro row member
    cases List.mem_singleton.mp member
    exact ⟨readsBack_whole 12, readsBack_whole 12, short⟩
  have sends : visibleOnly.sends (SessionRunner.steady.sessionId 0).toList = true := by
    decide +kernel
  exact ⟨s, replay_of_answer SessionRunner.rowLaws_plain ran answers rfl made
    (List.getElem?_cons_zero) readable none sends "0"⟩

end Replay

end AgentServe
