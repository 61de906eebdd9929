import AgentServe.DemoAgent.Loop

/-!
# What the tools repeat

The answer of a tool is made of its own words, of characters that were read elsewhere, and
of texts that the tool was given. A tool adds no surrogates of its own. So where the texts
of the surroundings can be encoded, an answer can be encoded if the name of the call and
the member that was looked up can (`answer_isPlain`), and a task has all it needs if this
holds of the calls of its replies (`survivable_of_plain`).

Both are about what is given to the tools, and not about what they answer.
-/

set_option autoImplicit false

namespace AgentServe

open Lib

/-- Surroundings whose own texts can be encoded: what the system says of names and places, the names
of the files, and what the other process and the evaluation come to. -/
structure Surroundings.Plain (env : Surroundings) : Prop where
  refused : ∀ now name message, (env.fs now).refuses name = some message →
    Text.isPlain message = true
  unreadable : ∀ now place message, (env.fs now).entry place = .unreadable message →
    Text.isPlain message = true
  named : ∀ now, ∀ file ∈ env.corpus now, Text.isPlain file.name = true
  failed : ∀ now code message, env.subprocess now code = .failed message →
    Text.isPlain message = true
  evaluated : ∀ text output, env.evaluate text = .ok output → Text.isPlain output = true
  unevaluated : ∀ text message, env.evaluate text = .error message → Text.isPlain message = true

/-- A value that can be repeated: as it is shown, and as it is if it is a text. -/
structure Repeatable (env : Surroundings) (value : PyData Text) : Prop where
  shown : Text.isPlain (env.shown value) = true
  text : ∀ text, value = .str text → Text.isPlain text = true

/-! ## Results -/

theorem isPlain_ok {output : Text} (plain : Text.isPlain output = true) :
    Text.isPlain (ToolResult.ok output).output = true := Text.isPlain_take _ plain

/-- What resolving says is what the system says of a name. -/
theorem refused_of_resolveParts {refuses : Text → Option Text} {message : Text} {p : ResolvedPath}
    {parts : List Text} {plain : ∀ part ∈ parts, slash ∉ part}
    (refused : resolveParts refuses p parts plain = .error message) :
    ∃ name, refuses name = some message := by
  induction parts generalizing p with
  | nil => cases refused
  | cons part rest ih =>
      rw [resolveParts] at refused
      split at refused
      · rename_i said first
        cases refused
        unfold resolvePart at first
        split at first
        · cases first
        · split at first
          · cases first
          · split at first
            · rename_i said_of
              cases first
              exact ⟨part, said_of⟩
            · cases first
      · exact ih refused

section Tools

variable {env : Surroundings}

theorem isPlain_readFile (plain : env.Plain) (now : Moment) {path : Text}
    (given : Text.isPlain path = true) :
    Text.isPlain (readFile (env.fs now) env.corpusRoot path).output = true := by
  unfold readFile
  split
  · exact Text.isPlain_ofString _
  · split
    · rename_i message refused
      obtain ⟨name, said⟩ := refused_of_resolveParts refused
      exact plain.refused now name message said
    · split
      · split
        · simp [ToolResult.error, given]
        · exact isPlain_ok (Text.isPlain_ofString _)
        · rename_i message there
          exact plain.unreadable now _ message there
      · simp [given]

/-- The lines that are found name their files. -/
theorem isPlain_searchLines {lower : Text → Text} {query maxResults : PyData Text} {name : Text}
    (named : Text.isPlain name = true) (lines : List String) (number : ℕ) {found : List Text}
    (before : ∀ line ∈ found, Text.isPlain line = true) :
    ∀ line ∈ (searchLines lower query maxResults name number lines found).1,
      Text.isPlain line = true := by
  induction lines generalizing number found with
  | nil => exact before
  | cons line rest ih =>
      have after : ∀ other ∈ found ++
          [name ++ ":" ++ toString number ++ ": " ++ Text.rstripped line],
          Text.isPlain other = true := by
        intro other member
        rcases List.mem_append.mp member with old | new
        · exact before other old
        · rw [List.mem_singleton.mp new]
          simp [Text.isPlain_rstripped, named]
      simp only [searchLines]
      split
      · split
        · split
          · split
            · exact after
            · exact ih _ after
          · exact after
        · exact ih _ before
      · exact before

theorem isPlain_searchFiles {lower : Text → Text} {query maxResults : PyData Text}
    {corpus : List CorpusFile} (named : ∀ file ∈ corpus, Text.isPlain file.name = true)
    {found : List Text} (before : ∀ line ∈ found, Text.isPlain line = true) :
    ∀ line ∈ (searchFiles lower query maxResults corpus found).1, Text.isPlain line = true := by
  induction corpus generalizing found with
  | nil => exact before
  | cons file rest ih =>
      obtain ⟨here, others⟩ := List.forall_mem_cons.mp named
      rw [searchFiles]
      split
      · exact ih others before
      · rename_i lines _
        have after : ∀ line ∈ (searchLines lower query maxResults file.name 1 lines found).1,
            Text.isPlain line = true := isPlain_searchLines here lines 1 before
        dsimp only
        split
        · exact after
        · exact ih others after

theorem isPlain_searchCorpus (plain : env.Plain) (now : Moment) {query maxResults : PyData Text}
    (repeatable : Repeatable env query) :
    Text.isPlain (searchCorpus env.lower query maxResults env.shown env.corpusRoot
      (env.corpus now)).output = true := by
  unfold searchCorpus
  split
  · exact Text.isPlain_ofString _
  · dsimp only
    split
    · exact isPlain_ok (Text.isPlain_intercalate (Text.isPlain_ofString _)
        (isPlain_searchFiles (plain.named now) (List.forall_mem_nil _)))
    · simp [ToolResult.error, repeatable.shown]

theorem isPlain_runPython (plain : env.Plain) (now : Moment) (code : Text) :
    Text.isPlain (runPython (env.subprocess now) code).output = true := by
  unfold runPython
  split
  · rename_i returncode stdout stderr _
    have whole : Text.isPlain ((stdout : Text) ++ stderr) = true := by
      simp
    dsimp only
    generalize written :
      (if maxOutputBytes < ((stdout : Text) ++ stderr).length then _ else _) = output
    have cut : Text.isPlain output = true := by
      rw [← written]
      split
      · rw [Text.isPlain_append, Text.isPlain_take _ whole, Text.isPlain_ofString]
        rfl
      · exact whole
    split
    · dsimp only
      split
      · exact Text.isPlain_ofString _
      · exact cut
    · exact isPlain_ok cut
  · simp
  · rename_i message failed
    exact plain.failed now code message failed

theorem isPlain_calculator (plain : env.Plain) {expression : PyData Text}
    (repeatable : Repeatable env expression) :
    Text.isPlain (calculator env.shown env.evaluate expression).output = true := by
  have refusal : ∀ message, Text.isPlain message = true →
      Text.isPlain (ToolResult.error ("cannot evaluate '" ++ env.shown expression ++ "': " ++
        message)).output = true := by
    intro message said
    simp [ToolResult.error, repeatable.shown, said]
  unfold calculator
  split
  · rename_i text
    cases outcome : env.evaluate (Text.stripped text) with
    | ok value => exact isPlain_ok (plain.evaluated _ value outcome)
    | error message => exact refusal message (plain.unevaluated _ message outcome)
  · exact refusal _ (by simp)

theorem isPlain_readFileTool (plain : env.Plain) (now : Moment) {path : PyData Text}
    (repeatable : Repeatable env path) :
    Text.isPlain (readFileTool (env.fs now) env.corpusRoot path).output = true := by
  unfold readFileTool
  split
  · rename_i text
    exact isPlain_readFile plain now (repeatable.text text rfl)
  · split
    · exact Text.isPlain_ofString _
    · simp [ToolResult.error]

end Tools

/-! ## Answers -/

/-- The results of a handler can be encoded if the member that it looks up can be repeated. -/
def AnswersPlain (env : Surroundings) (handler : Handler) (key : Text) : Prop :=
  ∀ now args result, handler now args = .ok result →
    (∀ items value, args = .dict items → items.lookup key = some value → Repeatable env value) →
    Text.isPlain result.output = true

theorem answersPlain_unary {env : Surroundings} {key : Text}
    {tool : Moment → PyData Text → ToolResult}
    (repeats : ∀ now value, Repeatable env value → Text.isPlain (tool now value).output = true) :
    AnswersPlain env (unary key tool) key := by
  intro now args result answered given
  simp only [unary, bind_eq_ok_iff, PyData.item_eq_ok_iff] at answered
  obtain ⟨value, ⟨items, object, found⟩, returned⟩ := answered
  cases returned
  exact repeats now value (given items value object found)

theorem answersPlain_search {env : Surroundings} (plain : env.Plain) :
    AnswersPlain env (search env) "query" := by
  intro now args result answered given
  simp only [search, bind_eq_ok_iff, PyData.item_eq_ok_iff] at answered
  obtain ⟨query, ⟨items, object, found⟩, maxResults, _, returned⟩ := answered
  cases returned
  exact isPlain_searchCorpus plain now (given items query object found)

theorem answersPlain_toolMap {env : Surroundings} (plain : env.Plain) :
    ∀ tool ∈ (toolMap env).zip requiredMember, AnswersPlain env tool.1.2 tool.2.2 := by
  simp only [toolMap, requiredMember, List.zip_cons_cons, List.zip_nil_left, List.forall_mem_cons]
  exact ⟨answersPlain_unary fun now _ => isPlain_readFileTool plain now, answersPlain_search plain,
    answersPlain_unary fun now value _ => isPlain_runPython plain now (env.shown value),
    answersPlain_unary fun _ _ => isPlain_calculator plain, List.forall_mem_nil _⟩

/-- The member that the tool of a call looks up in its arguments can be repeated. -/
def GivesRepeatable (env : Surroundings) (call : ToolCall) : Prop :=
  ∀ items key value, env.loads call.arguments = some (.dict items) →
    requiredMember.lookup call.name = some key → items.lookup key = some value →
    Repeatable env value

/-- **Answers.** In plain surroundings the answer to a call can be encoded if its name can, and if
the member that its tool looks up can be repeated. -/
theorem answer_isPlain {env : Surroundings} (plain : env.Plain) {now : Moment} {call : ToolCall}
    (named : Text.isPlain call.name = true) (gives : GivesRepeatable env call) {content : Text}
    (answered : answer env now call = .ok content) : Text.isPlain content = true := by
  simp only [answer, bind_eq_ok_iff] at answered
  obtain ⟨args, decoded, answered⟩ := answered
  have loaded : env.loads call.arguments = some args := by
    cases held : env.loads call.arguments with
    | none =>
        rw [held] at decoded
        cases decoded
    | some other =>
        rw [held] at decoded
        exact congrArg some (Except.ok.inj decoded)
  rcases toolMap_lookup (answersPlain_toolMap plain) call.name with ⟨unknown, _⟩ |
    ⟨handler, key, known, required, repeats⟩
  · simp only [unknown] at answered
    cases answered
    rw [Text.isPlain_append, Text.isPlain_ofString, named]
    rfl
  · simp only [known, bind_eq_ok_iff] at answered
    obtain ⟨result, handled, returned⟩ := answered
    cases returned
    refine repeats now args result handled fun items value object found => ?_
    rw [object] at loaded
    exact gives items key value loaded required found

/-- **Enough for a task.** In plain surroundings a task has what it needs if its prompt and its
headers can be sent, the calls that it reaches are answerable, and what it reaches before the last
turn can be encoded: the replies, and the members that are looked up in the arguments of their
calls. -/
theorem survivable_of_plain {env : Surroundings} (plain : env.Plain) {replies : ℕ → Reply}
    {task : AgentTask} {sessionId : Text} (prompt : Text.isPlain task.prompt = true)
    (session : env.sendsHeader sessionId = true) (hint : env.sendsHeader task.tierHint = true)
    (answerable : ∀ i < 8, Reached replies 0 i → ∀ call ∈ (replies i).toolCalls,
      Answerable env call)
    (messages : ∀ i < 7, Reached replies 0 i → (replies i).message.isPlain = true)
    (gives : ∀ i < 7, Reached replies 0 i → ∀ call ∈ (replies i).toolCalls,
      GivesRepeatable env call) :
    Survivable env replies task sessionId where
  prompt := prompt
  session := session
  hint := hint
  answerable := answerable
  conveyable := by
    intro i below reached
    refine ⟨messages i below reached, fun call member content answered => ?_⟩
    have among : call.1 ∈ (replies i).toolCalls :=
      (List.mem_zipIdx member).2.2 ▸ List.getElem_mem _
    have named := Reply.call_isPlain (messages i below reached) among call.1.name
      (by simp [ToolCall.texts])
    exact answer_isPlain plain named (gives i below reached call.1 among) answered

end AgentServe
