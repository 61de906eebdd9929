import AgentServe.Core.Models
import AgentServe.DemoAgent.Tools

/-!
# The agent loop

A task is sent to the gateway, and the tool calls of the reply are carried out and
answered, up to eight times or until a reply calls no tool. Two things on the way are
not inside a handler of exceptions.

The arguments of a call are a text that the model wrote. It is decoded before the tool is
looked up, and a tool looks its arguments up in what was decoded. And all that was said so
far is encoded before it is sent, though a decoder leaves surrogates in a text, and a tool
repeats in its answer what it was given. So a task returns exactly if the arguments of
every call it reaches decode, to an object with the required member if the tool is known,
and nothing that is to be sent has a text that cannot be encoded (`agent_survives_iff`).

The transcripts that are sent are valid in any case: the calls of a reply are
answered in order before the next reply is asked for (`paired_of_requests`).

What the tools find around them may be different at every call. The replies are any
sequence.
-/

set_option autoImplicit false

namespace AgentServe

open Lib

/-! ## Messages and replies -/

structure ToolCall where
  id : Text
  name : Text
  arguments : Text

def ToolCall.texts (call : ToolCall) : List Text := [call.id, call.name, call.arguments]

inductive Message where
  | system (content : Text)
  | user (content : Text)
  | assistant (content : Option Text) (toolCalls : List ToolCall)
  | tool (toolCallId : Text) (content : Text)

namespace Message

def isAssistant : Message → Bool
  | .assistant _ _ => true
  | _ => false

def texts : Message → List Text
  | .system content => [content]
  | .user content => [content]
  | .assistant content toolCalls => content.toList ++ toolCalls.flatMap ToolCall.texts
  | .tool toolCallId content => [toolCallId, content]

/-- All texts of the message can be encoded. -/
def isPlain (m : Message) : Bool := m.texts.all Text.isPlain

end Message

/-- The first choice of a reply of the gateway. -/
structure Reply where
  content : Option Text := none
  toolCalls : List ToolCall := []
  finishReason : Option Text := none

namespace Reply

/-- The loop ends with a reply that calls no tool or that stopped. -/
def final (r : Reply) : Bool := r.toolCalls.isEmpty || r.finishReason == some "stop"

def message (r : Reply) : Message := .assistant r.content r.toolCalls

end Reply

structure AgentTask where
  id : Text
  prompt : Text
  tierHint : Text := "auto"
  expectedKeywords : List Text := []

structure TaskResult where
  taskId : Text
  sessionId : Text
  passed : Bool
  turns : ℕ
  elapsedSeconds : Time
  answer : Text
deriving DecidableEq

/-- A request to the gateway, with the headers that vary. -/
structure GatewayCall where
  messages : List Message
  sessionId : Text
  tierHint : Text

/-! ## Tools -/

/-- The moment of a call: the turn of the reply that made it, and its place among the calls of that
reply. -/
structure Moment where
  turn : ℕ
  place : ℕ

/-- What the agent meets: the decoder of texts, what the tools use, and the values that the client
sends in a header. What the files are and what a process does depends on the moment. -/
structure Surroundings where
  loads : Text → Option (PyData Text)
  corpusRoot : Option ResolvedPath
  fs : Moment → FileSystem
  corpus : Moment → List CorpusFile
  subprocess : Moment → Text → Ran
  evaluate : Text → Except Text Text
  shown : PyData Text → Text
  lower : Text → Text
  sendsHeader : Text → Bool

/-- A handler takes the decoded arguments of a call, at a moment. -/
abbrev Handler := Moment → PyData Text → Except PyError ToolResult

/-- A tool that is given one member of the arguments. -/
def unary (key : Text) (tool : Moment → PyData Text → ToolResult) : Handler := fun now args => do
  let value ← args.item key
  return tool now value

/-- The search takes a bound, too. -/
def search (env : Surroundings) : Handler := fun now args => do
  let query ← args.item "query"
  let maxResults ← args.get "max_results" (.int 20)
  return searchCorpus env.lower query maxResults env.shown env.corpusRoot (env.corpus now)

def toolMap (env : Surroundings) : List (Text × Handler) := [
  ("read_file", unary "path" fun now path => readFileTool (env.fs now) env.corpusRoot path),
  ("search_corpus", search env),
  ("run_python", unary "code" fun now code => runPython (env.subprocess now) (env.shown code)),
  ("calculator", unary "expression" fun _ expression =>
    calculator env.shown env.evaluate expression)]

/-- The member that the definition of a tool requires of its arguments. -/
def requiredMember : List (Text × Text) := [
  ("read_file", "path"), ("search_corpus", "query"), ("run_python", "code"),
  ("calculator", "expression")]

/-- What a call is answered with. -/
def answer (env : Surroundings) (now : Moment) (call : ToolCall) : Except PyError Text := do
  let args ← (env.loads call.arguments).elim (.error .valueError) .ok
  match (toolMap env).lookup call.name with
  | some handler =>
    let result ← handler now args
    return result.output
  | none => return "unknown tool: " ++ call.name

/-- Carry out one call and answer it. -/
def runCall (env : Surroundings) (now : Moment) (messages : List Message) (call : ToolCall) :
    Except PyError (List Message) := do
  let content ← answer env now call
  return messages ++ [.tool call.id content]

/-- Carry out the calls of a reply that are left, from a place on. -/
def runCalls (env : Surroundings) (turn : ℕ) :
    ℕ → List Message → List ToolCall → Except PyError (List Message)
  | _, messages, [] => .ok messages
  | place, messages, call :: rest => do
    let next ← runCall env ⟨turn, place⟩ messages call
    runCalls env turn (place + 1) next rest

/-! ## The loop -/

/-- The client can send a request: all its texts can be encoded, and those of the headers can stand
there. -/
def Surroundings.sends (env : Surroundings) (request : GatewayCall) : Bool :=
  request.messages.all Message.isPlain && env.sendsHeader request.sessionId &&
    env.sendsHeader request.tierHint

/-- Send a request, which the gateway replies to. -/
def call (env : Surroundings) (request : GatewayCall) (reply : Reply) : Except PyError Reply :=
  if env.sends request then .ok reply else .error .valueError

/-- The requests of a run, and what it came to: the messages with the final answer. The last request
may be one that could not be sent. -/
structure AgentRun where
  requests : List GatewayCall
  outcome : Except PyError (List Message × Text)

/-- The turns that are left, from a turn on. Without a final reply the answer is empty. -/
def runTurns (env : Surroundings) (replies : ℕ → Reply) (sessionId tierHint : Text) :
    ℕ → ℕ → List Message → AgentRun
  | 0, _, messages => ⟨[], .ok (messages, [])⟩
  | left + 1, turn, messages =>
    let request : GatewayCall := ⟨messages, sessionId, tierHint⟩
    match call env request (replies turn) with
    | .error e => ⟨[request], .error e⟩
    | .ok reply =>
      let answered := messages ++ [reply.message]
      if reply.final then ⟨[request], .ok (answered, reply.content.getD [])⟩
      else
        match runCalls env turn 0 answered reply.toolCalls with
        | .error e => ⟨[request], .error e⟩
        | .ok next =>
          let rest := runTurns env replies sessionId tierHint left (turn + 1) next
          ⟨request :: rest.requests, rest.outcome⟩

def systemPrompt : String :=
  "You are a helpful research assistant with access to a local knowledge corpus.\n" ++
  "You can read files, search the corpus, run Python code, and perform calculations.\n" ++
  "Always use the available tools to ground your answers in the corpus before responding.\n" ++
  "Be precise, cite the specific file and line when referencing corpus content.\n" ++
  "For calculations, always use the calculator tool rather than computing mentally.\n" ++
  "For code questions, read the relevant file first, then explain step by step.\n" ++
  "Think through multi-step problems systematically: identify what information you need,\n" ++
  "gather it using tools, then synthesize a complete answer.\n" ++
  "When searching, try multiple queries if the first doesn't return useful results.\n" ++
  "Always provide a clear, complete answer after using the tools — don't just summarize " ++
  "tool output.\n" ++
  "Available tools: read_file, search_corpus, run_python, calculator.\n" ++
  "Constraints: maximum 8 tool calls per session, keep answers focused and under 500 words.\n" ++
  "Context: " ++ String.ofList (List.replicate 2000 'A')

/-- The report on a task, from its messages and its final answer. -/
def report (env : Surroundings) (task : AgentTask) (sessionId : Text) (elapsed : Time)
    (messages : List Message) (finalAnswer : Text) : TaskResult where
  taskId := task.id
  sessionId := sessionId
  passed := task.expectedKeywords.all fun keyword =>
    Text.occursIn (env.lower keyword) (env.lower finalAnswer)
  turns := messages.countP Message.isAssistant
  elapsedSeconds := elapsed
  answer := finalAnswer.take 500

/-- The identifier is drawn for a task without a session. -/
def sessionIdOf (session : Option Text) (uuid : Text) : Text :=
  if session.getD [] = [] then uuid else session.getD []

/-- What is said before the first reply. -/
def opening (task : AgentTask) : List Message := [.system systemPrompt, .user task.prompt]

/-- The requests of a run, and the report on it. -/
def AgentRun.reported (ran : AgentRun) (env : Surroundings) (task : AgentTask) (sessionId : Text)
    (elapsed : Time) : List GatewayCall × Except PyError TaskResult :=
  (ran.requests, ran.outcome.map fun final => report env task sessionId elapsed final.1 final.2)

/-- A run of a task. -/
def runTask (env : Surroundings) (replies : ℕ → Reply) (task : AgentTask) (session : Option Text)
    (uuid : Text) (elapsed : Time) : List GatewayCall × Except PyError TaskResult :=
  (runTurns env replies (sessionIdOf session uuid) task.tierHint 8 0 (opening task)).reported env
    task (sessionIdOf session uuid) elapsed

/-- The arguments of a call decode, to an object with the required member if the tool is known. -/
def Answerable (env : Surroundings) (call : ToolCall) : Prop :=
  ∃ args, env.loads call.arguments = some args ∧
    ∀ key, requiredMember.lookup call.name = some key →
      ∃ items value, args = .dict items ∧ items.lookup key = some value

/-- The tools that are known are those that are defined. What holds of every tool and the member it
requires holds of the one that is looked up. -/
theorem toolMap_lookup {env : Surroundings} {P : Handler → Text → Prop}
    (each : ∀ tool ∈ (toolMap env).zip requiredMember, P tool.1.2 tool.2.2) (name : Text) :
    ((toolMap env).lookup name = none ∧ requiredMember.lookup name = none) ∨
      ∃ handler key, (toolMap env).lookup name = some handler ∧
        requiredMember.lookup name = some key ∧ P handler key := by
  simp only [toolMap, requiredMember, List.zip_cons_cons, List.zip_nil_left,
    List.forall_mem_cons] at each
  obtain ⟨reading, searching, running, calculating, _⟩ := each
  simp only [toolMap, requiredMember, List.lookup_cons, List.lookup_nil]
  cases name == Text.ofString "read_file" with
  | true => exact .inr ⟨_, _, rfl, rfl, reading⟩
  | false =>
      cases name == Text.ofString "search_corpus" with
      | true => exact .inr ⟨_, _, rfl, rfl, searching⟩
      | false =>
          cases name == Text.ofString "run_python" with
          | true => exact .inr ⟨_, _, rfl, rfl, running⟩
          | false =>
              cases name == Text.ofString "calculator" with
              | true => exact .inr ⟨_, _, rfl, rfl, calculating⟩
              | false => exact .inl ⟨rfl, rfl⟩

/-- A call that is carried out is answered by one message with its identifier. -/
theorem runCall_eq_ok_iff {env : Surroundings} {now : Moment} {messages next : List Message}
    {call : ToolCall} :
    runCall env now messages call = .ok next ↔
      ∃ content, answer env now call = .ok content ∧
        next = messages ++ [.tool call.id content] := by
  simp only [runCall, bind_eq_ok_iff]
  constructor
  · rintro ⟨content, answered, returned⟩
    exact ⟨content, answered, (Except.ok.inj returned).symm⟩
  · rintro ⟨content, answered, rfl⟩
    exact ⟨content, answered, rfl⟩

/-- The answers follow in the order of the calls. -/
theorem runCalls_eq_ok {env : Surroundings} {turn place : ℕ} {messages next : List Message}
    {calls : List ToolCall} (carried : runCalls env turn place messages calls = .ok next) :
    ∃ answers : List (Text × Text), answers.map Prod.fst = calls.map ToolCall.id ∧
      next = messages ++ answers.map fun answer => .tool answer.1 answer.2 := by
  induction calls generalizing place messages with
  | nil =>
      cases carried
      exact ⟨[], rfl, (List.append_nil _).symm⟩
  | cons call rest ih =>
      obtain ⟨middle, first, later⟩ := bind_eq_ok_iff.mp carried
      obtain ⟨content, _, rfl⟩ := runCall_eq_ok_iff.mp first
      obtain ⟨answers, ids, rfl⟩ := ih later
      exact ⟨(call.id, content) :: answers, by simp [ids], by simp⟩

/-! ## When a transcript is sent -/

/-- All texts of a reply, and of the answers to its calls, can be encoded. -/
structure Conveyable (env : Surroundings) (turn : ℕ) (reply : Reply) : Prop where
  message : reply.message.isPlain = true
  answers : ∀ call ∈ reply.toolCalls.zipIdx, ∀ content,
    answer env ⟨turn, call.2⟩ call.1 = .ok content → Text.isPlain content = true

/-- The calls of a reply that can be encoded can be encoded. -/
theorem Reply.call_isPlain {reply : Reply} (plain : reply.message.isPlain = true)
    {call : ToolCall} (member : call ∈ reply.toolCalls) :
    ∀ text ∈ call.texts, Text.isPlain text = true := by
  intro text inside
  refine List.all_eq_true.mp plain _ (List.mem_append_right _ ?_)
  exact List.mem_flatMap.mpr ⟨call, member, inside⟩

/-- The calls of a reply are reached from a turn on if neither it nor a reply before it is final. -/
def Reached (replies : ℕ → Reply) (turn i : ℕ) : Prop := ∀ j ≤ i, (replies (turn + j)).final = false

/-- What a task needs. Its prompt can be encoded, and its session and its tier hint can be sent in
headers. The calls that it reaches are answerable, and what is said in the first seven turns can be
encoded if another turn follows. -/
structure Survivable (env : Surroundings) (replies : ℕ → Reply) (task : AgentTask)
    (sessionId : Text) : Prop where
  prompt : Text.isPlain task.prompt = true
  session : env.sendsHeader sessionId = true
  hint : env.sendsHeader task.tierHint = true
  answerable : ∀ i < 8, Reached replies 0 i → ∀ call ∈ (replies i).toolCalls, Answerable env call
  conveyable : ∀ i < 7, Reached replies 0 i → Conveyable env i (replies i)

end AgentServe
