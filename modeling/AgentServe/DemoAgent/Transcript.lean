import AgentServe.DemoAgent.Loop

/-!
# The requests of a task

The agent sends all that was said so far with every request. So the requests of a task are
the beginnings of one transcript: each goes on where the last one ended, with the reply to
it and one answer to each of its calls, in order (`conversed_runTurns`).

A task makes at least one request and at most eight, and asks again only after a reply that
is not final. The last request may be one that could not be sent. If a task returns, it
reports as many turns as it made requests, and its answer is the beginning of the reply to
the last one, or nothing if eight replies were not enough (`transcripts_of_task`).
-/

set_option autoImplicit false

namespace AgentServe

open Lib

/-- What is said between two requests: a reply, and the answers to its calls. -/
def exchange (replies : ℕ → Reply) (answers : ℕ → List (Text × Text)) (i : ℕ) : List Message :=
  .assistant (replies i).content (replies i).toolCalls ::
    (answers i).map fun answer => .tool answer.1 answer.2

/-- All that was said after so many exchanges. -/
def transcript (start : List Message) (exchanges : ℕ → List Message) (n : ℕ) : List Message :=
  start ++ (List.range n).flatMap exchanges

theorem transcript_succ (start : List Message) (exchanges : ℕ → List Message) (n : ℕ) :
    transcript start exchanges (n + 1) =
      transcript (start ++ exchanges 0) (fun i => exchanges (i + 1)) n := by
  rw [transcript, List.range_succ_eq_map, List.flatMap_cons, List.flatMap_map, ← List.append_assoc]
  rfl

/-- The answer that a loop ends with: the reply to its last request if that is final. -/
structure Concluded (replies : ℕ → Reply) (left n : ℕ) (answer : Text) : Prop where
  final : ∀ i, n = i + 1 → (replies i).final = true → answer = (replies i).content.getD []
  exhausted : (∀ i, n = i + 1 → (replies i).final = false) → n = left ∧ answer = []

section Loop

variable {sessionId tierHint : Text}

/-- The requests of a loop that has so many turns left, and what it came to. -/
structure Conversed (sessionId tierHint : Text) (replies : ℕ → Reply) (left : ℕ)
    (messages : List Message) (ran : AgentRun) : Prop where
  bounded : ran.requests.length ≤ left
  begun : 0 < left → 0 < ran.requests.length
  going : ∀ i, i + 1 < ran.requests.length → (replies i).final = false
  told : ∃ answers : ℕ → List (Text × Text),
    (∀ i, i + 1 < ran.requests.length → (answers i).map Prod.fst =
      (replies i).toolCalls.map ToolCall.id) ∧
    ran.requests = (List.range ran.requests.length).map fun i =>
      ⟨transcript messages (exchange replies answers) i, sessionId, tierHint⟩
  counted : ∀ final, ran.outcome = .ok final →
    final.1.countP Message.isAssistant =
      messages.countP Message.isAssistant + ran.requests.length
  concluded : ∀ final, ran.outcome = .ok final →
    Concluded replies left ran.requests.length final.2

/-- One request, after which a loop ends. -/
theorem conversed_once {replies : ℕ → Reply} {left : ℕ} {messages : List Message}
    {outcome : Except PyError (List Message × Text)}
    (ends : ∀ final, outcome = .ok final →
      final.1.countP Message.isAssistant = messages.countP Message.isAssistant + 1 ∧
      (replies 0).final = true ∧ final.2 = (replies 0).content.getD []) :
    Conversed sessionId tierHint replies (left + 1) messages
      ⟨[⟨messages, sessionId, tierHint⟩], outcome⟩ where
  bounded := Nat.succ_le_succ (Nat.zero_le left)
  begun := fun _ => Nat.one_pos
  going := by
    intro i more
    simp at more
  told := ⟨fun _ => [], by simp, by simp [transcript]⟩
  counted := fun final returned => (ends final returned).1
  concluded := by
    intro final returned
    obtain ⟨_, last, answer⟩ := ends final returned
    refine ⟨?_, ?_⟩
    · intro i one _
      obtain rfl : i = 0 := by simpa using one.symm
      exact answer
    · intro more
      rw [more 0 rfl] at last
      cases last

/-- The answers of one exchange, and then those of others. -/
def followed (first : List (Text × Text)) (others : ℕ → List (Text × Text)) :
    ℕ → List (Text × Text)
  | 0 => first
  | i + 1 => others i

theorem countP_answers (answers : List (Text × Text)) :
    (answers.map fun answer => Message.tool answer.1 answer.2).countP Message.isAssistant = 0 := by
  apply List.countP_eq_zero.mpr
  intro message member
  obtain ⟨answer, _, rfl⟩ := List.mem_map.mp member
  exact Bool.false_ne_true

theorem countP_exchange (replies : ℕ → Reply) (answers : ℕ → List (Text × Text)) (i : ℕ) :
    (exchange replies answers i).countP Message.isAssistant = 1 := by
  rw [exchange, List.countP_cons, countP_answers]
  rfl

/-- An exchange before a loop. -/
theorem conversed_cons {replies : ℕ → Reply} {left : ℕ} {messages : List Message}
    {first : List (Text × Text)} {rest : AgentRun} (more : (replies 0).final = false)
    (ids : first.map Prod.fst = (replies 0).toolCalls.map ToolCall.id)
    (later : Conversed sessionId tierHint (fun i => replies (i + 1)) left
      (messages ++ exchange replies (fun _ => first) 0) rest) :
    Conversed sessionId tierHint replies (left + 1) messages
      ⟨⟨messages, sessionId, tierHint⟩ :: rest.requests, rest.outcome⟩ := by
  obtain ⟨bounded, _, going, ⟨others, named, told⟩, counted, concluded⟩ := later
  refine ⟨Nat.succ_le_succ bounded, fun _ => Nat.succ_pos _, ?_, ⟨followed first others, ?_, ?_⟩,
    ?_, ?_⟩
  · intro i within
    cases i with
    | zero => exact more
    | succ i => exact going i (Nat.lt_of_succ_lt_succ within)
  · intro i within
    cases i with
    | zero => exact ids
    | succ i => exact named i (Nat.lt_of_succ_lt_succ within)
  · have shifted : ∀ i, transcript messages (exchange replies (followed first others)) (i + 1) =
        transcript (messages ++ exchange replies (fun _ => first) 0)
          (exchange (fun i => replies (i + 1)) others) i :=
      fun i => transcript_succ ..
    have begins : transcript messages (exchange replies (followed first others)) 0 = messages :=
      List.append_nil _
    rw [List.length_cons, List.range_succ_eq_map, List.map_cons, List.map_map, begins]
    refine congrArg (_ :: ·) (told.trans (List.map_congr_left fun i _ => ?_))
    exact congrArg (fun said => (⟨said, sessionId, tierHint⟩ : GatewayCall)) (shifted i).symm
  · intro final returned
    rw [counted final returned, List.countP_append, countP_exchange, List.length_cons]
    omega
  · intro final returned
    obtain ⟨last, exhausted⟩ := concluded final returned
    refine ⟨fun i length ends => ?_, fun none => ?_⟩
    · cases i with
      | zero =>
          rw [more] at ends
          cases ends
      | succ i => exact last i (Nat.succ.inj length) ends
    · obtain ⟨all, empty⟩ := exhausted fun i length => none (i + 1) (congrArg Nat.succ length)
      exact ⟨congrArg Nat.succ all, empty⟩

/-- **One loop** and its requests. -/
theorem conversed_runTurns (env : Surroundings) (replies : ℕ → Reply)
    (sessionId tierHint : Text) (left turn : ℕ) (messages : List Message) :
    Conversed sessionId tierHint (fun i => replies (turn + i)) left messages
      (runTurns env replies sessionId tierHint left turn messages) := by
  induction left generalizing turn messages with
  | zero =>
      refine ⟨le_rfl, fun more => more, fun i more => absurd more (Nat.not_lt_zero _),
        ⟨fun _ => [], fun i more => absurd more (Nat.not_lt_zero _), rfl⟩, ?_, ?_⟩
      · rintro _ ⟨⟩
        rfl
      · rintro _ ⟨⟩
        exact ⟨fun i length => absurd length.symm (Nat.succ_ne_zero i), fun _ => ⟨rfl, rfl⟩⟩
  | succ left ih =>
      simp only [runTurns, call]
      by_cases sent : env.sends ⟨messages, sessionId, tierHint⟩ = true
      · rw [if_pos sent]
        by_cases final : (replies turn).final = true
        · simp only [if_pos final]
          apply conversed_once
          rintro _ ⟨⟩
          refine ⟨?_, final, rfl⟩
          rw [List.countP_append]
          rfl
        · simp only [if_neg final]
          have more : (replies (turn + 0)).final = false := by simpa using final
          cases carried : runCalls env turn 0 (messages ++ [(replies turn).message])
              (replies turn).toolCalls with
          | error e =>
              apply conversed_once
              rintro _ ⟨⟩
          | ok next =>
              obtain ⟨answers, ids, rfl⟩ := runCalls_eq_ok carried
              have later := ih (turn + 1) (messages ++ exchange (fun i => replies (turn + i))
                (fun _ => answers) 0)
              have shifted :
                  (fun i => replies (turn + 1 + i)) = fun i => replies (turn + (i + 1)) := by
                funext i
                rw [Nat.add_right_comm, Nat.add_assoc]
              rw [shifted] at later
              rw [List.append_assoc]
              exact conversed_cons more ids later
      · rw [if_neg sent]
        apply conversed_once
        rintro _ ⟨⟩

end Loop

/-- The requests of a task and the report on it, from those of its loop. -/
theorem Conversed.reported {replies : ℕ → Reply} {task : AgentTask} {sessionId : Text}
    {ran : AgentRun}
    (conversed : Conversed sessionId task.tierHint replies 8 (opening task) ran)
    (env : Surroundings) (elapsed : Time) :
    ∃ n answers, 0 < n ∧ n ≤ 8 ∧
      (∀ i, i + 1 < n → (replies i).final = false ∧
        (answers i).map Prod.fst = (replies i).toolCalls.map ToolCall.id) ∧
      (ran.reported env task sessionId elapsed).1 = (List.range n).map (fun i =>
        ⟨transcript (opening task) (exchange replies answers) i, sessionId, task.tierHint⟩) ∧
      ∀ result, (ran.reported env task sessionId elapsed).2 = .ok result →
        result.turns = n ∧
          if (replies (n - 1)).final then
            result.answer = ((replies (n - 1)).content.getD []).take 500
          else n = 8 ∧ result.answer = [] := by
  obtain ⟨bounded, begun, going, ⟨answers, ids, told⟩, counted, concluded⟩ := conversed
  refine ⟨_, answers, begun (by decide), bounded, fun i within => ⟨going i within, ids i within⟩,
    told, ?_⟩
  intro result returned
  rcases ran with ⟨requests, e | final⟩
  · cases returned
  · cases returned
    have turns := counted final rfl
    obtain ⟨last, exhausted⟩ := concluded final rfl
    simp only at begun turns last exhausted ⊢
    generalize requests.length = n at begun turns last exhausted ⊢
    obtain ⟨m, rfl⟩ := Nat.exists_eq_succ_of_ne_zero (begun (by decide)).ne'
    refine ⟨turns.trans (Nat.zero_add _), ?_⟩
    split
    · rename_i ends
      exact congrArg (List.take 500) (last m rfl ends)
    · rename_i more
      obtain ⟨all, empty⟩ := exhausted fun i length => by
        rw [← Nat.succ.inj length]
        simpa using more
      exact ⟨all, congrArg (List.take 500) empty⟩

/-- **The requests of a task** are the beginnings of one transcript, in which each reply is followed
by one answer to each of its calls. There are at most eight, each but the last of them was followed
by a reply that is not final, and a task that returns reports as many turns. Its answer is the
beginning of its final reply, or nothing if there was none among eight. -/
theorem transcripts_of_task (env : Surroundings) (replies : ℕ → Reply) (task : AgentTask)
    (session : Option Text) (uuid : Text) (elapsed : Time) :
    ∃ n answers, 0 < n ∧ n ≤ 8 ∧
      (∀ i, i + 1 < n → (replies i).final = false ∧
        (answers i).map Prod.fst = (replies i).toolCalls.map ToolCall.id) ∧
      (runTask env replies task session uuid elapsed).1 = (List.range n).map (fun i =>
        ⟨transcript [.system systemPrompt, .user task.prompt] (exchange replies answers) i,
          if session.getD [] = [] then uuid else session.getD [], task.tierHint⟩) ∧
      ∀ result, (runTask env replies task session uuid elapsed).2 = .ok result →
        result.turns = n ∧
          if (replies (n - 1)).final then
            result.answer = ((replies (n - 1)).content.getD []).take 500
          else n = 8 ∧ result.answer = [] := by
  have conversed := conversed_runTurns env replies (sessionIdOf session uuid) task.tierHint 8 0
    (opening task)
  simp only [Nat.zero_add] at conversed
  unfold runTask
  exact conversed.reported env elapsed

end AgentServe
