import AgentServe.Gateway.Answers

/-!
# How a request is counted

A request should be counted once, with the outcome that it had (`CountedRight`). The counter is
incremented in four places. The handler increments it for an exception of the gateway, and does not
ask which one it is. It does not increment it for any other exception. The code that awaits a reply
counts a success before it has read the reply, and an upstream error if it cannot read it.

So a request that has ended is counted right exactly if `gate` raised the exception of the budget,
or the request was admitted and forwarded and its reply, if there is one, can be read
(`countedRight_iff`). A reply can be read if it is an object whose usage can be counted and whose
other members can be encoded (`reads_iff_readable`).
-/

set_option autoImplicit false

namespace AgentServe

open Lib GatewayEvent

/-! ## Replies that can be read -/

/-- A member is missing, or a counter can be incremented by it. -/
def Countable (fields : List (String × Json)) (name : String) : Prop :=
  ∀ value, fields.lookup name = some value → value.increment.isSome = true

/-- The members of a reply that can be counted and rendered. A usage that is empty is not looked
at, and the member that the gateway adds replaces one of its name. -/
structure Readable (fields : List (String × Json)) : Prop where
  usage : ∀ usage, fields.lookup "usage" = some usage → usage.truthy = true →
    ∃ counts, usage = .obj counts ∧ Countable counts "prompt_tokens" ∧
      Countable counts "completion_tokens"
  renders : ∀ member ∈ fields.eraseP fun member => member.1 = "x_agent_serve",
    member.2.renderable = true

theorem increment_isSome_iff (fields : List (String × Json)) (name : String) :
    ((fields.lookup name).getD (.number 0)).increment.isSome = true ↔ Countable fields name := by
  cases found : fields.lookup name with
  | none =>
      have small : (0 : ℚ) < Json.floatLimit := by
        have fewer : (2 : ℚ) ^ 970 < 2 ^ 1024 := pow_lt_pow_right₀ (by norm_num) (by norm_num)
        exact sub_pos.mpr fewer
      simp [Countable, found, Json.increment, small]
  | some value => simp [Countable, found]

/-- The usage of an object can be counted. -/
theorem reportTokens_isSome_iff (fields : List (String × Json)) :
    (reportTokens (.obj fields)).isSome = true ↔
      ∀ usage, fields.lookup "usage" = some usage → usage.truthy = true →
        ∃ counts, usage = .obj counts ∧ Countable counts "prompt_tokens" ∧
          Countable counts "completion_tokens" := by
  cases found : fields.lookup "usage" with
  | none => simp [reportTokens, Json.get, found, Json.truthy]
  | some usage =>
      cases truthy : usage.truthy with
      | false => simp [reportTokens, Json.get, found, truthy]
      | true =>
          cases usage with
          | obj counts =>
              have prompt := increment_isSome_iff counts "prompt_tokens"
              have completion := increment_isSome_iff counts "completion_tokens"
              simp only [Option.some.injEq, forall_eq', truthy, forall_const, Json.obj.injEq,
                exists_eq_left', ← prompt, ← completion]
              simp only [reportTokens, Json.get, found, Option.getD_some, Option.bind_eq_bind,
                Option.bind_some, truthy, if_true]
              cases ((counts.lookup "prompt_tokens").getD (.number 0)).increment
              all_goals
                cases ((counts.lookup "completion_tokens").getD (.number 0)).increment
                all_goals simp
          | _ => simp [reportTokens, Json.get, found, truthy]

theorem renderableFields_iff (fields : List (String × Json)) :
    Json.renderableFields fields = true ↔ ∀ member ∈ fields, member.2.renderable = true := by
  induction fields with
  | nil => simp [Json.renderableFields]
  | cons member rest ih => simp [Json.renderableFields, ih]

/-- Assigning a member that can be encoded leaves it to the other members. -/
theorem renderableFields_setItems {value : Json} (renders : value.renderable = true) (key : String)
    (fields : List (String × Json)) :
    Json.renderableFields (Dict.setItems key value fields) = true ↔
      ∀ member ∈ fields.eraseP (fun member => member.1 = key), member.2.renderable = true := by
  induction fields with
  | nil => simp [Dict.setItems, Json.renderableFields, renders]
  | cons member rest ih =>
      by_cases same : member.1 = key
      · simp [Dict.setItems, same, Json.renderableFields, renders, renderableFields_iff]
      · simp [Dict.setItems, same, Json.renderableFields, ih]

/-- A reply can be rendered if it is an object with members that can be read. -/
theorem renderReply_isSome_iff (result : Json) (m : AgentServeMeta) :
    (renderReply result m).isSome = true ↔ ∃ fields, result = .obj fields ∧ Readable fields := by
  cases result with
  | obj fields =>
      have dumped : m.dump.renderable = true := rfl
      have counted := reportTokens_isSome_iff fields
      have rendered := renderableFields_setItems dumped "x_agent_serve" fields
      have both : (renderReply (.obj fields) m).isSome = true ↔
          (reportTokens (.obj fields)).isSome = true ∧
            (Json.obj (Dict.setItems "x_agent_serve" m.dump fields)).renderable = true := by
        simp only [renderReply, Json.set, Option.bind_eq_bind, Option.bind_some]
        cases reportTokens (.obj fields) with
        | none => exact iff_of_false nofun fun both => nomatch both.1
        | some tokens =>
            rw [Option.bind_some]
            split
            · rename_i renders
              exact iff_of_true rfl ⟨rfl, renders⟩
            · rename_i stuck
              exact iff_of_false nofun fun both => stuck both.2
      rw [both, counted, Json.renderable, rendered]
      constructor
      · rintro ⟨usage, renders⟩
        exact ⟨fields, rfl, usage, renders⟩
      · rintro ⟨_, same, readable⟩
        cases same
        exact ⟨readable.usage, readable.renders⟩
  | _ => simp [renderReply, reportTokens, Json.get]

/-- A reply to a request with a backend can be read if it is an object with members that can be. -/
theorem reads_iff_readable {r : Request} {b : BackendInfo} (bound : r.backend = some b)
    (result : Json) : r.Reads result ↔ ∃ fields, result = .obj fields ∧ Readable fields := by
  rw [Request.reads_iff bound, renderReply_isSome_iff]

/-! ## Outcomes -/

namespace Gateway

variable {ρ : Type}

/-- The client of a request got the result of its backend: a reply, or a stream to its end. -/
def GotResult (es : List (GatewayEvent ρ)) (r : Request) : Prop :=
  match r.stage with
  | .over (.completed _ _) => True
  | .over .streamed => failed es = false
  | _ => False

/-- `gate` raised the exception of the budget. -/
def RaisedBudget (ticket : Option Ticket) : Prop :=
  ∃ session tier agentId used budget,
    ticket = some ⟨session, tier, .raised (.exception (.budgetExceeded agentId used budget))⟩

/-- `gate` raised the exception of the queue. -/
def RaisedQueueFull (ticket : Option Ticket) : Prop :=
  ∃ session tier seconds, ticket = some ⟨session, tier, .raised (.exception (.queueFull seconds))⟩

/-- The outcome of a request is the one it had. -/
structure RightOutcome (ticket : Option Ticket) (es : List (GatewayEvent ρ)) (r : Request)
    (outcome : RequestOutcome) : Prop where
  success : outcome = .success ↔ GotResult es r
  budget : outcome = .budgetRejected ↔ RaisedBudget ticket
  queue : outcome = .queueRejected ↔ RaisedQueueFull ticket
  upstream : outcome = .upstreamError ↔ failed es = true
  gateway : outcome = .gatewayError ↔
    ¬ GotResult es r ∧ ¬ RaisedBudget ticket ∧ ¬ RaisedQueueFull ticket ∧ failed es = false

/-- A request is counted once, with the outcome it had. -/
def CountedRight (ticket : Option Ticket) (es : List (GatewayEvent ρ)) (r : Request)
    (labels : List RequestLabels) : Prop :=
  ∃ label, labels = [label] ∧ RightOutcome ticket es r label.outcome

/-- `gate` raised the exception of the budget, or the request was forwarded and any reply can be
read. -/
def BudgetOrReadable (ticket : Option Ticket) (es : List (GatewayEvent ρ)) (r : Request) : Prop :=
  RaisedBudget ticket ∨ Admitted ticket ∧ r.Forwardable ∧
    ∀ result ∈ replies es, ∃ fields, result = .obj fields ∧ Readable fields

variable {ticket : Option Ticket} {es : List (GatewayEvent ρ)} {r : Request}

theorem not_admitted_of_raised {session : SessionContext} {tier : Tier} {error : Raised}
    (raised : ticket = some ⟨session, tier, .raised error⟩) : ¬ Admitted ticket := by
  rintro ⟨x, found, admitted⟩
  cases raised.symm.trans found
  cases admitted

theorem not_raisedBudget_of_admitted (admitted : Admitted ticket) : ¬ RaisedBudget ticket := by
  rintro ⟨session, tier, agentId, used, budget, raised⟩
  exact not_admitted_of_raised raised admitted

theorem not_raisedQueueFull_of_admitted (admitted : Admitted ticket) :
    ¬ RaisedQueueFull ticket := by
  rintro ⟨session, tier, seconds, raised⟩
  exact not_admitted_of_raised raised admitted

theorem RaisedBudget.not_raisedQueueFull (raised : RaisedBudget ticket) :
    ¬ RaisedQueueFull ticket := by
  obtain ⟨session, tier, agentId, used, budget, rfl⟩ := raised
  rintro ⟨session', tier', seconds, same⟩
  cases same

/-- A request that was admitted and got its result is a success. -/
theorem rightOutcome_success (admitted : Admitted ticket) (got : GotResult es r)
    (steady : failed es = false) : RightOutcome ticket es r .success where
  success := iff_of_true rfl got
  budget := iff_of_false nofun (not_raisedBudget_of_admitted admitted)
  queue := iff_of_false nofun (not_raisedQueueFull_of_admitted admitted)
  upstream := iff_of_false nofun (by simp [steady])
  gateway := iff_of_false nofun fun none => none.1 got

/-- A request that was admitted and whose backend failed is an upstream error. -/
theorem rightOutcome_upstreamError (admitted : Admitted ticket) (lost : ¬ GotResult es r)
    (broken : failed es = true) : RightOutcome ticket es r .upstreamError where
  success := iff_of_false nofun lost
  budget := iff_of_false nofun (not_raisedBudget_of_admitted admitted)
  queue := iff_of_false nofun (not_raisedQueueFull_of_admitted admitted)
  upstream := iff_of_true rfl broken
  gateway := iff_of_false nofun fun none => by simp [broken] at none

/-- A request that got no answer is rejected for its budget exactly if `gate` said so. -/
theorem rightOutcome_budgetRejected_iff (lost : ¬ GotResult es r) (steady : failed es = false) :
    RightOutcome ticket es r .budgetRejected ↔ RaisedBudget ticket := by
  constructor
  · intro right
    exact right.budget.mp rfl
  · intro raised
    exact {
      success := iff_of_false nofun lost
      budget := iff_of_true rfl raised
      queue := iff_of_false nofun raised.not_raisedQueueFull
      upstream := iff_of_false nofun (by simp [steady])
      gateway := iff_of_false nofun fun none => none.2.1 raised }

/-- A request that ended, by the way it stands. -/
theorem countedRight_of_course {exit : Exit} (ended : r.stage = .over exit)
    (stayed : exit ≠ .dropped) (kept : exit ≠ .cancelled)
    (course : Course ticket es r (.over exit)) :
    CountedRight ticket es r (r.counted (failed es)) ↔ BudgetOrReadable ticket es r := by
  have got : GotResult es r ↔ GotResult es { r with stage := .over exit } := by
    rw [← ended]
  rw [Request.counted, ended]
  cases exit with
  | rejected e =>
      obtain ⟨unanswered, at_gate⟩ := course
      have barred : ¬ Admitted ticket := by
        rcases at_gate with absent | ⟨session, tier, raised⟩
        · rintro ⟨x, found, _⟩
          cases absent.symm.trans found
        · exact not_admitted_of_raised raised
      have outcome : RightOutcome ticket es r .budgetRejected ↔ RaisedBudget ticket :=
        rightOutcome_budgetRejected_iff got.mp unanswered.steady
      constructor
      · rintro ⟨label, same, right⟩
        cases same
        exact .inl (outcome.mp right)
      · rintro (raised | ⟨admitted, _⟩)
        · exact ⟨rejectionLabels, rfl, outcome.mpr raised⟩
        · exact absurd admitted barred
  | failed =>
      obtain ⟨unanswered, at_gate⟩ := course
      refine iff_of_false ?_ ?_
      · rintro ⟨label, none, _⟩
        cases none
      · rcases at_gate with ⟨session, tier, t, raised⟩ | ⟨admitted, stuck⟩
        · rintro (⟨_, _, _, _, _, other⟩ | ⟨admitted, _⟩)
          · cases raised.symm.trans other
          · exact not_admitted_of_raised raised admitted
        · rintro (raised | ⟨_, ready, _⟩)
          · exact not_raisedBudget_of_admitted admitted raised
          · exact stuck ready
  | completed now answer =>
      obtain ⟨forwarded, call, steady, reads⟩ := course
      have right := rightOutcome_success forwarded.admitted (got.mpr trivial) steady
      obtain ⟨b, bound, _⟩ := forwarded.ready
      refine iff_of_true ⟨_, rfl, right⟩ (.inr ⟨forwarded.admitted, forwarded.ready, ?_⟩)
      intro result replied
      exact (reads_iff_readable bound result).mp (reads result replied)
  | upstreamError =>
      obtain ⟨forwarded, call, ⟨broken, unreplied⟩ | ⟨steady, result, replied, unread⟩⟩ := course
      · have right := rightOutcome_upstreamError forwarded.admitted got.mp broken
        rw [broken]
        refine iff_of_true ⟨_, rfl, right⟩ (.inr ⟨forwarded.admitted, forwarded.ready, ?_⟩)
        simp [unreplied]
      · rw [steady]
        refine iff_of_false ?_ ?_
        · rintro ⟨label, twice, _⟩
          cases twice
        · rintro (raised | ⟨_, _, reads⟩)
          · exact not_raisedBudget_of_admitted forwarded.admitted raised
          · obtain ⟨b, bound, _⟩ := forwarded.ready
            exact unread ((reads_iff_readable bound result).mpr (reads result replied))
  | streamed =>
      have stream : Streamed ticket es r := course
      have readable : BudgetOrReadable ticket es r :=
        .inr ⟨stream.forwarded.admitted, stream.forwarded.ready, by simp [stream.unreplied]⟩
      cases broken : failed es with
      | false =>
          have right := rightOutcome_success stream.forwarded.admitted (got.mpr broken) broken
          exact iff_of_true ⟨_, rfl, right⟩ readable
      | true =>
          have lost : ¬ GotResult es r := by
            intro result
            cases broken.symm.trans (got.mp result)
          have right := rightOutcome_upstreamError stream.forwarded.admitted lost broken
          exact iff_of_true ⟨_, rfl, right⟩ readable
  | dropped => exact absurd rfl stayed
  | cancelled => exact absurd rfl kept

variable [DecidableEq ρ]

/-- **When a request is counted right.** In every run, a request that has ended, and was neither
cancelled nor dropped, is counted once and with the outcome it had exactly if `gate` raised the
exception of the budget, or it was admitted and forwarded and its reply, if there is one, can be
read. -/
theorem countedRight_iff (config : GatewayConfig) (events : List (GatewayEvent ρ)) (g : Gateway ρ)
    (ran : run step (new config) events = some g) (k : ρ) (r : Request)
    (found : g.requests.get? k = some r) (exit : Exit) (ended : r.stage = .over exit)
    (stayed : exit ≠ .dropped) (kept : exit ≠ .cancelled) :
    CountedRight (g.admission.tickets.get? k) (ownEvents k events) r
        (countedFor config k events) ↔
      BudgetOrReadable (g.admission.tickets.get? k) (ownEvents k events) r := by
  have accounted := accounted_run ran k
  have course := accounted.course r found
  rw [ended] at course
  rw [accounted.counted r found]
  exact countedRight_of_course ended stayed kept course

/-! ## A reply that cannot be read -/

/-- The end of a request that was neither dropped nor cancelled. -/
def isUndisturbedEnd : Stage → Bool
  | .over .dropped | .over .cancelled => false
  | .over _ => true
  | _ => false

theorem exists_exit {stage : Stage} (ended : isUndisturbedEnd stage = true) :
    ∃ exit : Exit, stage = .over exit ∧ exit ≠ .dropped ∧ exit ≠ .cancelled := by
  unfold isUndisturbedEnd at ended
  split at ended
  · cases ended
  · cases ended
  · rename_i exit dropped cancelled
    exact ⟨exit, rfl, dropped, cancelled⟩
  · cases ended

/-- A call that is answered. -/
def answeredCall : List (GatewayEvent ℕ) := [
  .arrive 0 (hello "s" false) (greeted .big "big-0") 0 0 AdmissionSystem.atStart,
  .reply 0 (.obj []) 1]

/-- A call that is answered with `null`. -/
def nullCall : List (GatewayEvent ℕ) := [
  .arrive 0 (hello "s" false) (greeted .big "big-0") 0 0 AdmissionSystem.atStart,
  .reply 0 .null 1]

/-- A reply of `null` is counted as a success and as an upstream error. -/
theorem null_reply_is_counted_twice :
    ¬ ∀ (config : GatewayConfig) (events : List (GatewayEvent ℕ)) (g : Gateway ℕ),
      run step (new config) events = some g → ∀ (k : ℕ) (r : Request),
        g.requests.get? k = some r → ∀ exit : Exit, r.stage = .over exit →
          exit ≠ .dropped → exit ≠ .cancelled →
            CountedRight (g.admission.tickets.get? k) (ownEvents k events) r
              (countedFor config k events) := by
  intro always
  have ended : ((run step (new shippedConfig) nullCall).bind fun g =>
      (g.requests.get? 0).map fun r => isUndisturbedEnd r.stage) = some true := by
    decide +kernel
  have twice : (countedFor shippedConfig 0 nullCall).map RequestLabels.outcome =
      [.success, .upstreamError] := by
    decide +kernel
  obtain ⟨g, r, ran, found, stage⟩ := request_of_eval ended
  obtain ⟨exit, at_end, stayed, kept⟩ := exists_exit stage
  obtain ⟨label, once, _⟩ :=
    always shippedConfig nullCall g ran 0 r found exit at_end stayed kept
  have one := congrArg List.length twice
  rw [once] at one
  cases one

/-- The condition for a call that is answered. -/
theorem countedRight_iff_for_answered_call :
    ∃ (g : Gateway ℕ) (r : Request), run step (new shippedConfig) answeredCall = some g ∧
      g.requests.get? 0 = some r ∧
      (CountedRight (g.admission.tickets.get? 0) (ownEvents 0 answeredCall) r
          (countedFor shippedConfig 0 answeredCall) ↔
        BudgetOrReadable (g.admission.tickets.get? 0) (ownEvents 0 answeredCall) r) := by
  have ended : ((run step (new shippedConfig) answeredCall).bind fun g =>
      (g.requests.get? 0).map fun r => isUndisturbedEnd r.stage) = some true := by
    decide +kernel
  obtain ⟨g, r, ran, found, stage⟩ := request_of_eval ended
  obtain ⟨exit, at_end, stayed, kept⟩ := exists_exit stage
  exact ⟨g, r, ran, found,
    countedRight_iff shippedConfig answeredCall g ran 0 r found exit at_end stayed kept⟩

end Gateway

end AgentServe
