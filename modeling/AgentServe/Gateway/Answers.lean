import AgentServe.Gateway.NoTrace
import AgentServe.Gateway.Slots

/-!
# The course of a request

What a step does to the request it is of, to the last chunk and label: the request is refused or
goes through a stretch of `gate`, and then the code that answers it reacts to the server and to the
backend (`OwnStep`, `ownStep_of_step`).

The events of a request tell how it stands: what its client was handed is what the backend
delivered, with a last event if the backend failed (`Course`), and what was counted for it
(`counted`). This holds at the end of every run (`accounted_run`).
-/

set_option autoImplicit false

namespace AgentServe

open Lib

/-! ## Events of a request -/

namespace GatewayEvent

variable {ρ : Type}

/-- The request an event is of. -/
def request? : GatewayEvent ρ → Option ρ
  | .arrive k _ _ _ _ _ | .interrupt k _ | .resume k _ | .advance k | .drop k | .aclose k
  | .chunk k _ | .upstreamEnds k | .upstreamFails k | .reply k _ _ | .cancel k => some k
  | .markStatus _ _ => none

/-- The chunk that a backend delivers. -/
def chunk? : GatewayEvent ρ → Option (List UInt8)
  | .chunk _ bytes => some bytes
  | _ => none

/-- The backend fails. -/
def isFailure : GatewayEvent ρ → Bool
  | .upstreamFails _ => true
  | _ => false

/-- The reply of a backend. -/
def reply? : GatewayEvent ρ → Option Json
  | .reply _ result _ => some result
  | _ => none

/-- The events of a request. -/
def ownEvents [DecidableEq ρ] (k : ρ) (events : List (GatewayEvent ρ)) : List (GatewayEvent ρ) :=
  events.filter fun e => e.request? = some k

/-- The chunks that backends delivered. -/
def sent (events : List (GatewayEvent ρ)) : List (List UInt8) := events.filterMap chunk?

/-- Some backend failed. -/
def failed (events : List (GatewayEvent ρ)) : Bool := events.any isFailure

/-- The replies of backends. -/
def replies (events : List (GatewayEvent ρ)) : List Json := events.filterMap reply?

theorem ownEvents_concat_own [DecidableEq ρ] {k : ρ} {e : GatewayEvent ρ}
    (own : e.request? = some k) (past : List (GatewayEvent ρ)) :
    ownEvents k (past ++ [e]) = ownEvents k past ++ [e] := by
  simp [ownEvents, own]

theorem ownEvents_concat_other [DecidableEq ρ] {k : ρ} {e : GatewayEvent ρ}
    (other : e.request? ≠ some k) (past : List (GatewayEvent ρ)) :
    ownEvents k (past ++ [e]) = ownEvents k past := by
  simp [ownEvents, other]

@[simp] theorem sent_concat (past : List (GatewayEvent ρ)) (e : GatewayEvent ρ) :
    sent (past ++ [e]) = sent past ++ e.chunk?.toList := by
  cases found : e.chunk? <;> simp [sent, found]

@[simp] theorem failed_concat (past : List (GatewayEvent ρ)) (e : GatewayEvent ρ) :
    failed (past ++ [e]) = (failed past || e.isFailure) := by
  simp [failed]

@[simp] theorem replies_concat (past : List (GatewayEvent ρ)) (e : GatewayEvent ρ) :
    replies (past ++ [e]) = replies past ++ e.reply?.toList := by
  cases found : e.reply? <;> simp [replies, found]

end GatewayEvent

open GatewayEvent

namespace Gateway

variable {ρ : Type}

theorem Reacts.request?_eq {k : ρ} {r : Request} {e : GatewayEvent ρ} {stage : Stage}
    {chunks : List (List UInt8)} {labels : List RequestLabels}
    (reacts : Reacts k r e stage chunks labels) : e.request? = some k := by
  cases reacts <;> rfl

variable [DecidableEq ρ]

/-- What a step does to its request: the request afterwards, and what is counted for it. -/
inductive OwnStep (g h : Gateway ρ) (k : ρ) :
    GatewayEvent ρ → Request → List RequestLabels → Prop where
  | refused {input : ChatInput} {decision : RoutingDecision} {now made : Time}
      {clock : GateClock} {e : GatewayException} (fresh : g.requests.get? k = none)
      (untouched : h.admission = g.admission) :
      OwnStep g h k (.arrive k input decision now made clock)
        { input, session := buildSession input, decision, stage := .over (.rejected e) }
        [rejectionLabels]
  | arrived {input : ChatInput} {decision : RoutingDecision} {now made : Time}
      {clock : GateClock} {b : BackendInfo} {hit : Bool} {session : SessionContext} {tier : Tier}
      {caller : Caller} (fresh : g.requests.get? k = none)
      (ticket : h.admission.tickets.get? k = some ⟨session, tier, caller⟩)
      (kept : caller ≠ .released) :
      OwnStep g h k (.arrive k input decision now made clock)
        (settled
          { input, session := buildSession input, backend := some b,
            decision := { decision with backendId := b.id, affinityHit := hit } } b caller)
        (callerLabels caller)
  | interrupted {i : Interrupt} {r : Request} {session : SessionContext} {tier : Tier}
      {start : Time} {after : Option Interrupt} (found : g.requests.get? k = some r)
      (waiting : r.stage = .waiting)
      (ticket : h.admission.tickets.get? k = some ⟨session, tier, .inside start after⟩) :
      OwnStep g h k (.interrupt k i) r []
  | resumed {finish : Time} {r : Request} {b : BackendInfo} {session : SessionContext}
      {tier : Tier} {caller : Caller} (found : g.requests.get? k = some r)
      (waiting : r.stage = .waiting) (bound : r.backend = some b)
      (ticket : h.admission.tickets.get? k = some ⟨session, tier, caller⟩)
      (kept : caller ≠ .released) :
      OwnStep g h k (.resume k finish) (settled r b caller) (callerLabels caller)
  | reacts {e : GatewayEvent ρ} {r : Request} {stage : Stage} {chunks : List (List UInt8)}
      {labels : List RequestLabels} (found : g.requests.get? k = some r)
      (reacts : Reacts k r e stage chunks labels) :
      OwnStep g h k e { r with stage, delivered := r.delivered ++ chunks } labels

/-- Ending a request. -/
theorem finish_exact {g h : Gateway ρ} {k : ρ} {r : Request} {exit : Exit}
    (finished : g.finish k r exit = some h) :
    h.requests.get? k = some { r with stage := .over exit } ∧
      h.requestsTotal = g.requestsTotal := by
  obtain ⟨back, gave, rfl⟩ := Option.map_eq_some_iff.mp finished
  obtain ⟨x, ticket, rest⟩ := Option.bind_eq_some_iff.mp gave
  obtain ⟨admission, released, rest⟩ := Option.bind_eq_some_iff.mp rest
  cases rest
  exact ⟨Dict.get?_set_self .., rfl⟩

theorem ownStep_of_reaction {g h : Gateway ρ} {e : GatewayEvent ρ} {k : ρ}
    (reaction : Reaction g e h) (own : e.request? = some k) :
    ∃ r labels, OwnStep g h k e r labels ∧ h.requests.get? k = some r ∧
      h.requestsTotal = g.requestsTotal ++ labels := by
  cases reaction with
  | moved found reacts move =>
      cases reacts.request?_eq.symm.trans own
      exact ⟨_, _, .reacts found reacts, Dict.get?_set_self .., rfl⟩
  | ended found reacts ends finished =>
      cases reacts.request?_eq.symm.trans own
      obtain ⟨after, total⟩ := finish_exact finished
      exact ⟨_, _, .reacts found reacts, by simpa using after, total⟩

/-- **What a step does to its request.** -/
theorem ownStep_of_step {g h : Gateway ρ} {e : GatewayEvent ρ} {k : ρ} (stepped : g.step e = some h)
    (own : e.request? = some k) :
    ∃ r labels, OwnStep g h k e r labels ∧ h.requests.get? k = some r ∧
      h.requestsTotal = g.requestsTotal ++ labels := by
  cases e with
  | arrive j input decision now made clock =>
      cases own
      simp only [step] at stepped
      split at stepped
      · rename_i fresh
        simp only [chatCompletions] at stepped
        split at stepped
        · cases stepped
          exact ⟨_, _, .refused fresh rfl, Dict.get?_set_self .., rfl⟩
        · obtain ⟨admission, gated, rest⟩ := Option.bind_eq_some_iff.mp stepped
          obtain ⟨⟨session, tier, caller⟩, ticket, went_on⟩ := Option.map_eq_some_iff.mp rest
          rw [settle_exact] at went_on
          cases went_on
          have kept : caller ≠ .released := by
            cases AdmissionSystem.does_of_step gated with
            | gate _ called =>
                cases (Dict.get?_set_self _ _ _).symm.trans ticket
                exact AdmissionController.gate_ne_released called
          exact ⟨_, _, .arrived fresh ticket kept, Dict.get?_set_self .., rfl⟩
      · cases stepped
  | interrupt j i =>
      cases own
      obtain ⟨r, found, rest⟩ := Option.bind_eq_some_iff.mp stepped
      simp only [interruptGate] at rest
      split at rest
      · rename_i waiting
        obtain ⟨admission, fired, rfl⟩ := Option.map_eq_some_iff.mp rest
        cases AdmissionSystem.does_of_step fired with
        | interrupt inside =>
            exact ⟨r, [], .interrupted found waiting (Dict.get?_set_self ..), found, by simp⟩
      · cases rest
  | resume j finish =>
      cases own
      obtain ⟨r, found, rest⟩ := Option.bind_eq_some_iff.mp stepped
      simp only [resumeGate] at rest
      split at rest
      · rename_i waiting bound
        obtain ⟨admission, woke, rest⟩ := Option.bind_eq_some_iff.mp rest
        obtain ⟨⟨session, tier, caller⟩, ticket, went_on⟩ := Option.map_eq_some_iff.mp rest
        rw [settle_exact] at went_on
        cases went_on
        have kept : caller ≠ .released := by
          cases AdmissionSystem.does_of_step woke with
          | resume _ resumed =>
              cases (Dict.get?_set_self _ _ _).symm.trans ticket
              exact AdmissionController.resume_ne_released resumed
        exact ⟨_, _, .resumed found waiting bound ticket kept, Dict.get?_set_self .., rfl⟩
      · cases rest
  | markStatus => cases own
  | _ => exact ownStep_of_reaction (reaction_of_step stepped rfl) own

end Gateway

/-! ## How a request stands -/

/-- A request got its slot. -/
def Admitted (ticket : Option Ticket) : Prop :=
  ∃ x, ticket = some x ∧ x.caller.wasAdmitted = true

/-- A reply that can be counted and rendered. -/
def Request.Reads (r : Request) (result : Json) : Prop :=
  ∃ b, r.backend = some b ∧ (renderReply result (r.agentServeMeta b)).isSome = true

namespace Request

theorem reads_iff {r : Request} {b : BackendInfo} (bound : r.backend = some b) (result : Json) :
    r.Reads result ↔ (renderReply result (r.agentServeMeta b)).isSome = true := by
  simp [Reads, bound]

/-- What is counted for a request up to where it stands, by whether its backend failed. -/
def counted (r : Request) (failed : Bool) : List RequestLabels :=
  match r.stage with
  | .over (.rejected _) => [rejectionLabels]
  | .over (.completed _ _) => [r.labels .success]
  | .over .upstreamError =>
    if failed then [r.labels .upstreamError] else [r.labels .success, r.labels .upstreamError]
  | .over .streamed => if failed then [r.labels .upstreamError] else [r.labels .success]
  | .doneYielded | .closing | .over .dropped => if failed then [r.labels .upstreamError] else []
  | _ => []

end Request

namespace Gateway

variable {ρ : Type}

/-- A request that no backend has answered. -/
structure Unanswered (es : List (GatewayEvent ρ)) (r : Request) : Prop where
  unsent : sent es = []
  steady : failed es = false
  unreplied : replies es = []
  empty : r.delivered = []

/-- A request that is forwarded. -/
structure Forwarded (ticket : Option Ticket) (r : Request) : Prop where
  admitted : Admitted ticket
  ready : r.Forwardable

/-- A stream: its client was handed what the backend delivered, with a last event if the backend
failed. -/
structure Streamed (ticket : Option Ticket) (es : List (GatewayEvent ρ)) (r : Request) : Prop where
  forwarded : Forwarded ticket r
  stream : r.input.stream = true
  unreplied : replies es = []
  delivered : r.delivered = sent es ++ if failed es then [doneEvent] else []

/-- What the events of a request tell of it, by the stage it is in. -/
def Course (ticket : Option Ticket) (es : List (GatewayEvent ρ)) (r : Request) : Stage → Prop
  | .waiting => Unanswered es r
  | .pendingBody => Unanswered es r ∧ Forwarded ticket r ∧ r.input.stream = true
  | .completing => Unanswered es r ∧ Forwarded ticket r ∧ r.input.stream = false
  | .awaiting | .yielded => Streamed ticket es r ∧ failed es = false
  | .doneYielded => Streamed ticket es r ∧ failed es = true
  | .closing | .over .dropped | .over .streamed => Streamed ticket es r
  | .over (.rejected e) => Unanswered es r ∧
    (ticket = none ∨ ∃ session tier, ticket = some ⟨session, tier, .raised (.exception e)⟩)
  | .over .failed => Unanswered es r ∧
    ((∃ session tier t, ticket = some ⟨session, tier, .raised (.keyError t)⟩) ∨
      Admitted ticket ∧ ¬ r.Forwardable)
  | .over (.completed _ _) => Forwarded ticket r ∧ r.input.stream = false ∧ failed es = false ∧
    ∀ result ∈ replies es, r.Reads result
  | .over .upstreamError => Forwarded ticket r ∧ r.input.stream = false ∧
    (failed es = true ∧ replies es = [] ∨
      failed es = false ∧ ∃ result ∈ replies es, ¬ r.Reads result)
  | .over .cancelled => failed es = false

/-- An event that is not of the backend leaves a request unanswered. -/
theorem Unanswered.concat {es : List (GatewayEvent ρ)} {r r' : Request}
    (unanswered : Unanswered es r) {e : GatewayEvent ρ} (unsent : e.chunk? = none)
    (steady : e.isFailure = false) (unreplied : e.reply? = none)
    (same : r'.delivered = r.delivered) : Unanswered (es ++ [e]) r' := by
  refine ⟨?_, ?_, ?_, same.trans unanswered.empty⟩
  · simp [unanswered.unsent, unsent]
  · simp [unanswered.steady, steady]
  · simp [unanswered.unreplied, unreplied]

/-- How a request stands after a stretch of `gate`. -/
theorem course_settled {es : List (GatewayEvent ρ)} {r : Request} {b : BackendInfo}
    {session : SessionContext} {tier : Tier} {caller : Caller} {ticket : Option Ticket}
    (unanswered : Unanswered es r) (bound : r.backend = some b)
    (at_gate : ticket = some ⟨session, tier, caller⟩) (kept : caller ≠ .released) :
    Course ticket es (settled r b caller) (settled r b caller).stage := by
  have same : ∀ {r' : Request}, r'.delivered = r.delivered → Unanswered es r' := fun delivered =>
    ⟨unanswered.unsent, unanswered.steady, unanswered.unreplied,
      delivered.trans unanswered.empty⟩
  cases caller with
  | inside start interrupted => exact same rfl
  | raised error =>
      cases error with
      | exception e => exact ⟨same rfl, .inr ⟨_, _, at_gate⟩⟩
      | keyError t => exact ⟨same rfl, .inl ⟨_, _, _, at_gate⟩⟩
      | cancelled => exact unanswered.steady
  | released => exact absurd rfl kept
  | holding wait =>
      have admitted : Admitted ticket := ⟨_, at_gate, rfl⟩
      obtain ⟨payload, stage, after, ways⟩ := afterGate_cases r b
      rw [← Request.forwardable_iff bound] at ways
      simp only [settled, after]
      rcases ways with ⟨rfl, unready⟩ | ⟨rfl, ready, stream⟩ | ⟨rfl, ready, call⟩
      · exact ⟨same rfl, .inr ⟨admitted, unready⟩⟩
      · exact ⟨same rfl, ⟨admitted, ready⟩, stream⟩
      · exact ⟨same rfl, ⟨admitted, ready⟩, by simpa using call⟩

section Reactions

variable {k : ρ} {es : List (GatewayEvent ρ)} {r : Request} {e : GatewayEvent ρ} {stage : Stage}
  {chunks : List (List UInt8)} {before after : Option Ticket}

theorem Forwarded.keep (forwarded : Forwarded before r) (kept : Admitted before → Admitted after) :
    Forwarded after { r with stage, delivered := r.delivered ++ chunks } :=
  ⟨kept forwarded.admitted, forwarded.ready⟩

/-- A stream goes on with what it hands out. -/
theorem Streamed.concat (streamed : Streamed before es r) (kept : Admitted before → Admitted after)
    (unreplied : e.reply? = none)
    (delivered : r.delivered ++ chunks =
      sent (es ++ [e]) ++ if failed (es ++ [e]) then [doneEvent] else []) :
    Streamed after (es ++ [e]) { r with stage, delivered := r.delivered ++ chunks } :=
  ⟨streamed.forwarded.keep kept, streamed.stream, by simp [streamed.unreplied, unreplied],
    delivered⟩

/-- A stream goes on with an event that is not of its backend. -/
theorem Streamed.pass (streamed : Streamed before es r) (kept : Admitted before → Admitted after)
    (unsent : e.chunk? = none) (steady : e.isFailure = false) (unreplied : e.reply? = none) :
    Streamed after (es ++ [e]) { r with stage, delivered := r.delivered ++ [] } :=
  streamed.concat kept unreplied (by simp [unsent, steady, streamed.delivered])

/-- A stream begins. -/
theorem Unanswered.streamed (unanswered : Unanswered es r) (forwarded : Forwarded before r)
    (stream : r.input.stream = true) : Streamed before es r :=
  ⟨forwarded, stream, unanswered.unreplied, by
    simp [unanswered.empty, unanswered.unsent, unanswered.steady]⟩

/-- What is counted for a request after a stretch of `gate`. -/
theorem counted_settled (r : Request) (b : BackendInfo) (caller : Caller) (failed : Bool) :
    (settled r b caller).counted failed = callerLabels caller := by
  cases caller with
  | raised error => cases error <;> rfl
  | holding wait =>
      obtain ⟨payload, stage, same, ways⟩ := afterGate_cases r b
      simp only [settled, same]
      rcases ways with ⟨rfl, _⟩ | ⟨rfl, _⟩ | ⟨rfl, _⟩ <;> rfl
  | _ => rfl

/-- How a request stands after its code has reacted to an event. -/
theorem course_of_reacts {labels : List RequestLabels} (course : Course before es r r.stage)
    (reacts : Reacts k r e stage chunks labels) (kept : Admitted before → Admitted after) :
    Course after (es ++ [e]) { r with stage, delivered := r.delivered ++ chunks } stage := by
  cases reacts with
  | start at_stage =>
      rw [at_stage] at course
      obtain ⟨unanswered, forwarded, stream⟩ := course
      exact ⟨(unanswered.streamed forwarded stream).pass kept rfl rfl rfl,
        by simp [unanswered.steady, GatewayEvent.isFailure]⟩
  | next at_stage =>
      rw [at_stage] at course
      exact ⟨course.1.pass kept rfl rfl rfl, by simp [course.2, GatewayEvent.isFailure]⟩
  | done at_stage =>
      rw [at_stage] at course
      exact course.1.pass kept rfl rfl rfl
  | abandon at_stage =>
      rw [at_stage] at course
      obtain ⟨unanswered, forwarded, stream⟩ := course
      exact (unanswered.streamed forwarded stream).pass kept rfl rfl rfl
  | letGo at_stage =>
      rcases at_stage with at_stage | at_stage
      · rw [at_stage] at course
        exact course.1.pass kept rfl rfl rfl
      · rw [at_stage] at course
        exact course.1.pass kept rfl rfl rfl
  | closed at_stage =>
      rw [at_stage] at course
      exact course.pass kept rfl rfl rfl
  | deliver at_stage =>
      rw [at_stage] at course
      obtain ⟨streamed, steady⟩ := course
      refine ⟨streamed.concat kept rfl ?_, by simp [steady, GatewayEvent.isFailure]⟩
      simp [streamed.delivered, steady, chunk?, GatewayEvent.isFailure]
  | streamed at_stage =>
      rw [at_stage] at course
      exact course.1.pass kept rfl rfl rfl
  | fail at_stage =>
      rw [at_stage] at course
      obtain ⟨streamed, steady⟩ := course
      refine ⟨streamed.concat kept rfl ?_, by simp [GatewayEvent.isFailure]⟩
      simp [streamed.delivered, steady, chunk?, GatewayEvent.isFailure]
  | failed at_stage =>
      rw [at_stage] at course
      obtain ⟨unanswered, forwarded, call⟩ := course
      refine ⟨forwarded.keep kept, call, .inl ⟨by simp [GatewayEvent.isFailure], ?_⟩⟩
      simp [unanswered.unreplied, reply?]
  | replied at_stage bound rendered =>
      rw [at_stage] at course
      obtain ⟨unanswered, forwarded, call⟩ := course
      refine ⟨forwarded.keep kept, call, by simp [unanswered.steady, GatewayEvent.isFailure], ?_⟩
      intro result replied
      simp only [replies_concat, unanswered.unreplied, reply?, Option.toList_some, List.nil_append,
        List.mem_singleton] at replied
      subst replied
      have reads : r.Reads result := (Request.reads_iff bound result).mpr (by rw [rendered]; rfl)
      exact reads
  | @unreadable b result now at_stage bound raised =>
      rw [at_stage] at course
      obtain ⟨unanswered, forwarded, call⟩ := course
      refine ⟨forwarded.keep kept, call,
        .inr ⟨by simp [unanswered.steady, GatewayEvent.isFailure], result, ?_, ?_⟩⟩
      · simp [unanswered.unreplied, reply?]
      · intro reads
        have rendered := (Request.reads_iff (r := r) bound result).mp reads
        rw [raised] at rendered
        cases rendered
  | cancelled at_stage =>
      rcases at_stage with at_stage | at_stage
      · rw [at_stage] at course
        simpa [Course, GatewayEvent.isFailure] using course.2
      · rw [at_stage] at course
        simpa [Course, GatewayEvent.isFailure] using course.1.steady

/-- What is counted when its code has reacted to an event. -/
theorem counted_of_reacts {labels : List RequestLabels} (course : Course before es r r.stage)
    (reacts : Reacts k r e stage chunks labels) :
    r.counted (failed es) ++ labels =
      ({ r with stage, delivered := r.delivered ++ chunks } : Request).counted
        (failed (es ++ [e])) := by
  cases reacts with
  | start at_stage => simp [Request.counted, at_stage]
  | next at_stage => simp [Request.counted, at_stage]
  | done at_stage =>
      rw [at_stage] at course
      simp [Request.counted, at_stage, course.2, Request.labels]
  | abandon at_stage =>
      rw [at_stage] at course
      simp [Request.counted, at_stage, course.1.steady, GatewayEvent.isFailure]
  | letGo at_stage =>
      rcases at_stage with at_stage | at_stage
      · rw [at_stage] at course
        simp [Request.counted, at_stage, course.2, GatewayEvent.isFailure]
      · rw [at_stage] at course
        simp [Request.counted, at_stage, course.2, Request.labels]
  | closed at_stage => simp [Request.counted, at_stage, GatewayEvent.isFailure, Request.labels]
  | deliver at_stage => simp [Request.counted, at_stage]
  | streamed at_stage =>
      rw [at_stage] at course
      simp [Request.counted, at_stage, course.2, GatewayEvent.isFailure, Request.labels]
  | fail at_stage => simp [Request.counted, at_stage, GatewayEvent.isFailure, Request.labels]
  | failed at_stage => simp [Request.counted, at_stage, GatewayEvent.isFailure, Request.labels]
  | replied at_stage => simp [Request.counted, at_stage, Request.labels]
  | unreadable at_stage =>
      rw [at_stage] at course
      simp [Request.counted, at_stage, course.1.steady, GatewayEvent.isFailure, Request.labels]
  | cancelled at_stage =>
      rcases at_stage with at_stage | at_stage
      · simp [Request.counted, at_stage]
      · simp [Request.counted, at_stage]

/-- Where a request stands whose backend failed: a stream has handed out its last event, and a call
is over. -/
theorem stage_of_failed (course : Course before es r r.stage) (failed : failed es = true) :
    (Streamed before es r ∧ (r.stage = .doneYielded ∨ r.stage = .closing ∨
      r.stage = .over .dropped ∨ r.stage = .over .streamed)) ∨
        (r.input.stream = false ∧ r.stage = .over .upstreamError) := by
  have steady : ¬ GatewayEvent.failed es = false := by simp [failed]
  generalize r.stage = stage at course ⊢
  cases stage with
  | waiting => exact absurd course.steady steady
  | pendingBody => exact absurd course.1.steady steady
  | awaiting => exact absurd course.2 steady
  | yielded => exact absurd course.2 steady
  | doneYielded => exact .inl ⟨course.1, .inl rfl⟩
  | closing => exact .inl ⟨course, .inr (.inl rfl)⟩
  | completing => exact absurd course.1.steady steady
  | _ =>
      rename_i exit
      cases exit with
      | rejected e => exact absurd course.1.steady steady
      | failed => exact absurd course.1.steady steady
      | completed => exact absurd course.2.2.1 steady
      | upstreamError => exact .inr ⟨course.2.1, rfl⟩
      | streamed => exact .inl ⟨course, .inr (.inr (.inr rfl))⟩
      | dropped => exact .inl ⟨course, .inr (.inr (.inl rfl))⟩
      | cancelled => exact absurd course steady

end Reactions

/-! ## Runs -/

variable [DecidableEq ρ]

/-- A run that was evaluated, and a request of it. -/
theorem request_of_eval {α : Type} {config : GatewayConfig} {events : List (GatewayEvent ρ)} {k : ρ}
    {f : Request → α} {a : α}
    (evaluated :
      ((run step (new config) events).bind fun g => (g.requests.get? k).map f) = some a) :
    ∃ g r, run step (new config) events = some g ∧ g.requests.get? k = some r ∧ f r = a := by
  obtain ⟨g, ran, asked⟩ := Option.bind_eq_some_iff.mp evaluated
  obtain ⟨r, found, same⟩ := Option.map_eq_some_iff.mp asked
  exact ⟨g, r, ran, found, same⟩

/-- What was counted in the steps of a request. -/
def countedFor (config : GatewayConfig) (k : ρ) (events : List (GatewayEvent ρ)) :
    List RequestLabels :=
  collect step
    (fun g e h => if e.request? = some k then h.requestsTotal.drop g.requestsTotal.length else [])
    (new config) events

/-- What is known of a request from its events. -/
structure Accounted (config : GatewayConfig) (k : ρ) (past : List (GatewayEvent ρ))
    (g : Gateway ρ) : Prop where
  carried : g.Carried
  fresh : g.requests.get? k = none → ownEvents k past = [] ∧ countedFor config k past = []
  course : ∀ r, g.requests.get? k = some r →
    Course (g.admission.tickets.get? k) (ownEvents k past) r r.stage
  counted : ∀ r, g.requests.get? k = some r →
    countedFor config k past = r.counted (failed (ownEvents k past))

/-- A step of a request is one of its events. -/
theorem request?_of_actor {g : Gateway ρ} {e : GatewayEvent ρ} {k : ρ} {sid : String}
    (acts : g.actor e = some (k, sid)) : e.request? = some k := by
  cases e with
  | arrive =>
      cases acts
      rfl
  | markStatus => cases acts
  | _ =>
      obtain ⟨r, _, same⟩ := Option.map_eq_some_iff.mp acts
      cases same
      rfl

/-- A request that has its slot keeps its place. -/
theorem admitted_step {g h : Gateway ρ} {e : GatewayEvent ρ} {k : ρ} (carried : g.Carried)
    (stepped : g.step e = some h) (admitted : Admitted (g.admission.tickets.get? k)) :
    Admitted (h.admission.tickets.get? k) := by
  obtain ⟨x, ticket, got⟩ := admitted
  by_contra lost
  have unadmitted : h.admission.Unadmitted k := by
    intro y found
    by_contra also
    exact lost ⟨y, found, by simpa using also⟩
  rcases openStep_of_does carried.linked (does_of_step stepped) with same | ⟨a, inside, _⟩
  · rw [← same] at ticket
    simp [unadmitted x ticket] at got
  · have before := AdmissionSystem.unadmitted_of_step carried.sound inside unadmitted x ticket
    simp [before] at got

/-- How a request stands after a step of its own. -/
theorem course_of_ownStep {g h : Gateway ρ} {e : GatewayEvent ρ} {k : ρ}
    {es : List (GatewayEvent ρ)} (linked : g.Linked) (fresh : g.requests.get? k = none → es = [])
    (course : ∀ r, g.requests.get? k = some r →
      Course (g.admission.tickets.get? k) es r r.stage)
    (kept : Admitted (g.admission.tickets.get? k) → Admitted (h.admission.tickets.get? k))
    {r : Request} {labels : List RequestLabels} (own : OwnStep g h k e r labels) :
    Course (h.admission.tickets.get? k) (es ++ [e]) r r.stage := by
  cases own with
  | refused absent untouched =>
      rw [fresh absent]
      refine ⟨⟨rfl, rfl, rfl, rfl⟩, .inl ?_⟩
      rw [untouched]
      exact linked.ticket_of_fresh absent
  | arrived absent ticket kept =>
      rw [fresh absent]
      exact course_settled ⟨rfl, rfl, rfl, rfl⟩ rfl ticket kept
  | interrupted found waiting ticket =>
      have before := course r found
      rw [waiting] at before ⊢
      exact before.concat rfl rfl rfl rfl
  | resumed found waiting bound ticket kept =>
      have before := course _ found
      rw [waiting] at before
      exact course_settled (before.concat rfl rfl rfl rfl) bound ticket kept
  | reacts found reacts => exact course_of_reacts (course _ found) reacts kept

/-- What is counted for a request after a step of its own. -/
theorem counted_of_ownStep {g h : Gateway ρ} {e : GatewayEvent ρ} {k : ρ}
    {es : List (GatewayEvent ρ)} {before : List RequestLabels}
    (fresh : g.requests.get? k = none → before = [])
    (course : ∀ r, g.requests.get? k = some r →
      Course (g.admission.tickets.get? k) es r r.stage)
    (counted : ∀ r, g.requests.get? k = some r → before = r.counted (failed es))
    {r : Request} {labels : List RequestLabels} (own : OwnStep g h k e r labels) :
    before ++ labels = r.counted (failed (es ++ [e])) := by
  cases own with
  | refused absent untouched =>
      rw [fresh absent]
      rfl
  | arrived absent ticket kept =>
      rw [fresh absent, counted_settled]
      rfl
  | interrupted found waiting ticket =>
      rw [counted r found]
      simp [Request.counted, waiting]
  | @resumed _ q _ _ _ _ found waiting bound ticket kept =>
      rw [counted q found, counted_settled]
      simp [Request.counted, waiting]
  | reacts found reacts =>
      rw [counted _ found]
      exact counted_of_reacts (course _ found) reacts

/-- Step lemma: the events of a request still tell how it stands. -/
theorem accounted_step {config : GatewayConfig} {k : ρ} {past : List (GatewayEvent ρ)}
    {g h : Gateway ρ} {e : GatewayEvent ρ} (ran : run step (new config) past = some g)
    (accounted : Accounted config k past g) (stepped : g.step e = some h) :
    Accounted config k (past ++ [e]) h := by
  have carried := carried_step accounted.carried stepped
  by_cases own : e.request? = some k
  · obtain ⟨r, labels, step, found, total⟩ := ownStep_of_step stepped own
    have counted : countedFor config k (past ++ [e]) = countedFor config k past ++ labels := by
      rw [countedFor, collect_concat ran stepped, if_pos own, total, List.drop_left]
      rfl
    refine ⟨carried, fun absent => ?_, fun q found' => ?_, fun q found' => ?_⟩
    · cases absent.symm.trans found
    · cases found.symm.trans found'
      rw [ownEvents_concat_own own]
      exact course_of_ownStep accounted.carried.linked (fun absent => (accounted.fresh absent).1)
        accounted.course (admitted_step accounted.carried stepped) step
    · cases found.symm.trans found'
      rw [ownEvents_concat_own own, counted]
      exact counted_of_ownStep (fun absent => (accounted.fresh absent).2) accounted.course
        accounted.counted step
  · have other : ∀ sid, g.actor e ≠ some (k, sid) := fun sid acts => own (request?_of_actor acts)
    obtain ⟨requests, tickets, _⟩ :=
      frame_of_does accounted.carried.linked (does_of_step stepped) other
    have counted : countedFor config k (past ++ [e]) = countedFor config k past := by
      rw [countedFor, collect_concat ran stepped, if_neg own, List.append_nil]
      rfl
    refine ⟨carried, ?_, ?_, ?_⟩
    · rw [requests, ownEvents_concat_other own, counted]
      exact accounted.fresh
    · rw [requests, tickets, ownEvents_concat_other own]
      exact accounted.course
    · rw [requests, ownEvents_concat_other own, counted]
      exact accounted.counted

/-- **The events of a request tell how it stands,** at the end of every run. -/
theorem accounted_run {config : GatewayConfig} {events : List (GatewayEvent ρ)} {g : Gateway ρ}
    (ran : run step (new config) events = some g) (k : ρ) : Accounted config k events g := by
  refine past_invariant_of_run (P := Accounted config k)
    (fun _ _ _ _ ran accounted stepped => accounted_step ran accounted stepped) ?_ ran
  refine ⟨⟨?_, AdmissionSystem.sound_new _ _ _⟩, fun _ => ⟨rfl, rfl⟩, ?_, ?_⟩
  · intro j x ticket
    cases ticket
  · intro r found
    cases found
  · intro r found
    cases found

end Gateway

end AgentServe
