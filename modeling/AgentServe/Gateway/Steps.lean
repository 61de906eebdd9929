import AgentServe.Gateway.Chat

/-!
# What a step of the gateway does

The cases of a step, once and for all (`Does`): a request is refused before it
gets to `gate`, goes through a stretch of `gate`, moves between the stages of its
answer, or ends and releases its slot. Every invariant of the gateway is a case
analysis over them. In the code that answers a request they are reactions to the
server and to the backend, told to the last chunk and label (`Reacts`,
`reaction_of_step`).

A step is at most one step of the admission system, by the same request
(`admission_of_does`), and it touches no other request (`frame_of_does`). A request
keeps what was selected for it (`selection_of_does`), and it reaches `gate` with
it (`linked_of_does`).
-/

set_option autoImplicit false

namespace AgentServe

open Lib

namespace Request

/-- The labels of a request that was forwarded. -/
def labels (r : Request) (outcome : RequestOutcome) : RequestLabels :=
  ⟨r.decision.tier.value, r.decision.backendId, outcome⟩

end Request

/-- The labels of an exception of the gateway, whichever it is. -/
def rejectionLabels : RequestLabels := ⟨"unknown", "none", .budgetRejected⟩

/-- What is counted when a stretch of `gate` is over. -/
def callerLabels : Caller → List RequestLabels
  | .raised (.exception _) => [rejectionLabels]
  | _ => []

/-- The event is for the code that answers a request that got through `gate`. -/
def GatewayEvent.isAnswering {ρ : Type} : GatewayEvent ρ → Bool
  | .arrive .. | .interrupt .. | .resume .. | .markStatus .. => false
  | _ => true

namespace Gateway

variable {ρ : Type}

/-- The moves of a request that leave its slot alone. -/
inductive StageMove (k : ρ) : GatewayEvent ρ → Stage → Stage → Prop where
  | start : StageMove k (.advance k) .pendingBody .awaiting
  | next : StageMove k (.advance k) .yielded .awaiting
  | deliver {bytes : List UInt8} : StageMove k (.chunk k bytes) .awaiting .yielded
  | fail : StageMove k (.upstreamFails k) .awaiting .doneYielded
  | abandon : StageMove k (.drop k) .pendingBody (.over .dropped)
  | letGo : StageMove k (.drop k) .yielded .closing
  | letGoDone : StageMove k (.drop k) .doneYielded .closing

/-- The ends of a request that release its slot. -/
inductive StageEnd (k : ρ) : GatewayEvent ρ → Stage → Exit → Prop where
  | done : StageEnd k (.advance k) .doneYielded .streamed
  | closed : StageEnd k (.aclose k) .closing .dropped
  | streamed : StageEnd k (.upstreamEnds k) .awaiting .streamed
  | failed : StageEnd k (.upstreamFails k) .completing .upstreamError
  | replied {result answer : Json} {now : Time} :
      StageEnd k (.reply k result now) .completing (.completed now answer)
  | unreadable {result : Json} {now : Time} :
      StageEnd k (.reply k result now) .completing .upstreamError
  | streamCancelled : StageEnd k (.cancel k) .awaiting .cancelled
  | callCancelled : StageEnd k (.cancel k) .completing .cancelled

/-- How the code that answers a request reacts to an event: the stage it goes to, what it hands
out, and what it counts. -/
inductive Reacts (k : ρ) (r : Request) :
    GatewayEvent ρ → Stage → List (List UInt8) → List RequestLabels → Prop where
  | start (stage : r.stage = .pendingBody) : Reacts k r (.advance k) .awaiting [] []
  | next (stage : r.stage = .yielded) : Reacts k r (.advance k) .awaiting [] []
  | done (stage : r.stage = .doneYielded) : Reacts k r (.advance k) (.over .streamed) [] []
  | abandon (stage : r.stage = .pendingBody) : Reacts k r (.drop k) (.over .dropped) [] []
  | letGo (stage : r.stage = .yielded ∨ r.stage = .doneYielded) :
      Reacts k r (.drop k) .closing [] []
  | closed (stage : r.stage = .closing) : Reacts k r (.aclose k) (.over .dropped) [] []
  | deliver {bytes : List UInt8} (stage : r.stage = .awaiting) :
      Reacts k r (.chunk k bytes) .yielded [bytes] []
  | streamed (stage : r.stage = .awaiting) :
      Reacts k r (.upstreamEnds k) (.over .streamed) [] [r.labels .success]
  | fail (stage : r.stage = .awaiting) :
      Reacts k r (.upstreamFails k) .doneYielded [doneEvent] [r.labels .upstreamError]
  | failed (stage : r.stage = .completing) :
      Reacts k r (.upstreamFails k) (.over .upstreamError) [] [r.labels .upstreamError]
  | replied {b : BackendInfo} {result answer : Json} {now : Time} (stage : r.stage = .completing)
      (bound : r.backend = some b)
      (rendered : renderReply result (r.agentServeMeta b) = some answer) :
      Reacts k r (.reply k result now) (.over (.completed now answer)) [] [r.labels .success]
  | unreadable {b : BackendInfo} {result : Json} {now : Time} (stage : r.stage = .completing)
      (bound : r.backend = some b)
      (raised : renderReply result (r.agentServeMeta b) = none) :
      Reacts k r (.reply k result now) (.over .upstreamError) []
        [r.labels .success, r.labels .upstreamError]
  | cancelled (stage : r.stage = .awaiting ∨ r.stage = .completing) :
      Reacts k r (.cancel k) (.over .cancelled) [] []

theorem StageMove.running {k : ρ} {e : GatewayEvent ρ} {r : Request} {target : Stage}
    (move : StageMove k e r.stage target) : r.isOver = false := by
  unfold Request.isOver
  generalize r.stage = source at move
  cases move <;> rfl

theorem StageEnd.running {k : ρ} {e : GatewayEvent ρ} {r : Request} {exit : Exit}
    (ends : StageEnd k e r.stage exit) : r.isOver = false := by
  unfold Request.isOver
  generalize r.stage = source at ends
  cases ends <;> rfl

theorem StageMove.of_advance {j k : ρ} {source target : Stage}
    (move : StageMove j (.advance k) source target) : j = k := by
  cases move <;> rfl

theorem StageEnd.of_advance {j k : ρ} {source : Stage} {exit : Exit}
    (ends : StageEnd j (.advance k) source exit) : j = k := by
  cases ends
  rfl

/-- A request after a stretch of `gate`, by where the stretch left it. -/
def settled (r : Request) (b : BackendInfo) : Caller → Request
  | .inside _ _ => { r with stage := .waiting }
  | .holding _ => r.afterGate b
  | .raised (.exception e) => { r with stage := .over (.rejected e) }
  | .raised (.keyError _) => { r with stage := .over .failed }
  | .raised .cancelled => { r with stage := .over .cancelled }
  | .released => { r with stage := .over .cancelled }

variable [DecidableEq ρ]

/-- What a step does: the cases of `step` in which it fires. -/
inductive Does (g : Gateway ρ) : GatewayEvent ρ → Gateway ρ → Prop where
  | refused {k : ρ} {input : ChatInput} {decision : RoutingDecision} {now made : Time}
      {clock : GateClock} {affinity : AffinityScheduler} {e : GatewayException}
      {total : List RequestLabels}
      (fresh : g.requests.get? k = none)
      (raised : g.affinity.selectBackend (buildSession input) decision.tier
        (g.registry.getHealthyBackends decision.tier) now made = (affinity, .error e)) :
      Does g (.arrive k input decision now made clock)
        { g with
          affinity
          requests := g.requests.set k
            { input, session := buildSession input, decision, stage := .over (.rejected e) }
          requestsTotal := total }
  | arrived {k : ρ} {input : ChatInput} {decision : RoutingDecision} {now made : Time}
      {clock : GateClock} {affinity : AffinityScheduler} {b : BackendInfo} {hit : Bool}
      {admission : AdmissionSystem ρ} {caller : Caller} {total : List RequestLabels}
      (fresh : g.requests.get? k = none)
      (selected : g.affinity.selectBackend (buildSession input) decision.tier
        (g.registry.getHealthyBackends decision.tier) now made = (affinity, .ok (b, hit)))
      (gated : g.admission.step (.gate k (buildSession input) decision.tier
        (estimatedTokens input) clock) = some admission)
      (tickets : admission.tickets =
        g.admission.tickets.set k ⟨buildSession input, decision.tier, caller⟩)
      (kept : caller ≠ .released) :
      Does g (.arrive k input decision now made clock)
        { g with
          affinity
          admission
          requests := g.requests.set k (settled
            { input, session := buildSession input, backend := some b,
              decision := { decision with backendId := b.id, affinityHit := hit } } b caller)
          requestsTotal := total }
  | interrupted {k : ρ} {i : Interrupt} {r : Request} {admission : AdmissionSystem ρ}
      {session : SessionContext} {tier : Tier} {start : Time} {before after : Option Interrupt}
      (found : g.requests.get? k = some r) (waiting : r.stage = .waiting)
      (inside : g.admission.tickets.get? k = some ⟨session, tier, .inside start before⟩)
      (interrupted : g.admission.step (.interrupt k i) = some admission)
      (tickets : admission.tickets =
        g.admission.tickets.set k ⟨session, tier, .inside start after⟩) :
      Does g (.interrupt k i) { g with admission }
  | resumed {k : ρ} {finish : Time} {r : Request} {b : BackendInfo}
      {admission : AdmissionSystem ρ} {session : SessionContext} {tier : Tier} {start : Time}
      {interrupted : Option Interrupt} {caller : Caller} {total : List RequestLabels}
      (found : g.requests.get? k = some r) (waiting : r.stage = .waiting)
      (bound : r.backend = some b)
      (inside : g.admission.tickets.get? k = some ⟨session, tier, .inside start interrupted⟩)
      (resumed : g.admission.step (.resume k finish) = some admission)
      (tickets : admission.tickets = g.admission.tickets.set k ⟨session, tier, caller⟩)
      (kept : caller ≠ .released) :
      Does g (.resume k finish)
        { g with
          admission
          requests := g.requests.set k (settled r b caller)
          requestsTotal := total }
  | moved {e : GatewayEvent ρ} {k : ρ} {r : Request} {stage : Stage}
      {delivered : List (List UInt8)} {total : List RequestLabels}
      (found : g.requests.get? k = some r) (move : StageMove k e r.stage stage) :
      Does g e
        { g with
          requests := g.requests.set k { r with stage, delivered }
          requestsTotal := total }
  | ended {e : GatewayEvent ρ} {k : ρ} {r : Request} {exit : Exit} {session : SessionContext}
      {tier : Tier} {wait : Time} {admission : AdmissionSystem ρ} {total : List RequestLabels}
      (found : g.requests.get? k = some r) (ends : StageEnd k e r.stage exit)
      (holds : g.admission.tickets.get? k = some ⟨session, tier, .holding wait⟩)
      (released : g.admission.step (.release k) = some admission)
      (tickets : admission.tickets = g.admission.tickets.set k ⟨session, tier, .released⟩) :
      Does g e
        { g with
          admission
          requests := g.requests.set k { r with stage := .over exit }
          requestsTotal := total
          givenBack := g.givenBack ++
            (g.admission.controller.held.get? session.sessionId).toList.map fun t => (k, t) }
  | status {backendId : String} {status : BackendStatus} {admission : AdmissionSystem ρ}
      (marked : g.admission.step (.markStatus backendId status) = some admission)
      (tickets : admission.tickets = g.admission.tickets) :
      Does g (.markStatus backendId status) { g with admission }

/-- Going on after a stretch of `gate`. -/
theorem settle_exact (g : Gateway ρ) (k : ρ) (r : Request) (b : BackendInfo) (caller : Caller) :
    g.settle k r b caller =
      { g with
        requests := g.requests.set k (settled r b caller)
        requestsTotal := g.requestsTotal ++ callerLabels caller } := by
  cases caller with
  | inside start interrupted => simp [settle, settled, callerLabels, setStage, setRequest]
  | holding wait => simp [settle, settled, callerLabels, setRequest]
  | raised error =>
      cases error with
      | exception e => rfl
      | keyError tier => simp [settle, settled, callerLabels, setStage, setRequest]
      | cancelled => simp [settle, settled, callerLabels, setStage, setRequest]
  | released => simp [settle, settled, callerLabels, setStage, setRequest]

/-- What an event does in the code that answers a request: the request goes on to another stage, or
it ends and gives its slot back. -/
inductive Reaction (g : Gateway ρ) : GatewayEvent ρ → Gateway ρ → Prop where
  | moved {e : GatewayEvent ρ} {k : ρ} {r : Request} {stage : Stage}
      {chunks : List (List UInt8)} {labels : List RequestLabels}
      (found : g.requests.get? k = some r) (reacts : Reacts k r e stage chunks labels)
      (move : StageMove k e r.stage stage) :
      Reaction g e
        { g with
          requests := g.requests.set k { r with stage, delivered := r.delivered ++ chunks }
          requestsTotal := g.requestsTotal ++ labels }
  | ended {h : Gateway ρ} {e : GatewayEvent ρ} {k : ρ} {r : Request} {exit : Exit}
      {labels : List RequestLabels} (found : g.requests.get? k = some r)
      (reacts : Reacts k r e (.over exit) [] labels) (ends : StageEnd k e r.stage exit)
      (finished :
        ({ g with requestsTotal := g.requestsTotal ++ labels } : Gateway ρ).finish k r exit =
          some h) :
      Reaction g e h

/-- A reaction that hands nothing out and counts nothing. -/
theorem reaction_of_setStage {g : Gateway ρ} {k : ρ} {e : GatewayEvent ρ} {r : Request}
    {stage : Stage} (found : g.requests.get? k = some r) (reacts : Reacts k r e stage [] [])
    (move : StageMove k e r.stage stage) : Reaction g e (g.setStage k r stage) := by
  have moved := Reaction.moved found reacts move
  rwa [List.append_nil, List.append_nil] at moved

/-- A reaction that ends the request, after it was counted. -/
theorem reaction_of_finish {g h m : Gateway ρ} {k : ρ} {e : GatewayEvent ρ} {r : Request}
    {exit : Exit} {labels : List RequestLabels} (found : g.requests.get? k = some r)
    (reacts : Reacts k r e (.over exit) [] labels) (ends : StageEnd k e r.stage exit)
    (counted : m = { g with requestsTotal := g.requestsTotal ++ labels })
    (finished : m.finish k r exit = some h) : Reaction g e h := by
  subst counted
  exact .ended found reacts ends finished

/-- Step lemma: a step of the code that answers a request is a reaction. -/
theorem reaction_of_step {g h : Gateway ρ} {e : GatewayEvent ρ} (stepped : g.step e = some h)
    (answering : e.isAnswering = true) : Reaction g e h := by
  have uncounted : g = { g with requestsTotal := g.requestsTotal ++ [] } := by
    rw [List.append_nil]
  cases e with
  | advance k =>
      obtain ⟨r, found, rest⟩ := Option.bind_eq_some_iff.mp stepped
      simp only [advance] at rest
      split at rest
      · rename_i stage
        cases rest
        exact reaction_of_setStage found (.start stage) (stage ▸ .start)
      · rename_i stage
        cases rest
        exact reaction_of_setStage found (.next stage) (stage ▸ .next)
      · rename_i stage
        exact reaction_of_finish found (.done stage) (stage ▸ .done) uncounted rest
      · cases rest
  | drop k =>
      obtain ⟨r, found, rest⟩ := Option.bind_eq_some_iff.mp stepped
      simp only [drop] at rest
      split at rest
      · rename_i stage
        cases rest
        exact reaction_of_setStage found (.abandon stage) (stage ▸ .abandon)
      · rename_i stage
        cases rest
        exact reaction_of_setStage found (.letGo (.inl stage)) (stage ▸ .letGo)
      · rename_i stage
        cases rest
        exact reaction_of_setStage found (.letGo (.inr stage)) (stage ▸ .letGoDone)
      · cases rest
  | aclose k =>
      obtain ⟨r, found, rest⟩ := Option.bind_eq_some_iff.mp stepped
      simp only [aclose] at rest
      split at rest
      · rename_i stage
        exact reaction_of_finish found (.closed stage) (stage ▸ .closed) uncounted rest
      · cases rest
  | chunk k bytes =>
      obtain ⟨r, found, rest⟩ := Option.bind_eq_some_iff.mp stepped
      simp only [chunk] at rest
      split at rest
      · rename_i stage
        cases rest
        have move : StageMove k (.chunk k bytes) r.stage .yielded := stage ▸ .deliver
        have delivered := Reaction.moved found (.deliver stage) move
        rwa [List.append_nil] at delivered
      · cases rest
  | upstreamEnds k =>
      obtain ⟨r, found, rest⟩ := Option.bind_eq_some_iff.mp stepped
      simp only [upstreamEnds] at rest
      split at rest
      · rename_i stage
        exact reaction_of_finish found (.streamed stage) (stage ▸ .streamed) rfl rest
      · cases rest
  | upstreamFails k =>
      obtain ⟨r, found, rest⟩ := Option.bind_eq_some_iff.mp stepped
      simp only [upstreamFails] at rest
      split at rest
      · rename_i stage
        cases rest
        exact .moved found (.fail stage) (stage ▸ .fail)
      · rename_i stage
        exact reaction_of_finish found (.failed stage) (stage ▸ .failed) rfl rest
      · cases rest
  | reply k result now =>
      obtain ⟨r, found, rest⟩ := Option.bind_eq_some_iff.mp stepped
      simp only [complete] at rest
      split at rest
      · rename_i stage bound
        split at rest
        · rename_i answer rendered
          exact reaction_of_finish found (.replied stage bound rendered) (stage ▸ .replied) rfl
            rest
        · rename_i raised
          have twice : (g.requestsTotal ++ [r.labels .success]) ++ [r.labels .upstreamError] =
              g.requestsTotal ++ [r.labels .success, r.labels .upstreamError] :=
            List.append_assoc ..
          refine reaction_of_finish found (.unreadable stage bound raised) (stage ▸ .unreadable)
            ?_ rest
          rw [← twice]
          rfl
      · cases rest
  | cancel k =>
      obtain ⟨r, found, rest⟩ := Option.bind_eq_some_iff.mp stepped
      simp only [cancel] at rest
      split at rest
      · rename_i stage
        exact reaction_of_finish found (.cancelled (.inl stage)) (stage ▸ .streamCancelled)
          uncounted rest
      · rename_i stage
        exact reaction_of_finish found (.cancelled (.inr stage)) (stage ▸ .callCancelled)
          uncounted rest
      · cases rest
  | _ => cases answering

/-- Releasing at the end of a request. -/
theorem does_finish {g h : Gateway ρ} {e : GatewayEvent ρ} {k : ρ} {r : Request} {exit : Exit}
    {total : List RequestLabels} (found : g.requests.get? k = some r)
    (ends : StageEnd k e r.stage exit)
    (finished : ({ g with requestsTotal := total } : Gateway ρ).finish k r exit = some h) :
    Does g e h := by
  obtain ⟨back, gave, rfl⟩ := Option.map_eq_some_iff.mp finished
  obtain ⟨x, ticket, rest⟩ := Option.bind_eq_some_iff.mp gave
  obtain ⟨admission, released, rest⟩ := Option.bind_eq_some_iff.mp rest
  cases rest
  have does : AdmissionSystem.Does g.admission (.release k) admission :=
    AdmissionSystem.does_of_step released
  cases does with
  | release holds =>
      obtain rfl := Option.some.inj (ticket.symm.trans holds)
      exact .ended found ends holds released rfl

theorem does_of_reaction {g h : Gateway ρ} {e : GatewayEvent ρ} (reaction : Reaction g e h) :
    Does g e h := by
  cases reaction with
  | moved found _ move => exact .moved found move
  | ended found _ ends finished => exact does_finish found ends finished

theorem does_of_step {g h : Gateway ρ} {e : GatewayEvent ρ} (stepped : g.step e = some h) :
    Does g e h := by
  cases e with
  | arrive k input decision now made clock =>
      simp only [step] at stepped
      split at stepped
      · rename_i fresh
        simp only [chatCompletions] at stepped
        split at stepped
        · rename_i raised
          cases stepped
          exact .refused fresh raised
        · rename_i selected
          obtain ⟨admission, gated, rest⟩ := Option.bind_eq_some_iff.mp stepped
          obtain ⟨x, ticket, went_on⟩ := Option.map_eq_some_iff.mp rest
          rw [settle_exact] at went_on
          cases went_on
          have does := AdmissionSystem.does_of_step gated
          cases does with
          | gate _ called =>
              cases (Dict.get?_set_self _ _ _).symm.trans ticket
              exact .arrived fresh selected gated rfl
                (AdmissionController.gate_ne_released called)
      · cases stepped
  | interrupt k i =>
      obtain ⟨r, found, rest⟩ := Option.bind_eq_some_iff.mp stepped
      simp only [interruptGate] at rest
      split at rest
      · rename_i waiting
        obtain ⟨admission, fired, rfl⟩ := Option.map_eq_some_iff.mp rest
        have does := AdmissionSystem.does_of_step fired
        cases does with
        | interrupt inside => exact .interrupted found waiting inside fired rfl
      · cases rest
  | resume k finish =>
      obtain ⟨r, found, rest⟩ := Option.bind_eq_some_iff.mp stepped
      simp only [resumeGate] at rest
      split at rest
      · rename_i waiting bound
        obtain ⟨admission, woke, rest⟩ := Option.bind_eq_some_iff.mp rest
        obtain ⟨x, ticket, went_on⟩ := Option.map_eq_some_iff.mp rest
        rw [settle_exact] at went_on
        cases went_on
        have does := AdmissionSystem.does_of_step woke
        cases does with
        | resume inside resumed =>
            cases (Dict.get?_set_self _ _ _).symm.trans ticket
            exact .resumed found waiting bound inside woke rfl
              (AdmissionController.resume_ne_released resumed)
      · cases rest
  | markStatus backendId status =>
      simp only [step] at stepped
      obtain ⟨admission, fired, rfl⟩ := Option.map_eq_some_iff.mp stepped
      have does := AdmissionSystem.does_of_step fired
      cases does with
      | markStatus => exact .status fired rfl
  | _ => exact does_of_reaction (reaction_of_step stepped rfl)

/-! ## Who takes a step -/

/-- The request a step is of, and its session. -/
def actor (g : Gateway ρ) : GatewayEvent ρ → Option (ρ × String)
  | .arrive k input _ _ _ _ => some (k, (buildSession input).sessionId)
  | .interrupt k _ | .resume k _ | .advance k | .drop k | .aclose k | .chunk k _
  | .upstreamEnds k | .upstreamFails k | .reply k _ _ | .cancel k =>
    (g.requests.get? k).map fun r => (k, r.session.sessionId)
  | .markStatus _ _ => none

theorem StageMove.actor {g : Gateway ρ} {e : GatewayEvent ρ} {k : ρ} {source target : Stage}
    (move : StageMove k e source target) :
    g.actor e = (g.requests.get? k).map fun r => (k, r.session.sessionId) := by
  cases move <;> rfl

theorem StageEnd.actor {g : Gateway ρ} {e : GatewayEvent ρ} {k : ρ} {source : Stage}
    {exit : Exit} (ends : StageEnd k e source exit) :
    g.actor e = (g.requests.get? k).map fun r => (k, r.session.sessionId) := by
  cases ends <;> rfl

/-- A step is of an arriving request with its session, or of a known one. -/
theorem actor_cases {g : Gateway ρ} {e : GatewayEvent ρ} {k : ρ} {sid : String}
    (acts : g.actor e = some (k, sid)) :
    (∃ input decision now made clock, e = .arrive k input decision now made clock ∧
      sid = (buildSession input).sessionId) ∨
      ∃ r, g.requests.get? k = some r ∧ sid = r.session.sessionId := by
  cases e with
  | arrive j input decision now made clock =>
      cases acts
      exact .inl ⟨_, _, _, _, _, rfl, rfl⟩
  | markStatus => cases acts
  | _ =>
      obtain ⟨r, found, same⟩ := Option.map_eq_some_iff.mp acts
      cases same
      exact .inr ⟨r, found, rfl⟩

theorem eq_of_actor {g : Gateway ρ} {e : GatewayEvent ρ} {j k : ρ} {r : Request} {sid : String}
    (acts : g.actor e = some (k, sid))
    (shape : g.actor e = (g.requests.get? j).map fun r => (j, r.session.sessionId))
    (found : g.requests.get? j = some r) : k = j := by
  simp only [shape, found, Option.map_some, Option.some.injEq, Prod.mk.injEq] at acts
  exact acts.1.symm

/-- A request is known after each of its steps. -/
theorem found_of_actor {g h : Gateway ρ} {e : GatewayEvent ρ} {k : ρ} {sid : String}
    (does : g.Does e h) (acts : g.actor e = some (k, sid)) :
    ∃ r, h.requests.get? k = some r := by
  cases does with
  | refused =>
      cases acts
      exact ⟨_, Dict.get?_set_self ..⟩
  | arrived =>
      cases acts
      exact ⟨_, Dict.get?_set_self ..⟩
  | interrupted found =>
      obtain rfl := eq_of_actor acts rfl found
      exact ⟨_, found⟩
  | resumed found =>
      obtain rfl := eq_of_actor acts rfl found
      exact ⟨_, Dict.get?_set_self ..⟩
  | moved found move =>
      obtain rfl := eq_of_actor acts move.actor found
      exact ⟨_, Dict.get?_set_self ..⟩
  | ended found ends =>
      obtain rfl := eq_of_actor acts ends.actor found
      exact ⟨_, Dict.get?_set_self ..⟩
  | status => cases acts

/-- A request that has reached `gate` is there with its own session, on the tier of its
backend. -/
def Linked (g : Gateway ρ) : Prop :=
  ∀ k x, g.admission.tickets.get? k = some x → ∃ r b, g.requests.get? k = some r ∧
    r.session = x.session ∧ r.backend = some b ∧ b.tier = x.tier

/-- A request that has not arrived has not reached `gate`. -/
theorem Linked.ticket_of_fresh {g : Gateway ρ} (linked : g.Linked) {k : ρ}
    (fresh : g.requests.get? k = none) : g.admission.tickets.get? k = none := by
  by_contra present
  obtain ⟨x, ticket⟩ := Option.ne_none_iff_exists'.mp present
  obtain ⟨_, _, found, _⟩ := linked k x ticket
  cases fresh.symm.trans found

/-- The tiers of the slots a request has given back. -/
def givenBackBy (g : Gateway ρ) (k : ρ) : List Tier :=
  g.givenBack.filterMap fun entry => if entry.1 = k then some entry.2 else none

theorem givenBackBy_append {g h : Gateway ρ} {j k : ρ} {tiers : List Tier}
    (grown : h.givenBack = g.givenBack ++ tiers.map fun t => (j, t)) :
    h.givenBackBy k = g.givenBackBy k ++ if j = k then tiers else [] := by
  rw [givenBackBy, grown, List.filterMap_append, List.filterMap_map]
  by_cases same : j = k
  · simp [givenBackBy, same]
  · simp [givenBackBy, same]

/-- The step of the admission system that an event can make. -/
inductive Carries : GatewayEvent ρ → AdmissionEvent ρ → Prop where
  | gate {k : ρ} {input : ChatInput} {decision : RoutingDecision} {now made : Time}
      {clock : GateClock} : Carries (.arrive k input decision now made clock)
        (.gate k (buildSession input) decision.tier (estimatedTokens input) clock)
  | interrupt {k : ρ} {i : Interrupt} : Carries (.interrupt k i) (.interrupt k i)
  | resume {k : ρ} {finish : Time} : Carries (.resume k finish) (.resume k finish)
  | release {e : GatewayEvent ρ} {k : ρ} : Carries e (.release k)
  | markStatus {backendId : String} {status : BackendStatus} :
      Carries (.markStatus backendId status) (.markStatus backendId status)

omit [DecidableEq ρ] in
theorem Carries.ne_debit {e : GatewayEvent ρ} {a : AdmissionEvent ρ} (carries : Carries e a)
    (agentId : String) (input output : ℤ) (now : Time) : a ≠ .debit agentId input output now := by
  cases carries <;> simp

/-- The step of the admission system that a step makes, if it makes one, is of the same
request. -/
theorem admission_of_does {g h : Gateway ρ} {e : GatewayEvent ρ} (linked : g.Linked)
    (does : g.Does e h) :
    h.admission = g.admission ∨
      ∃ a, g.admission.step a = some h.admission ∧ g.admission.actor a = g.actor e ∧
        Carries e a := by
  have same : ∀ k x, g.admission.tickets.get? k = some x →
      ((g.admission.tickets.get? k).map fun x => (k, x.session.sessionId)) =
        (g.requests.get? k).map fun r => (k, r.session.sessionId) := by
    intro k x ticket
    obtain ⟨r, _, found, session, _⟩ := linked k x ticket
    rw [ticket, found, Option.map_some, Option.map_some, session]
  cases does with
  | refused => exact .inl rfl
  | arrived fresh selected gated => exact .inr ⟨_, gated, rfl, .gate⟩
  | interrupted found waiting inside stepped =>
      exact .inr ⟨_, stepped, same _ _ inside, .interrupt⟩
  | resumed found waiting bound inside stepped =>
      exact .inr ⟨_, stepped, same _ _ inside, .resume⟩
  | moved => exact .inl rfl
  | ended found ends holds released =>
      exact .inr ⟨_, released, (same _ _ holds).trans ends.actor.symm, .release⟩
  | status marked => exact .inr ⟨_, marked, rfl, .markStatus⟩

/-- A step of one request leaves the records, the tickets and the returned slots of the
others. -/
theorem frame_of_does {g h : Gateway ρ} {e : GatewayEvent ρ} {k : ρ} (linked : g.Linked)
    (does : g.Does e h) (other : ∀ sid, g.actor e ≠ some (k, sid)) :
    h.requests.get? k = g.requests.get? k ∧
      h.admission.tickets.get? k = g.admission.tickets.get? k ∧
      h.givenBackBy k = g.givenBackBy k := by
  have tickets : h.admission.tickets.get? k = g.admission.tickets.get? k := by
    rcases admission_of_does linked does with same | ⟨a, stepped, actor, _⟩
    · rw [same]
    · exact AdmissionSystem.tickets_frame stepped fun sid => actor ▸ other sid
  have moved : ∀ {j r}, g.actor e = (g.requests.get? j).map (fun r => (j, r.session.sessionId)) →
      g.requests.get? j = some r → k ≠ j := by
    intro j r actor found same
    exact other r.session.sessionId (by rw [actor, found, same]; rfl)
  cases does with
  | refused fresh raised =>
      exact ⟨Dict.get?_set_of_ne _ _ fun same => other _ (by rw [same]; rfl), tickets, rfl⟩
  | arrived fresh selected gated =>
      exact ⟨Dict.get?_set_of_ne _ _ fun same => other _ (by rw [same]; rfl), tickets, rfl⟩
  | interrupted => exact ⟨rfl, tickets, rfl⟩
  | resumed found =>
      exact ⟨Dict.get?_set_of_ne _ _ (moved rfl found), tickets, rfl⟩
  | moved found move =>
      exact ⟨Dict.get?_set_of_ne _ _ (moved move.actor found), tickets, rfl⟩
  | ended found ends =>
      have differ := moved ends.actor found
      refine ⟨Dict.get?_set_of_ne _ _ differ, tickets, ?_⟩
      rw [givenBackBy_append rfl, if_neg fun same => differ same.symm, List.append_nil]
  | status => exact ⟨rfl, tickets, rfl⟩

/-- What an event writes to a registry: a status, if it marks one. -/
def written (r : BackendRegistry) : GatewayEvent ρ → BackendRegistry
  | .markStatus backendId status => r.markStatus backendId status
  | _ => r

omit [DecidableEq ρ] in
theorem StageMove.written {k : ρ} {e : GatewayEvent ρ} {source target : Stage}
    (move : StageMove k e source target) (r : BackendRegistry) : Gateway.written r e = r := by
  cases move <;> rfl

omit [DecidableEq ρ] in
theorem StageEnd.written {k : ρ} {e : GatewayEvent ρ} {source : Stage} {exit : Exit}
    (ends : StageEnd k e source exit) (r : BackendRegistry) : Gateway.written r e = r := by
  cases ends <;> rfl

/-- The registry changes with the statuses and with nothing else. -/
theorem registry_of_does {g h : Gateway ρ} {e : GatewayEvent ρ} (does : g.Does e h) :
    h.registry = written g.registry e := by
  cases does with
  | refused => rfl
  | arrived _ _ gated => exact AdmissionSystem.registry_step gated
  | interrupted _ _ _ interrupted => exact AdmissionSystem.registry_step interrupted
  | resumed _ _ _ _ resumed => exact AdmissionSystem.registry_step resumed
  | moved _ move => exact (move.written _).symm
  | ended _ ends _ released =>
      exact (AdmissionSystem.registry_step released).trans (ends.written _).symm
  | status marked => exact AdmissionSystem.registry_step marked

/-! ## Requests and their tickets -/

/-- How a request goes on with a slot: its response cannot be built, it waits for the server to ask
for a chunk, or it is sent to its backend. -/
theorem afterGate_cases (r : Request) (b : BackendInfo) :
    ∃ payload stage, r.afterGate b = { r with payload, stage } ∧
      (stage = .over .failed ∧ ¬ ((payloadFor r.input b).isSome = true ∧
          (r.input.stream = true → isLatin1 b.id = true)) ∨
        stage = .pendingBody ∧ ((payloadFor r.input b).isSome = true ∧
          (r.input.stream = true → isLatin1 b.id = true)) ∧ r.input.stream = true ∨
        stage = .completing ∧ ((payloadFor r.input b).isSome = true ∧
          (r.input.stream = true → isLatin1 b.id = true)) ∧ ¬ r.input.stream = true) := by
  unfold Request.afterGate
  cases present : payloadFor r.input b with
  | none => exact ⟨_, _, rfl, .inl ⟨rfl, fun ready => by cases ready.1⟩⟩
  | some payload =>
      by_cases stream : r.input.stream = true
      · by_cases latin1 : isLatin1 b.id = true
        · simp only [stream, latin1, if_true]
          exact ⟨_, _, rfl, .inr (.inl ⟨rfl, ⟨rfl, fun _ => trivial⟩, trivial⟩)⟩
        · simp only [stream, latin1, if_true]
          exact ⟨_, _, rfl, .inl ⟨rfl, fun ready => by cases ready.2 trivial⟩⟩
      · simp only [stream]
        exact ⟨_, _, rfl, .inr (.inr ⟨rfl, ⟨rfl, nofun⟩, nofun⟩)⟩

/-- A stretch of `gate` changes nothing of a request but its payload and its stage. -/
theorem settled_eq (r : Request) (b : BackendInfo) (caller : Caller) :
    ∃ payload stage, settled r b caller = { r with payload, stage } := by
  cases caller with
  | inside start interrupted => exact ⟨_, _, rfl⟩
  | holding wait =>
      obtain ⟨payload, stage, same, _⟩ := afterGate_cases r b
      exact ⟨payload, stage, same⟩
  | raised error => cases error <;> exact ⟨_, _, rfl⟩
  | released => exact ⟨_, _, rfl⟩

/-- Requests that keep their sessions and backends stay linked to tickets that keep their
sessions and tiers. -/
theorem linked_of_kept {g h : Gateway ρ} (linked : g.Linked)
    (requests : ∀ k r, g.requests.get? k = some r → ∃ r', h.requests.get? k = some r' ∧
      r'.session = r.session ∧ r'.backend = r.backend)
    (tickets : ∀ k x', h.admission.tickets.get? k = some x' →
      ∃ x, g.admission.tickets.get? k = some x ∧ x'.session = x.session ∧ x'.tier = x.tier) :
    h.Linked := by
  intro k x' ticket
  obtain ⟨x, before, session, tier⟩ := tickets k x' ticket
  obtain ⟨r, b, found, own, bound, on_tier⟩ := linked k x before
  obtain ⟨r', after, same_session, same_backend⟩ := requests k r found
  exact ⟨r', b, after, by rw [same_session, session, own], by rw [same_backend, bound],
    by rw [tier, on_tier]⟩

theorem requests_set_kept {d : Dict ρ Request} {k : ρ} {r r' : Request}
    (found : d.get? k = some r) (session : r'.session = r.session)
    (backend : r'.backend = r.backend) (j : ρ) (q : Request) (at_j : d.get? j = some q) :
    ∃ q', (d.set k r').get? j = some q' ∧ q'.session = q.session ∧ q'.backend = q.backend := by
  rw [Dict.get?_set]
  split
  · rename_i same
    subst same
    cases found.symm.trans at_j
    exact ⟨r', rfl, session, backend⟩
  · exact ⟨q, at_j, rfl, rfl⟩

theorem tickets_set_kept {d : Dict ρ Ticket} {k : ρ} {session : SessionContext} {tier : Tier}
    {before after : Caller} (found : d.get? k = some ⟨session, tier, before⟩) (j : ρ) (y' : Ticket)
    (at_j : (d.set k ⟨session, tier, after⟩).get? j = some y') :
    ∃ y, d.get? j = some y ∧ y'.session = y.session ∧ y'.tier = y.tier := by
  rw [Dict.get?_set] at at_j
  split at at_j
  · rename_i same
    subst same
    cases at_j
    exact ⟨_, found, rfl, rfl⟩
  · exact ⟨y', at_j, rfl, rfl⟩

/-- Step lemma: every step keeps requests and tickets linked. -/
theorem linked_of_does {g h : Gateway ρ} {e : GatewayEvent ρ} (linked : g.Linked)
    (does : g.Does e h) : h.Linked := by
  have old : ∀ {k : ρ} {r : Request}, g.requests.get? k = none → ∀ j q,
      g.requests.get? j = some q → ∃ q', (g.requests.set k r).get? j = some q' ∧
        q'.session = q.session ∧ q'.backend = q.backend := by
    intro k r fresh j q at_j
    have differ : j ≠ k := fun same => by simp [same, fresh] at at_j
    exact ⟨q, (Dict.get?_set_of_ne _ _ differ).trans at_j, rfl, rfl⟩
  have unchanged : ∀ k x, g.admission.tickets.get? k = some x →
      ∃ y, g.admission.tickets.get? k = some y ∧ x.session = y.session ∧ x.tier = y.tier :=
    fun _ x ticket => ⟨x, ticket, rfl, rfl⟩
  cases does with
  | refused fresh raised => exact linked_of_kept linked (old fresh) unchanged
  | @arrived k input decision now made clock affinity b hit admission caller total fresh
      selected gated tickets =>
      have on_tier : b.tier = decision.tier :=
        (BackendRegistry.mem_getHealthyBackends.mp
          (AffinityScheduler.mem_of_selectBackend (congrArg Prod.snd selected))).2.1
      intro j x ticket
      simp only [tickets, Dict.get?_set] at ticket
      simp only [Dict.get?_set]
      split at ticket
      · rename_i same
        cases ticket
        rw [if_pos same]
        obtain ⟨payload, stage, settled⟩ := settled_eq
          { input, session := buildSession input, backend := some b,
            decision := { decision with backendId := b.id, affinityHit := hit } } b caller
        exact ⟨_, b, rfl, by rw [settled], by rw [settled], on_tier⟩
      · rename_i differ
        rw [if_neg differ]
        exact linked j x ticket
  | interrupted found waiting inside stepped tickets =>
      exact linked_of_kept linked (fun _ r at_k => ⟨r, at_k, rfl, rfl⟩)
        (tickets ▸ tickets_set_kept inside)
  | @resumed k finish r b admission session tier start before caller total found waiting bound
      inside woke tickets =>
      obtain ⟨payload, stage, settled⟩ := settled_eq r b caller
      exact linked_of_kept linked
        (requests_set_kept found (by rw [settled]) (by rw [settled]))
        (tickets ▸ tickets_set_kept inside)
  | moved found move =>
      exact linked_of_kept linked (requests_set_kept found rfl rfl) unchanged
  | ended found ends holds released tickets =>
      exact linked_of_kept linked (requests_set_kept found rfl rfl)
        (tickets ▸ tickets_set_kept holds)
  | status marked tickets =>
      exact linked_of_kept linked (fun _ r at_k => ⟨r, at_k, rfl, rfl⟩) (tickets ▸ unchanged)

/-- A request that is known has arrived once. It was bound then, if at all, to the backend that the
scheduler selected, and its decision was completed with the selection. It keeps its session, its
backend and its decision. -/
theorem selection_of_does {g h : Gateway ρ} {e : GatewayEvent ρ} (does : g.Does e h) {k : ρ}
    {r : Request} (found : h.requests.get? k = some r) :
    (∃ q, g.requests.get? k = some q ∧ r.session = q.session ∧ r.backend = q.backend ∧
        r.decision = q.decision) ∨
      ∃ input decision now made clock, e = .arrive k input decision now made clock ∧
        r.session = buildSession input ∧
        ∀ b, r.backend = some b → ∃ affinity hit,
          g.affinity.selectBackend (buildSession input) decision.tier
            (g.registry.getHealthyBackends decision.tier) now made = (affinity, .ok (b, hit)) ∧
          r.decision = { decision with backendId := b.id, affinityHit := hit } := by
  have kept : ∀ {j : ρ} {q q' : Request}, g.requests.get? j = some q →
      q'.session = q.session → q'.backend = q.backend → q'.decision = q.decision →
      (g.requests.set j q').get? k = some r →
      ∃ q, g.requests.get? k = some q ∧ r.session = q.session ∧ r.backend = q.backend ∧
        r.decision = q.decision := by
    intro j q q' at_j session backend decision found
    rw [Dict.get?_set] at found
    split at found
    · rename_i own
      cases found
      exact ⟨q, own ▸ at_j, session, backend, decision⟩
    · exact ⟨r, found, rfl, rfl, rfl⟩
  cases does with
  | refused =>
      simp only [Dict.get?_set] at found
      split at found
      · rename_i own
        subst own
        cases found
        exact .inr ⟨_, _, _, _, _, rfl, rfl, fun b bound => by cases bound⟩
      · exact .inl ⟨r, found, rfl, rfl, rfl⟩
  | @arrived j input decision now made clock affinity b hit admission caller total fresh
      selected =>
      simp only [Dict.get?_set] at found
      split at found
      · rename_i own
        subst own
        obtain ⟨payload, stage, settled⟩ := settled_eq
          { input, session := buildSession input, backend := some b,
            decision := { decision with backendId := b.id, affinityHit := hit } } b caller
        rw [settled] at found
        cases found
        refine .inr ⟨_, _, _, _, _, rfl, rfl, ?_⟩
        intro c bound
        cases bound
        exact ⟨affinity, hit, selected, rfl⟩
      · exact .inl ⟨r, found, rfl, rfl, rfl⟩
  | interrupted => exact .inl ⟨r, found, rfl, rfl, rfl⟩
  | @resumed j finish q b admission session tier start before caller total at_j =>
      obtain ⟨payload, stage, settled⟩ := settled_eq q b caller
      exact .inl (kept at_j (by rw [settled]) (by rw [settled]) (by rw [settled]) found)
  | moved at_j => exact .inl (kept at_j (by rfl) (by rfl) (by rfl) found)
  | ended at_j => exact .inl (kept at_j (by rfl) (by rfl) (by rfl) found)
  | status => exact .inl ⟨r, found, rfl, rfl, rfl⟩

/-- A request that is known has arrived once, with its own session and, if it has one, with a
backend that was healthy then. It keeps both. -/
theorem origin_of_does {g h : Gateway ρ} {e : GatewayEvent ρ} (does : g.Does e h) {k : ρ}
    {r : Request} (found : h.requests.get? k = some r) :
    (∃ q, g.requests.get? k = some q ∧ r.session = q.session ∧ r.backend = q.backend) ∨
      ∃ input decision now made clock, e = .arrive k input decision now made clock ∧
        r.session = buildSession input ∧
        ∀ b, r.backend = some b → b ∈ g.registry.getHealthyBackends b.tier := by
  rcases selection_of_does does found with
    ⟨q, before, session, backend, _⟩ | ⟨input, decision, now, made, clock, rfl, session, selected⟩
  · exact .inl ⟨q, before, session, backend⟩
  · refine .inr ⟨input, decision, now, made, clock, rfl, session, fun b bound => ?_⟩
    obtain ⟨affinity, hit, answered, _⟩ := selected b bound
    have member : b ∈ g.registry.getHealthyBackends decision.tier :=
      AffinityScheduler.mem_of_selectBackend (congrArg Prod.snd answered)
    exact (BackendRegistry.mem_getHealthyBackends.mp member).2.1.symm ▸ member

/-- The backends stay those of the configuration. -/
theorem grounded_of_does {config : GatewayConfig} {g h : Gateway ρ} {e : GatewayEvent ρ}
    (grounded : BackendRegistry.Grounded (.new config) g.registry)
    (does : g.Does e h) : BackendRegistry.Grounded (.new config) h.registry := by
  rw [registry_of_does does]
  cases e with
  | markStatus id status => exact grounded.markStatus id status
  | _ => exact grounded

/-- A request that is over stays as it is. -/
theorem over_stays {g h : Gateway ρ} {e : GatewayEvent ρ} {k : ρ} {r : Request}
    (does : g.Does e h) (found : g.requests.get? k = some r) (ended : r.isOver = true) :
    h.requests.get? k = some r := by
  have other : ∀ {j : ρ} {q : Request}, g.requests.get? j = some q → q.isOver = false →
      k ≠ j := by
    rintro j q at_j running rfl
    cases found.symm.trans at_j
    simp [ended] at running
  have old : ∀ {j : ρ}, g.requests.get? j = none → k ≠ j := by
    rintro j fresh rfl
    cases found.symm.trans fresh
  cases does with
  | refused fresh => exact (Dict.get?_set_of_ne _ _ (old fresh)).trans found
  | arrived fresh => exact (Dict.get?_set_of_ne _ _ (old fresh)).trans found
  | interrupted => exact found
  | resumed at_j waiting =>
      exact (Dict.get?_set_of_ne _ _ (other at_j (by rw [Request.isOver, waiting]))).trans found
  | moved at_j move => exact (Dict.get?_set_of_ne _ _ (other at_j move.running)).trans found
  | ended at_j ends => exact (Dict.get?_set_of_ne _ _ (other at_j ends.running)).trans found
  | status => exact found

end Gateway

end AgentServe
