import AgentServe.Gateway.Steps
import AgentServe.Lib.Run

/-!
# Giving slots back

A request that was admitted holds a slot until the code that forwards it gives the
slot back. That code is not there from the start: the payload is built first, a
stream needs a response with the name of its backend in a header, and the
generator of a stream runs only when the server asks for its first chunk. A request
that ends before is a slot lost.

How far a request has got with its slot is followed from its arrival on
(`Standing`, `tracked_step`). A request alone in its session gives back exactly the
slot it was admitted with if its payload and its response can be built and, for a
stream, the server has asked for a chunk, and only then (`given_back_once_iff`).
-/

set_option autoImplicit false

namespace AgentServe

open Lib

/-- The code that forwards a request is reached: its body can be dumped, and the name of its
backend can stand in the header of a stream. -/
def Request.Forwardable (r : Request) : Prop :=
  ∃ b, r.backend = some b ∧ (payloadFor r.input b).isSome = true ∧
    (r.input.stream = true → isLatin1 b.id = true)

theorem Request.forwardable_iff {r : Request} {b : BackendInfo} (bound : r.backend = some b) :
    r.Forwardable ↔ (payloadFor r.input b).isSome = true ∧
      (r.input.stream = true → isLatin1 b.id = true) := by
  constructor
  · rintro ⟨b', bound', ready⟩
    obtain rfl := Option.some.inj (bound.symm.trans bound')
    exact ready
  · exact fun ready => ⟨b, bound, ready⟩

/-- The stages in which the code that forwards a request runs. -/
def Stage.isAnswering : Stage → Bool
  | .awaiting | .yielded | .doneYielded | .closing | .completing => true
  | _ => false

namespace Gateway

/-- Where a request stands with its slot: how its ticket, the slots it has given back, and
whether the server has asked for a chunk go together. -/
inductive Standing (r : Request) (ticket : Option Ticket) (back : List Tier)
    (started : Prop) : Prop where
  | refused (ended : r.isOver = true) (absent : ticket = none)
  | thrown {session : SessionContext} {tier : Tier} {error : Raised} (ended : r.isOver = true)
      (raised : ticket = some ⟨session, tier, .raised error⟩)
  | waiting {session : SessionContext} {tier : Tier} {start : Time}
      {interrupted : Option Interrupt} (stage : r.stage = .waiting)
      (inside : ticket = some ⟨session, tier, .inside start interrupted⟩) (kept : back = [])
      (idle : ¬ started)
  | unstarted {session : SessionContext} {tier : Tier} {wait : Time}
      (stage : r.stage = .pendingBody) (holds : ticket = some ⟨session, tier, .holding wait⟩)
      (kept : back = []) (idle : ¬ started) (ready : r.Forwardable)
      (stream : r.input.stream = true)
  | answering {session : SessionContext} {tier : Tier} {wait : Time}
      (stage : r.stage.isAnswering = true)
      (holds : ticket = some ⟨session, tier, .holding wait⟩) (kept : back = [])
      (ready : r.Forwardable) (begun : r.input.stream = true → started)
  | lost {session : SessionContext} {tier : Tier} {wait : Time} (ended : r.isOver = true)
      (holds : ticket = some ⟨session, tier, .holding wait⟩) (kept : back = [])
      (cause : ¬ (r.Forwardable ∧ (r.input.stream = true → started)))
  | returned {session : SessionContext} {tier : Tier} (ended : r.isOver = true)
      (gone : ticket = some ⟨session, tier, .released⟩) (once : back = [tier])
      (ready : r.Forwardable) (begun : r.input.stream = true → started)

theorem running_of_isAnswering {r : Request} (stage : r.stage.isAnswering = true) :
    r.isOver = false := by
  unfold Request.isOver
  split
  · rename_i exit ended
    simp [ended, Stage.isAnswering] at stage
  · rfl

section Stages

variable {r : Request} {ticket : Option Ticket} {back : List Tier} {started : Prop}

theorem Standing.of_waiting (standing : Standing r ticket back started)
    (stage : r.stage = .waiting) : back = [] ∧ ¬ started := by
  cases standing with
  | waiting _ _ kept idle => exact ⟨kept, idle⟩
  | unstarted other => cases stage.symm.trans other
  | answering answering => simp [stage, Stage.isAnswering] at answering
  | _ ended => simp [Request.isOver, stage] at ended

theorem Standing.of_pendingBody (standing : Standing r ticket back started)
    (stage : r.stage = .pendingBody) :
    (∃ session tier wait, ticket = some ⟨session, tier, .holding wait⟩) ∧ back = [] ∧
      ¬ started ∧ r.Forwardable ∧ r.input.stream = true := by
  cases standing with
  | unstarted _ holds kept idle ready stream =>
      exact ⟨⟨_, _, _, holds⟩, kept, idle, ready, stream⟩
  | waiting other => cases stage.symm.trans other
  | answering answering => simp [stage, Stage.isAnswering] at answering
  | _ ended => simp [Request.isOver, stage] at ended

theorem Standing.of_isAnswering (standing : Standing r ticket back started)
    (stage : r.stage.isAnswering = true) :
    (∃ session tier wait, ticket = some ⟨session, tier, .holding wait⟩) ∧ back = [] ∧
      r.Forwardable ∧ (r.input.stream = true → started) := by
  have running := running_of_isAnswering stage
  cases standing with
  | answering _ holds kept ready begun => exact ⟨⟨_, _, _, holds⟩, kept, ready, begun⟩
  | waiting other => simp [other, Stage.isAnswering] at stage
  | unstarted other => simp [other, Stage.isAnswering] at stage
  | _ ended => simp [running] at ended

/-- A request comes out of a stretch of `gate` still waiting, thrown out, with its slot lost, or
with a code that forwards it. -/
theorem standing_settled {b : BackendInfo} {caller : Caller} {session : SessionContext}
    {tier : Tier} (bound : r.backend = some b) (unreleased : caller ≠ .released)
    (kept : back = []) (idle : ¬ started) :
    Standing (settled r b caller) (some ⟨session, tier, caller⟩) back started := by
  cases caller with
  | inside start interrupted => exact .waiting rfl rfl kept idle
  | raised error =>
      cases error with
      | exception e => exact .thrown rfl rfl
      | keyError tier => exact .thrown rfl rfl
      | cancelled => exact .thrown rfl rfl
  | released => exact absurd rfl unreleased
  | holding wait =>
      obtain ⟨payload, stage, same, ways⟩ := afterGate_cases r b
      rw [← Request.forwardable_iff bound] at ways
      simp only [settled, same]
      rcases ways with ⟨rfl, unready⟩ | ⟨rfl, ready, stream⟩ | ⟨rfl, ready, call⟩
      · exact .lost rfl rfl kept fun cause => unready cause.1
      · exact .unstarted rfl rfl kept idle ready stream
      · exact .answering rfl rfl kept ready fun stream => absurd stream call

end Stages

variable {ρ : Type}

/-- A move of a request that leaves its slot alone. -/
theorem standing_of_move {k : ρ} {e : GatewayEvent ρ} {r : Request} {stage : Stage}
    {delivered : List (List UInt8)} {ticket : Option Ticket} {back : List Tier} {past}
    (standing : Standing r ticket back (.advance k ∈ past)) (move : StageMove k e r.stage stage) :
    Standing { r with stage, delivered } ticket back (.advance k ∈ past ++ [e]) := by
  have answering : r.stage.isAnswering = true → stage.isAnswering = true →
      Standing { r with stage, delivered } ticket back (.advance k ∈ past ++ [e]) := by
    intro source target
    obtain ⟨⟨_, _, _, holds⟩, kept, ready, begun⟩ := standing.of_isAnswering source
    exact .answering target holds kept ready fun stream => List.mem_append_left _ (begun stream)
  generalize before : r.stage = source at move
  cases move with
  | start =>
      obtain ⟨⟨_, _, _, holds⟩, kept, _, ready, _⟩ := standing.of_pendingBody before
      exact .answering rfl holds kept ready fun _ => by simp
  | abandon =>
      obtain ⟨⟨_, _, _, holds⟩, kept, idle, _, stream⟩ := standing.of_pendingBody before
      exact .lost rfl holds kept fun ⟨_, begun⟩ => by simpa [idle] using begun stream
  | _ => exact answering (by rw [before]; rfl) rfl

/-- The end of a request that gives its slot back. -/
theorem standing_of_end {k : ρ} {e : GatewayEvent ρ} {r : Request} {exit : Exit}
    {ticket : Option Ticket} {session : SessionContext} {tier : Tier} {back : List Tier} {past}
    (standing : Standing r ticket back (.advance k ∈ past)) (ends : StageEnd k e r.stage exit) :
    Standing { r with stage := .over exit } (some ⟨session, tier, .released⟩) (back ++ [tier])
      (.advance k ∈ past ++ [e]) := by
  have stage : r.stage.isAnswering = true := by
    generalize r.stage = source at ends
    cases ends <;> rfl
  obtain ⟨_, rfl, ready, begun⟩ := standing.of_isAnswering stage
  exact .returned rfl rfl rfl ready fun stream => List.mem_append_left _ (begun stream)

/-! ## One request through a run -/

variable [DecidableEq ρ]

/-- While a request is in flight, a step of another request is of another session. -/
def Alone (k : ρ) (g : Gateway ρ) (e : GatewayEvent ρ) : Prop :=
  ∀ r, g.requests.get? k = some r → r.isOver = false →
    ∀ j sid, g.actor e = some (j, sid) → j ≠ k → sid ≠ r.session.sessionId

/-- What is known of a request and its slot, with the events so far. A request in flight finds
its session recorded with its own tier. -/
structure Tracked (k : ρ) (past : List (GatewayEvent ρ)) (g : Gateway ρ) : Prop where
  linked : g.Linked
  recorded : (∀ r, g.requests.get? k = some r → r.isOver = false) → g.admission.Recorded k
  fresh : g.requests.get? k = none → g.givenBackBy k = [] ∧ .advance k ∉ past
  standing : ∀ r, g.requests.get? k = some r →
    Standing r (g.admission.tickets.get? k) (g.givenBackBy k) (.advance k ∈ past)

/-- Step lemma: a request in flight keeps its record while steps of other sessions pass. -/
theorem recorded_of_does {g h : Gateway ρ} {e : GatewayEvent ρ} {k : ρ} {past}
    (tracked : Tracked k past g) (alone : g.Alone k e) (does : g.Does e h)
    (running : ∀ r, h.requests.get? k = some r → r.isOver = false) : h.admission.Recorded k := by
  have before : ∀ r, g.requests.get? k = some r → r.isOver = false := by
    intro r found
    by_contra ended
    have stays := over_stays does found (by simpa using ended)
    exact ended (running r stays)
  have recorded := tracked.recorded before
  rcases admission_of_does tracked.linked does with same | ⟨a, stepped, actor, _⟩
  · rw [same]
    exact recorded
  · refine AdmissionSystem.recorded_step recorded ?_ stepped
    intro x ticket _ j sid acts differ
    obtain ⟨r, _, found, session, _⟩ := tracked.linked k x ticket
    rw [← session]
    exact alone r found (before r found) j sid (actor ▸ acts) differ

/-- The server asks for a chunk of a request in a step of that request. -/
theorem actor_of_advance {g h : Gateway ρ} {k : ρ} (does : g.Does (.advance k) h) :
    ∃ sid, g.actor (.advance k) = some (k, sid) := by
  cases does with
  | moved found move =>
      obtain rfl := move.of_advance
      exact ⟨_, by rw [actor, found]; rfl⟩
  | ended found ends =>
      obtain rfl := ends.of_advance
      exact ⟨_, by rw [actor, found]; rfl⟩

/-- Step lemma: how a request stands with its slot after a step. -/
theorem standing_of_does {g h : Gateway ρ} {e : GatewayEvent ρ} {k : ρ} {past}
    (tracked : Tracked k past g) (does : g.Does e h) {r : Request}
    (found : h.requests.get? k = some r) :
    Standing r (h.admission.tickets.get? k) (h.givenBackBy k) (.advance k ∈ past ++ [e]) := by
  by_cases own : ∃ sid, g.actor e = some (k, sid)
  · obtain ⟨sid, acts⟩ := own
    cases does with
    | refused fresh raised =>
        cases acts
        simp only [Dict.get?_set_self] at found
        cases found
        exact .refused rfl (tracked.linked.ticket_of_fresh fresh)
    | arrived fresh selected gated tickets unreleased =>
        cases acts
        simp only [Dict.get?_set_self] at found
        cases found
        obtain ⟨kept, idle⟩ := tracked.fresh fresh
        simp only [tickets, Dict.get?_set_self]
        exact standing_settled rfl unreleased kept (by simp [idle])
    | interrupted at_j waiting inside stepped tickets =>
        obtain rfl := eq_of_actor acts rfl at_j
        cases found.symm.trans at_j
        obtain ⟨kept, idle⟩ := (tracked.standing r at_j).of_waiting waiting
        simp only [tickets, Dict.get?_set_self]
        exact .waiting waiting rfl kept (by simp [idle])
    | resumed at_j waiting bound inside woke tickets unreleased =>
        obtain rfl := eq_of_actor acts rfl at_j
        simp only [Dict.get?_set_self] at found
        cases found
        obtain ⟨kept, idle⟩ := (tracked.standing _ at_j).of_waiting waiting
        simp only [tickets, Dict.get?_set_self]
        exact standing_settled bound unreleased kept (by simp [idle])
    | moved at_j move =>
        obtain rfl := eq_of_actor acts move.actor at_j
        simp only [Dict.get?_set_self] at found
        cases found
        exact standing_of_move (tracked.standing _ at_j) move
    | ended at_j ends holds released tickets =>
        obtain rfl := eq_of_actor acts ends.actor at_j
        simp only [Dict.get?_set_self] at found
        cases found
        have before : ∀ q, g.requests.get? k = some q → q.isOver = false := by
          intro q at_j'
          cases at_j.symm.trans at_j'
          exact ends.running
        have held := tracked.recorded before _ holds rfl
        rw [givenBackBy_append rfl, if_pos rfl, held]
        simp only [tickets, Dict.get?_set_self]
        exact standing_of_end (tracked.standing _ at_j) ends
    | status => cases acts
  · have other : ∀ sid, g.actor e ≠ some (k, sid) := by
      intro sid acts
      exact own ⟨sid, acts⟩
    obtain ⟨requests, tickets, back⟩ := frame_of_does tracked.linked does other
    have differ : e ≠ .advance k := fun same => own (same ▸ actor_of_advance (same ▸ does))
    have started : (.advance k ∈ past ++ [e]) = (.advance k ∈ past) := by
      simp [differ.symm]
    rw [tickets, back, started]
    exact tracked.standing r (requests ▸ found)

/-- Step lemma: a request stays tracked while steps of other sessions pass. -/
theorem tracked_step {g h : Gateway ρ} {e : GatewayEvent ρ} {k : ρ} {past}
    (tracked : Tracked k past g) (alone : g.Alone k e) (stepped : g.step e = some h) :
    Tracked k (past ++ [e]) h := by
  have does : g.Does e h := does_of_step stepped
  refine ⟨linked_of_does tracked.linked does, recorded_of_does tracked alone does, ?_,
    fun r found => standing_of_does tracked does found⟩
  intro absent
  have other : ∀ sid, g.actor e ≠ some (k, sid) := by
    intro sid acts
    obtain ⟨r, found⟩ := found_of_actor does acts
    cases absent.symm.trans found
  obtain ⟨requests, _, back⟩ := frame_of_does tracked.linked does other
  obtain ⟨kept, idle⟩ := tracked.fresh (requests ▸ absent)
  refine ⟨back.trans kept, ?_⟩
  intro started
  rcases List.mem_append.mp started with earlier | now
  · exact idle earlier
  · obtain rfl := List.mem_singleton.mp now
    obtain ⟨sid, acts⟩ := actor_of_advance does
    exact other sid acts

theorem tracked_new (config : GatewayConfig) (k : ρ) : Tracked k [] (new config) where
  linked := by
    intro k x ticket
    cases ticket
  recorded := by
    intro _ x ticket
    cases ticket
  fresh := fun _ => ⟨rfl, List.not_mem_nil⟩
  standing := by
    intro r found
    cases found

/-- The tier a request was admitted on, if `gate` returned for it. -/
def admittedOn (g : Gateway ρ) (k : ρ) : Option Tier :=
  (g.admission.tickets.get? k).bind fun x =>
    match x.caller with
    | .holding _ | .released => some x.tier
    | _ => none

/-- **When an admitted request gives its slot back.** When a request that was admitted is over,
with no other request of its session in flight beside it, it has given back one slot of its tier
and no other exactly if its payload and its response could be built and, for a stream, the server
has asked for a chunk. -/
theorem given_back_once_iff (config : GatewayConfig) (events : List (GatewayEvent ρ))
    (g : Gateway ρ) (ran : run step (new config) events = some g) (k : ρ)
    (alone : EveryStep step (new config) events (Alone k)) (r : Request)
    (found : g.requests.get? k = some r) (ended : r.isOver = true) (t : Tier)
    (admitted : g.admittedOn k = some t) :
    g.givenBackBy k = [t] ↔
      r.Forwardable ∧ (r.input.stream = true → .advance k ∈ events) := by
  have tracked : Tracked k events g :=
    past_invariant_of_everyStep (fun _ _ _ _ tracked alone stepped =>
      tracked_step tracked alone stepped) (tracked_new config k) alone ran
  have standing := tracked.standing r found
  unfold admittedOn at admitted
  cases standing with
  | refused _ absent => simp [absent] at admitted
  | thrown _ raised => simp [raised] at admitted
  | waiting stage => simp [Request.isOver, stage] at ended
  | unstarted stage => simp [Request.isOver, stage] at ended
  | answering stage => simp [running_of_isAnswering stage] at ended
  | lost _ holds kept cause => exact iff_of_false (by simp [kept]) cause
  | returned _ gone once ready begun =>
      simp only [gone, Option.bind_some, Option.some.injEq] at admitted
      subst admitted
      exact iff_of_true once ⟨ready, begun⟩

/-! ## A stream and its first chunk -/

/-- Nobody else takes a step beside a request in a run of its own steps. -/
theorem alone_of_own {s : Gateway ρ} {events : List (GatewayEvent ρ)} {k : ρ}
    (own : ∀ e ∈ events, ∀ (g : Gateway ρ) j sid, g.actor e = some (j, sid) → k = j) :
    EveryStep step s events (Alone k) := by
  intro first e second g split _ r _ _ j sid acts differ
  exact absurd (own e (by simp [split]) g j sid acts).symm differ

/-- A stream is admitted, and the client disconnects before the first chunk. -/
def droppedStream : List (GatewayEvent ℕ) := [
  .arrive 0 (hello "s" true) (greeted .big "big-0") 0 0 AdmissionSystem.atStart, .drop 0]

/-- A stream that nobody asks for a chunk keeps its slot. -/
theorem dropped_stream_keeps_slot :
    ¬ ∀ (config : GatewayConfig) (events : List (GatewayEvent ℕ)) (g : Gateway ℕ),
      run step (new config) events = some g →
      ∀ k, EveryStep step (new config) events (Alone k) →
        ∀ r, g.requests.get? k = some r → r.isOver = true →
          ∀ t, g.admittedOn k = some t → g.givenBackBy k = [t] := by
  intro always
  have alone : EveryStep step (new shippedConfig) droppedStream (Alone 0) :=
    alone_of_own (by simp +contextual [droppedStream, actor])
  have back := always shippedConfig droppedStream _ rfl 0 alone _ rfl rfl .big rfl
  cases back

/-- A stream is admitted, hands out a chunk and ends. -/
def wholeStream : List (GatewayEvent ℕ) := [
  .arrive 0 (hello "s" true) (greeted .big "big-0") 0 0 AdmissionSystem.atStart, .advance 0,
  .chunk 0 [104, 105], .advance 0, .upstreamEnds 0]

/-- A stream that the server reads to its end gives its slot back. -/
theorem given_back_once_iff_after_stream :
    ∃ (g : Gateway ℕ) (r : Request), run step (new shippedConfig) wholeStream = some g ∧
      g.requests.get? 0 = some r ∧ (g.givenBackBy 0 = [.big] ↔
        r.Forwardable ∧ (r.input.stream = true → .advance 0 ∈ wholeStream)) :=
  ⟨_, _, rfl, rfl, given_back_once_iff shippedConfig wholeStream _ rfl 0
    (alone_of_own (by simp +contextual [wholeStream, actor])) _ rfl rfl .big rfl⟩

end Gateway

end AgentServe
