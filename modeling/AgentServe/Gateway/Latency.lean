import AgentServe.Gateway.Answers

/-!
# The latencies that are observed

The handler takes the time when a request arrives, and observes two latencies of it: the
time to the first token and the time to the end. A stream has its first token with the
first chunk of the backend, which is told by a flag, and a call has it with its reply. A
stream that ends and a call that is replied to have ended.

So the latencies to the end are those of the requests that are counted as successes
(`metered_run`), while a request has a latency to the first token exactly if its backend
delivered something, whether it succeeds or not. Neither is observed twice, and as long as
the clock does not go back the one is never above the other (`latencies_of_run`).
-/

set_option autoImplicit false

namespace AgentServe

open Lib

/-- An observed latency. The histogram keeps its labels, and not whose it is. -/
structure Sample (ρ : Type) where
  request : ρ
  tier : String
  backend : String
  seconds : Time

namespace GatewayEvent

variable {ρ : Type}

/-- The event ends a request that succeeds. -/
def succeeds : GatewayEvent ρ → Bool
  | .upstreamEnds _ | .reply _ _ _ => true
  | _ => false

end GatewayEvent

/-- The gateway with its histograms: when requests arrived, and which streams have recorded their
first token. -/
structure MeteredGateway (ρ : Type) where
  gateway : Gateway ρ
  started : Dict ρ Time
  ttftRecorded : Dict ρ Bool
  ttftSeconds : List (Sample ρ)
  e2eSeconds : List (Sample ρ)

namespace MeteredGateway

variable {ρ : Type} [DecidableEq ρ]

def new (config : GatewayConfig) : MeteredGateway ρ := ⟨.new config, .empty, .empty, [], []⟩

/-- The stream of a request has recorded its first token. -/
def recorded (m : MeteredGateway ρ) (k : ρ) : Bool := (m.ttftRecorded.get? k).getD false

/-- The latency of a request at a time. -/
def sampleAt (m : MeteredGateway ρ) (now : Time) (k : ρ) (r : Request) : Sample ρ where
  request := k
  tier := r.decision.tier.value
  backend := r.decision.backendId
  seconds := now - (m.started.get? k).getD 0

/-- The latency of the request of an event. -/
def samples (m : MeteredGateway ρ) (now : Time) (e : GatewayEvent ρ) : List (Sample ρ) :=
  (e.request?.bind fun k => (m.gateway.requests.get? k).map (m.sampleAt now k)).toList

/-- The event brings the first token of a request. -/
def firstToken (m : MeteredGateway ρ) : GatewayEvent ρ → Bool
  | .chunk k _ => !m.recorded k
  | .reply _ _ _ => true
  | _ => false

/-- A step at a time. -/
def step (m : MeteredGateway ρ) (event : Time × GatewayEvent ρ) : Option (MeteredGateway ρ) :=
  (m.gateway.step event.2).map fun gateway => {
    gateway
    started :=
      match event.2 with
      | .arrive k _ _ _ _ _ => m.started.set k event.1
      | _ => m.started
    ttftRecorded :=
      match event.2 with
      | .chunk k _ => m.ttftRecorded.set k true
      | _ => m.ttftRecorded
    ttftSeconds :=
      m.ttftSeconds ++ if m.firstToken event.2 then m.samples event.1 event.2 else []
    e2eSeconds := m.e2eSeconds ++ if event.2.succeeds then m.samples event.1 event.2 else [] }

/-! ## Successes -/

/-- The labels of a success. -/
def isSuccess (labels : RequestLabels) : Bool := labels.outcome == .success

/-- The labels of a latency, as a success. -/
def successOf (s : Sample ρ) : RequestLabels := ⟨s.tier, s.backend, .success⟩

/-- What a step counts of a request as successes. -/
theorem successes_of_ownStep {g h : Gateway ρ} {k : ρ} {e : GatewayEvent ρ} {r : Request}
    {labels : List RequestLabels} (own : Gateway.OwnStep g h k e r labels) :
    labels.filter isSuccess =
      if e.succeeds then ((g.requests.get? k).map (Request.labels · .success)).toList else [] := by
  have gated : ∀ caller : Caller, (callerLabels caller).filter isSuccess = [] := by
    intro caller
    unfold callerLabels
    split <;> rfl
  cases own with
  | refused => rfl
  | arrived => exact gated _
  | interrupted => rfl
  | resumed => exact gated _
  | reacts found reacts =>
      rw [found]
      cases reacts <;> rfl

/-- Step lemma: a step counts a success exactly if it ends a request with a latency. -/
theorem successes_of_step {m : MeteredGateway ρ} {g : Gateway ρ} {now : Time} {e : GatewayEvent ρ}
    (stepped : m.gateway.step e = some g) :
    g.requestsTotal.filter isSuccess = m.gateway.requestsTotal.filter isSuccess ++
      (if e.succeeds then m.samples now e else []).map successOf := by
  cases own : e.request? with
  | none =>
      cases e with
      | markStatus backendId status =>
          rw [Gateway.step] at stepped
          obtain ⟨admission, _, rfl⟩ := Option.map_eq_some_iff.mp stepped
          exact (List.append_nil _).symm
      | _ => cases own
  | some k =>
      obtain ⟨r, labels, ownStep, _, total⟩ := Gateway.ownStep_of_step stepped own
      rw [total, List.filter_append, successes_of_ownStep ownStep]
      apply congrArg
      split
      · rw [samples, own, Option.bind_some]
        cases m.gateway.requests.get? k <;> rfl
      · rfl

/-! ## First tokens -/

/-- The backend of a request delivered something. -/
def Delivered (es : List (GatewayEvent ρ)) : Prop :=
  GatewayEvent.sent es ≠ [] ∨ GatewayEvent.replies es ≠ []

instance (es : List (GatewayEvent ρ)) : Decidable (Delivered es) :=
  inferInstanceAs (Decidable (_ ∨ _))

omit [DecidableEq ρ] in
theorem delivered_concat {es : List (GatewayEvent ρ)} {e : GatewayEvent ρ}
    (unsent : e.chunk? = none)
    (unreplied : e.reply? = none) : Delivered (es ++ [e]) ↔ Delivered es := by
  simp [Delivered, unsent, unreplied]

/-- The events without their times. -/
def untimed (events : List (Time × GatewayEvent ρ)) : List (GatewayEvent ρ) := events.map Prod.snd

/-- The events of a request. -/
def eventsOf (k : ρ) (events : List (Time × GatewayEvent ρ)) : List (GatewayEvent ρ) :=
  GatewayEvent.ownEvents k (untimed events)

/-- The latencies of a request. -/
def of (k : ρ) (samples : List (Sample ρ)) : List (Sample ρ) :=
  samples.filter fun s => s.request = k

/-- What holds of every reachable state: the latencies to the end are those of the successes, and a
request has a latency to the first token exactly if its backend delivered something. -/
structure Metered (config : GatewayConfig) (past : List (Time × GatewayEvent ρ))
    (m : MeteredGateway ρ) : Prop where
  ran : run Gateway.step (.new config) (untimed past) = some m.gateway
  ends : m.e2eSeconds.map successOf = m.gateway.requestsTotal.filter isSuccess
  recorded : ∀ k, m.recorded k = true ↔ GatewayEvent.sent (eventsOf k past) ≠ []
  first : ∀ k, (of k m.ttftSeconds).length = if Delivered (eventsOf k past) then 1 else 0

variable {config : GatewayConfig} {past : List (Time × GatewayEvent ρ)} {m t : MeteredGateway ρ}

theorem eventsOf_concat_own {k : ρ} {event : Time × GatewayEvent ρ}
    (mine : event.2.request? = some k) :
    eventsOf k (past ++ [event]) = eventsOf k past ++ [event.2] := by
  rw [eventsOf, untimed, List.map_append]
  exact GatewayEvent.ownEvents_concat_own mine _

theorem eventsOf_concat_other {k : ρ} {event : Time × GatewayEvent ρ}
    (other : event.2.request? ≠ some k) : eventsOf k (past ++ [event]) = eventsOf k past := by
  rw [eventsOf, untimed, List.map_append]
  exact GatewayEvent.ownEvents_concat_other other _

/-- An event has no latencies of other requests. -/
theorem of_samples_other {k : ρ} {now : Time} {e : GatewayEvent ρ} (other : e.request? ≠ some k) :
    of k (m.samples now e) = [] := by
  apply List.filter_eq_nil_iff.mpr
  intro s member
  obtain ⟨j, asked, found⟩ := Option.bind_eq_some_iff.mp (Option.mem_toList.mp member)
  obtain ⟨r, _, rfl⟩ := Option.map_eq_some_iff.mp found
  have differ : j ≠ k := fun same => other (same ▸ asked)
  exact fun mine => differ (of_decide_eq_true mine)

theorem of_samples_own {k : ρ} {now : Time} {e : GatewayEvent ρ} {r : Request}
    (mine : e.request? = some k) (found : m.gateway.requests.get? k = some r) :
    m.samples now e = [m.sampleAt now k r] := by
  rw [samples, mine, Option.bind_some, found]
  rfl

/-- Where a chunk or a reply comes, its request waits for it. -/
theorem awaits_of_step {g : Gateway ρ} {e : GatewayEvent ρ} {k : ρ}
    (stepped : m.gateway.step e = some g) (mine : e.request? = some k) :
    (∀ bytes, e = .chunk k bytes →
      ∃ r, m.gateway.requests.get? k = some r ∧ r.stage = .awaiting) ∧
    ∀ result now, e = .reply k result now →
      ∃ r, m.gateway.requests.get? k = some r ∧ r.stage = .completing := by
  obtain ⟨r, labels, ownStep, _⟩ := Gateway.ownStep_of_step stepped mine
  constructor
  · rintro bytes rfl
    cases ownStep with
    | reacts found reacts =>
        cases reacts with
        | deliver stage => exact ⟨_, found, stage⟩
  · rintro result now rfl
    cases ownStep with
    | reacts found reacts =>
        cases reacts with
        | replied stage => exact ⟨_, found, stage⟩
        | unreadable stage => exact ⟨_, found, stage⟩

/-- The parts of a step. -/
theorem parts_of_step {event : Time × GatewayEvent ρ} (stepped : m.step event = some t) :
    m.gateway.step event.2 = some t.gateway ∧
      t.ttftSeconds = m.ttftSeconds ++
        (if m.firstToken event.2 then m.samples event.1 event.2 else []) ∧
      t.e2eSeconds = m.e2eSeconds ++
        (if event.2.succeeds then m.samples event.1 event.2 else []) := by
  obtain ⟨gateway, inside, rfl⟩ := Option.map_eq_some_iff.mp stepped
  exact ⟨inside, rfl, rfl⟩

/-- A flag is set by the chunks of its request. -/
theorem recorded_of_step {event : Time × GatewayEvent ρ} (stepped : m.step event = some t) (k : ρ) :
    t.recorded k =
      (m.recorded k || decide (event.2.request? = some k) && event.2.chunk?.isSome) := by
  obtain ⟨gateway, _, rfl⟩ := Option.map_eq_some_iff.mp stepped
  cases event with
  | mk now e =>
      cases e with
      | chunk j bytes =>
          simp only [recorded, GatewayEvent.request?, GatewayEvent.chunk?, Option.some.injEq,
            Option.isSome_some, Bool.and_true, Dict.get?_set]
          by_cases same : k = j
          · simp [same]
          · have differ : j ≠ k := fun equal => same equal.symm
            simp [same, differ]
      | _ => simp [recorded, GatewayEvent.chunk?]

/-- An event brings something of a backend, or it brings no first token. -/
theorem delivery_cases (e : GatewayEvent ρ) :
    (∃ k bytes, e = .chunk k bytes) ∨ (∃ k result now, e = .reply k result now) ∨
      e.chunk? = none ∧ e.reply? = none ∧ ∀ m : MeteredGateway ρ, m.firstToken e = false := by
  cases e with
  | chunk k bytes => exact .inl ⟨k, bytes, rfl⟩
  | reply k result now => exact .inr (.inl ⟨k, result, now, rfl⟩)
  | _ => exact .inr (.inr ⟨rfl, rfl, fun _ => rfl⟩)

theorem length_first {event : Time × GatewayEvent ρ} (stepped : m.step event = some t) (k : ρ) :
    (of k t.ttftSeconds).length = (of k m.ttftSeconds).length +
      if m.firstToken event.2 then (of k (m.samples event.1 event.2)).length else 0 := by
  rw [(parts_of_step stepped).2.1, of, List.filter_append, List.length_append]
  split <;> rfl

theorem length_of_samples_own {k : ρ} {now : Time} {e : GatewayEvent ρ} {r : Request}
    (mine : e.request? = some k) (found : m.gateway.requests.get? k = some r) :
    (of k (m.samples now e)).length = 1 := by
  rw [of_samples_own mine found]
  simp [of, sampleAt]

/-- Step lemma: flags are set, and latencies taken, by what a backend delivers first. -/
theorem first_step {event : Time × GatewayEvent ρ} (metered : Metered config past m)
    (stepped : m.step event = some t) (k : ρ) :
    (t.recorded k = true ↔ GatewayEvent.sent (eventsOf k (past ++ [event])) ≠ []) ∧
      (of k t.ttftSeconds).length = if Delivered (eventsOf k (past ++ [event])) then 1 else 0 := by
  have flag := recorded_of_step stepped k
  have known := metered.recorded k
  have first := metered.first k
  rw [length_first stepped k]
  by_cases mine : event.2.request? = some k
  · have accounted := Gateway.accounted_run metered.ran k
    obtain ⟨atChunk, atReply⟩ := awaits_of_step (parts_of_step stepped).1 mine
    rw [eventsOf_concat_own mine, GatewayEvent.sent_concat]
    obtain ⟨now, e⟩ := event
    rcases delivery_cases e with
      ⟨j, bytes, rfl⟩ | ⟨j, result, made, rfl⟩ | ⟨unsent, unreplied, late⟩
    · obtain rfl : j = k := Option.some.inj mine
      obtain ⟨r, found, stage⟩ := atChunk bytes rfl
      have course := accounted.course r found
      rw [stage] at course
      have unreplied : GatewayEvent.replies (eventsOf j past) = [] := course.1.unreplied
      have flagged : t.recorded j = true := by
        rw [flag]
        simp [GatewayEvent.request?, GatewayEvent.chunk?]
      have delivered : Delivered (eventsOf j past ++ [.chunk j bytes]) :=
        .inl (by simp [GatewayEvent.chunk?])
      refine ⟨by simp [flagged, GatewayEvent.chunk?], ?_⟩
      rw [if_pos delivered]
      cases before : m.recorded j with
      | true =>
          have already : Delivered (eventsOf j past) := .inl (known.mp before)
          rw [first, if_pos already, firstToken, before]
          rfl
      | false =>
          have nothing : ¬ Delivered (eventsOf j past) := by
            rintro (some_sent | some_replies)
            · rw [known.mpr some_sent] at before
              cases before
            · exact some_replies unreplied
          rw [first, if_neg nothing, firstToken, before, length_of_samples_own mine found]
          rfl
    · obtain rfl : j = k := Option.some.inj mine
      obtain ⟨r, found, stage⟩ := atReply result made rfl
      have course := accounted.course r found
      rw [stage] at course
      have nothing : ¬ Delivered (eventsOf j past) := by
        rintro (some_sent | some_replies)
        · exact some_sent course.1.unsent
        · exact some_replies course.1.unreplied
      have delivered : Delivered (eventsOf j past ++ [.reply j result made]) :=
        .inr (by simp [GatewayEvent.reply?])
      refine ⟨?_, ?_⟩
      · rw [flag]
        simpa [GatewayEvent.chunk?] using known
      · rw [first, if_neg nothing, if_pos delivered, length_of_samples_own mine found]
        rfl
    · refine ⟨?_, ?_⟩
      · rw [flag]
        simpa [unsent] using known
      · simp only [first, late, Bool.false_eq_true, if_false, Nat.add_zero,
          delivered_concat unsent unreplied]
  · rw [eventsOf_concat_other mine, of_samples_other mine, first, flag, List.length_nil, ite_self]
    exact ⟨by simpa [mine] using known, Nat.add_zero _⟩

/-- Step lemma: the histograms keep count. -/
theorem metered_step {event : Time × GatewayEvent ρ} (metered : Metered config past m)
    (stepped : m.step event = some t) : Metered config (past ++ [event]) t := by
  obtain ⟨inside, _, ends⟩ := parts_of_step stepped
  refine ⟨?_, ?_, fun k => (first_step metered stepped k).1, fun k =>
    (first_step metered stepped k).2⟩
  · rw [untimed, List.map_append]
    exact run_concat_eq_some.mpr ⟨m.gateway, metered.ran, inside⟩
  · rw [ends, List.map_append, metered.ends, successes_of_step inside]

theorem metered_run {events : List (Time × GatewayEvent ρ)}
    (ran : run step (new config) events = some m) : Metered config events m :=
  past_invariant (fun _ _ _ _ metered stepped => metered_step metered stepped)
    ⟨rfl, rfl, fun _ => by simp [recorded, new, eventsOf, untimed, GatewayEvent.ownEvents,
      GatewayEvent.sent], fun _ => by simp [of, new, eventsOf, untimed, GatewayEvent.ownEvents,
      GatewayEvent.sent, GatewayEvent.replies, Delivered]⟩ ran

/-! ## Times -/

/-- When the request of a sample arrived. -/
def startOf (m : MeteredGateway ρ) (k : ρ) : Time := (m.started.get? k).getD 0

/-- The times of the events of a request. -/
def timesOf (k : ρ) (events : List (Time × GatewayEvent ρ)) : List Time :=
  (events.filter fun event => event.2.request? = some k).map Prod.fst

/-- The clock does not go back between the events of a request. -/
def Chronological (events : List (Time × GatewayEvent ρ)) : Prop :=
  ∀ k, (timesOf k events).Pairwise (· ≤ ·)

theorem timesOf_concat_own {k : ρ} {event : Time × GatewayEvent ρ}
    (mine : event.2.request? = some k) (events : List (Time × GatewayEvent ρ)) :
    timesOf k (events ++ [event]) = timesOf k events ++ [event.1] := by
  simp [timesOf, mine]

theorem mem_timesOf_concat {k : ρ} {now : Time} {events : List (Time × GatewayEvent ρ)}
    (member : now ∈ timesOf k events) (event : Time × GatewayEvent ρ) :
    now ∈ timesOf k (events ++ [event]) := by
  rw [timesOf, List.filter_append, List.map_append]
  exact List.mem_append_left _ member

theorem Chronological.init {events : List (Time × GatewayEvent ρ)} {event : Time × GatewayEvent ρ}
    (chronological : Chronological (events ++ [event])) : Chronological events := by
  intro k
  have ordered := chronological k
  rw [timesOf, List.filter_append, List.map_append] at ordered
  exact (List.pairwise_append.mp ordered).1

theorem Chronological.late {events : List (Time × GatewayEvent ρ)} {event : Time × GatewayEvent ρ}
    (chronological : Chronological (events ++ [event])) {k : ρ}
    (mine : event.2.request? = some k) : ∀ now ∈ timesOf k events, now ≤ event.1 := by
  have ordered := chronological k
  rw [timesOf_concat_own mine] at ordered
  intro now member
  exact (List.pairwise_append.mp ordered).2.2 now member event.1 (List.mem_singleton_self _)

/-- A sample is the latency of a known request at the time of one of its events, under its
labels. -/
structure Taken (past : List (Time × GatewayEvent ρ)) (m : MeteredGateway ρ) (s : Sample ρ) :
    Prop where
  labelled : ∃ r, m.gateway.requests.get? s.request = some r ∧ s.tier = r.decision.tier.value ∧
    s.backend = r.decision.backendId
  at_time : ∃ now ∈ timesOf s.request past,
    m.startOf s.request ≤ now ∧ s.seconds = now - m.startOf s.request

/-- What holds of every reachable state while the clock does not go back. -/
structure Timed (past : List (Time × GatewayEvent ρ)) (m : MeteredGateway ρ) : Prop where
  started : ∀ k r, m.gateway.requests.get? k = some r →
    ∃ now ∈ timesOf k past, m.started.get? k = some now
  first : ∀ s ∈ m.ttftSeconds, Taken past m s
  last : ∀ s ∈ m.e2eSeconds, Taken past m s
  ended : ∀ s ∈ m.e2eSeconds, ∀ r, m.gateway.requests.get? s.request = some r → r.isOver = true
  once : ∀ k, (of k m.e2eSeconds).length ≤ 1
  ordered : ∀ s ∈ m.ttftSeconds, ∀ x ∈ m.e2eSeconds, s.request = x.request → s.seconds ≤ x.seconds

/-- A request that is known stays known, with its decision. -/
theorem kept_of_step {g h : Gateway ρ} {e : GatewayEvent ρ} (stepped : g.step e = some h) {k : ρ}
    {r : Request} (found : g.requests.get? k = some r) :
    ∃ r', h.requests.get? k = some r' ∧ r'.decision = r.decision := by
  have set : ∀ (j : ρ) (q : Request), ∃ r', (g.requests.set j q).get? k = some r' := by
    intro j q
    rw [Dict.get?_set]
    split
    · exact ⟨q, rfl⟩
    · exact ⟨r, found⟩
  have does := Gateway.does_of_step stepped
  obtain ⟨r', after⟩ : ∃ r', h.requests.get? k = some r' := by
    cases does with
    | refused => exact set _ _
    | arrived => exact set _ _
    | interrupted => exact ⟨r, found⟩
    | resumed => exact set _ _
    | moved => exact set _ _
    | ended => exact set _ _
    | status => exact ⟨r, found⟩
  refine ⟨r', after, ?_⟩
  rcases Gateway.selection_of_does does after with
    ⟨q, before, _, _, decision⟩ | ⟨input, decision, now, made, clock, rfl, _⟩
  · cases found.symm.trans before
    exact decision
  · simp [Gateway.step, found] at stepped

/-- The arrival of a request that is known is not taken again. -/
theorem started_of_step {event : Time × GatewayEvent ρ} (stepped : m.step event = some t) {k : ρ}
    {r : Request} (found : m.gateway.requests.get? k = some r) :
    t.started.get? k = m.started.get? k := by
  obtain ⟨gateway, inside, rfl⟩ := Option.map_eq_some_iff.mp stepped
  obtain ⟨now, e⟩ := event
  cases e with
  | arrive j input decision at_time made clock =>
      have differ : k ≠ j := by
        rintro rfl
        simp [Gateway.step, found] at inside
      exact Dict.get?_set_of_ne _ _ differ
  | _ => rfl

/-- A request that is new arrived with the step. -/
theorem started_of_fresh {event : Time × GatewayEvent ρ} (stepped : m.step event = some t) {k : ρ}
    {r : Request} (fresh : m.gateway.requests.get? k = none)
    (after : t.gateway.requests.get? k = some r) :
    event.2.request? = some k ∧ t.started.get? k = some event.1 := by
  obtain ⟨gateway, inside, rfl⟩ := Option.map_eq_some_iff.mp stepped
  obtain ⟨now, e⟩ := event
  rcases Gateway.selection_of_does (Gateway.does_of_step inside) after with
    ⟨q, before, _⟩ | ⟨input, decision, at_time, made, clock, rfl, _⟩
  · cases fresh.symm.trans before
  · exact ⟨rfl, Dict.get?_set_self ..⟩

/-- A sample stays what it is. -/
theorem taken_of_step {event : Time × GatewayEvent ρ} (stepped : m.step event = some t)
    {s : Sample ρ} (taken : Taken past m s) : Taken (past ++ [event]) t s := by
  obtain ⟨⟨r, found, tier, backend⟩, now, member, before, seconds⟩ := taken
  obtain ⟨r', after, decision⟩ := kept_of_step (parts_of_step stepped).1 found
  refine ⟨⟨r', after, by rw [decision, tier], by rw [decision, backend]⟩, now, ?_, ?_⟩
  · exact mem_timesOf_concat member event
  · rw [startOf, started_of_step stepped found]
    exact ⟨before, seconds⟩

omit [DecidableEq ρ] in
/-- The request of a reaction is not over. -/
theorem running_of_reacts {e : GatewayEvent ρ} {k : ρ} {r : Request} {stage : Stage}
    {delivered : List (List UInt8)} {labels : List RequestLabels}
    (reacts : Gateway.Reacts k r e stage delivered labels) : r.isOver = false := by
  unfold Request.isOver
  cases reacts with
  | letGo stage => rcases stage with stage | stage <;> rw [stage]
  | cancelled stage => rcases stage with stage | stage <;> rw [stage]
  | _ stage => rw [stage]

/-- A request that is over takes no further step. -/
theorem running_of_step {g h : Gateway ρ} {e : GatewayEvent ρ} {k : ρ} {r : Request}
    (stepped : g.step e = some h) (mine : e.request? = some k)
    (found : g.requests.get? k = some r) : r.isOver = false := by
  obtain ⟨q, labels, ownStep, _⟩ := Gateway.ownStep_of_step stepped mine
  cases ownStep with
  | refused fresh => cases fresh.symm.trans found
  | arrived fresh => cases fresh.symm.trans found
  | interrupted before waiting =>
      cases found.symm.trans before
      rw [Request.isOver, waiting]
  | resumed before waiting =>
      cases found.symm.trans before
      rw [Request.isOver, waiting]
  | reacts before reacts =>
      cases found.symm.trans before
      exact running_of_reacts reacts

/-- A request that succeeds is over. -/
theorem over_of_succeeds {g h : Gateway ρ} {e : GatewayEvent ρ} {k : ρ}
    (stepped : g.step e = some h)
    (mine : e.request? = some k) (succeeds : e.succeeds = true) :
    ∃ r, h.requests.get? k = some r ∧ r.isOver = true := by
  obtain ⟨q, labels, ownStep, found, _⟩ := Gateway.ownStep_of_step stepped mine
  refine ⟨q, found, ?_⟩
  cases ownStep with
  | refused => cases succeeds
  | arrived => cases succeeds
  | interrupted => cases succeeds
  | resumed => cases succeeds
  | reacts before reacts => cases reacts <;> first | rfl | cases succeeds

theorem mem_samples {now : Time} {e : GatewayEvent ρ} {s : Sample ρ}
    (member : s ∈ m.samples now e) : ∃ k r, e.request? = some k ∧
      m.gateway.requests.get? k = some r ∧ s = m.sampleAt now k r := by
  obtain ⟨k, mine, sampled⟩ := Option.bind_eq_some_iff.mp (Option.mem_toList.mp member)
  obtain ⟨r, found, rfl⟩ := Option.map_eq_some_iff.mp sampled
  exact ⟨k, r, mine, found, rfl⟩

theorem mem_append_ite {α : Type} {s : α} {old new : List α} {b : Bool}
    (member : s ∈ old ++ if b then new else []) : s ∈ old ∨ b = true ∧ s ∈ new := by
  cases b
  · exact .inl (by simpa using member)
  · exact (List.mem_append.mp member).imp_right fun added => ⟨rfl, added⟩

/-- A latency that is observed is that of its request. -/
theorem taken_of_samples {event : Time × GatewayEvent ρ} (timed : Timed past m)
    (chronological : Chronological (past ++ [event])) (stepped : m.step event = some t)
    {s : Sample ρ} (member : s ∈ m.samples event.1 event.2) : Taken (past ++ [event]) t s := by
  obtain ⟨k, r, mine, found, rfl⟩ := mem_samples member
  obtain ⟨r', after, decision⟩ := kept_of_step (parts_of_step stepped).1 found
  obtain ⟨start, earlier, started⟩ := timed.started k r found
  have since : t.startOf k = start := by
    rw [startOf, started_of_step stepped found, started]
    rfl
  refine ⟨⟨r', after, by rw [decision]; rfl, by rw [decision]; rfl⟩, event.1, ?_, ?_, ?_⟩
  · change event.1 ∈ timesOf k (past ++ [event])
    rw [timesOf_concat_own mine]
    exact List.mem_append_right _ (List.mem_singleton_self _)
  · change t.startOf k ≤ event.1
    rw [since]
    exact chronological.late mine start earlier
  · change event.1 - (m.started.get? k).getD 0 = event.1 - t.startOf k
    rw [since, started]
    rfl

/-- A latency that was observed before is not above one to the end that is observed now. -/
theorem le_of_samples {event : Time × GatewayEvent ρ}
    (chronological : Chronological (past ++ [event])) {s x : Sample ρ} (taken : Taken past m s)
    (member : x ∈ m.samples event.1 event.2) (same : s.request = x.request) :
    s.seconds ≤ x.seconds := by
  obtain ⟨k, r, mine, _, rfl⟩ := mem_samples member
  obtain ⟨now, earlier, _, seconds⟩ := taken.at_time
  have own : s.request = k := same
  rw [own] at earlier seconds
  rw [seconds]
  exact sub_le_sub_right (chronological.late mine now earlier) _

/-- Step lemma: what was observed stays what it is, and what is observed now is in order. -/
theorem timed_step {event : Time × GatewayEvent ρ} (timed : Timed past m)
    (chronological : Chronological (past ++ [event])) (stepped : m.step event = some t) :
    Timed (past ++ [event]) t := by
  obtain ⟨inside, firsts, lasts⟩ := parts_of_step stepped
  -- a request with a latency to the end takes no further step
  have unended : ∀ k, event.2.request? = some k → ∀ x ∈ m.e2eSeconds, x.request ≠ k := by
    rintro k mine x member rfl
    obtain ⟨r, found, _⟩ := (timed.last x member).labelled
    have running := running_of_step inside mine found
    rw [timed.ended x member r found] at running
    cases running
  refine ⟨?_, ?_, ?_, ?_, ?_, ?_⟩
  · intro k r after
    cases before : m.gateway.requests.get? k with
    | none =>
        obtain ⟨mine, started⟩ := started_of_fresh stepped before after
        refine ⟨event.1, ?_, started⟩
        rw [timesOf_concat_own mine]
        exact List.mem_append_right _ (List.mem_singleton_self _)
    | some q =>
        obtain ⟨now, member, started⟩ := timed.started k q before
        exact ⟨now, mem_timesOf_concat member event,
          (started_of_step stepped before).trans started⟩
  · intro s member
    rw [firsts] at member
    rcases mem_append_ite member with old | ⟨_, new⟩
    · exact taken_of_step stepped (timed.first s old)
    · exact taken_of_samples timed chronological stepped new
  · intro s member
    rw [lasts] at member
    rcases mem_append_ite member with old | ⟨_, new⟩
    · exact taken_of_step stepped (timed.last s old)
    · exact taken_of_samples timed chronological stepped new
  · intro s member r after
    rw [lasts] at member
    rcases mem_append_ite member with old | ⟨succeeds, new⟩
    · obtain ⟨q, before, _⟩ := (timed.last s old).labelled
      have ended := timed.ended s old q before
      cases after.symm.trans (Gateway.over_stays (Gateway.does_of_step inside) before ended)
      exact ended
    · obtain ⟨k, _, mine, _, rfl⟩ := mem_samples new
      obtain ⟨q, found, ended⟩ := over_of_succeeds inside mine succeeds
      cases after.symm.trans found
      exact ended
  · intro k
    rw [lasts, of, List.filter_append, List.length_append]
    by_cases mine : event.2.request? = some k
    · have none_yet : m.e2eSeconds.filter (fun s => s.request = k) = [] := by
        apply List.filter_eq_nil_iff.mpr
        intro x member own
        exact unended k mine x member (of_decide_eq_true own)
      rw [none_yet, List.length_nil, Nat.zero_add]
      refine (List.length_filter_le _ _).trans ?_
      split
      · rw [samples]
        cases event.2.request?.bind fun k => (m.gateway.requests.get? k).map (m.sampleAt event.1 k)
          <;> simp
      · exact Nat.zero_le _
    · have nothing : (if event.2.succeeds then m.samples event.1 event.2 else []).filter
          (fun s => s.request = k) = [] := by
        split
        · exact of_samples_other mine
        · rfl
      rw [nothing, List.length_nil, Nat.add_zero]
      exact timed.once k
  · intro s first x last same
    rw [firsts] at first
    rw [lasts] at last
    rcases mem_append_ite last with old | ⟨_, new⟩
    · rcases mem_append_ite first with before | ⟨_, now⟩
      · exact timed.ordered s before x old same
      · obtain ⟨k, _, mine, _, rfl⟩ := mem_samples now
        exact absurd same.symm (unended k mine x old)
    · rcases mem_append_ite first with before | ⟨_, now⟩
      · exact le_of_samples chronological (timed.first s before) new same
      · cases Option.mem_unique (Option.mem_toList.mp now) (Option.mem_toList.mp new)
        exact le_rfl

theorem timed_run {events : List (Time × GatewayEvent ρ)} (chronological : Chronological events)
    (ran : run step (new config) events = some m) : Timed events m := by
  have timed : Chronological events → Timed events m := by
    refine past_invariant
      (P := fun past (m : MeteredGateway ρ) => Chronological past → Timed past m) ?_ ?_ ran
    · intro past m event t timed stepped chronological
      exact timed_step (timed chronological.init) chronological stepped
    · intro _
      refine ⟨?_, ?_, ?_, ?_, fun _ => Nat.zero_le _, ?_⟩
      · intro k r found
        cases found
      · intro s member
        cases member
      · intro s member
        cases member
      · intro s member
        cases member
      · intro s member
        cases member
  exact timed chronological

/-- **Latencies.** The latencies to the end are those of the requests that are counted as
successes, at most one of a request. A request has one latency to the first token if its backend
delivered something, and else none. It is not negative, and where the request has also a latency to
the end, that is not below it and under the same labels. -/
theorem latencies_of_run {events : List (Time × GatewayEvent ρ)}
    (chronological : Chronological events) (ran : run step (new config) events = some m) :
    m.e2eSeconds.map successOf = m.gateway.requestsTotal.filter isSuccess ∧
      (∀ k, (of k m.e2eSeconds).length ≤ 1) ∧
      (∀ k, (of k m.ttftSeconds).length = if Delivered (eventsOf k events) then 1 else 0) ∧
      (∀ s ∈ m.ttftSeconds, 0 ≤ s.seconds) ∧
      ∀ s ∈ m.ttftSeconds, ∀ x ∈ m.e2eSeconds, s.request = x.request →
        s.seconds ≤ x.seconds ∧ s.tier = x.tier ∧ s.backend = x.backend := by
  have metered := metered_run ran
  have timed := timed_run chronological ran
  refine ⟨metered.ends, timed.once, metered.first, ?_, ?_⟩
  · intro s member
    obtain ⟨now, _, since, seconds⟩ := (timed.first s member).at_time
    rw [seconds]
    exact sub_nonneg.mpr since
  · intro s first x last same
    obtain ⟨r, found, tier, backend⟩ := (timed.first s first).labelled
    obtain ⟨q, again, tier', backend'⟩ := (timed.last x last).labelled
    rw [same] at found
    cases found.symm.trans again
    exact ⟨timed.ordered s first x last same, tier.trans tier'.symm, backend.trans backend'.symm⟩

/-- A stream of one session that is read to its end, by the clock. -/
def timedStream : List (Time × GatewayEvent Unit) := [
  (10, .arrive () (hello "s" true) (greeted .big "big-0") 0 0 AdmissionSystem.atStart),
  (10, .advance ()), (12, .chunk () [104, 105]), (12, .advance ()), (13, .upstreamEnds ())]

/-- The stream took two seconds to the first token, and three to the end. -/
theorem latencies_of_run_timedStream :
    ∃ m : MeteredGateway Unit, run step (new shippedConfig) timedStream = some m ∧
      (m.ttftSeconds.map Sample.seconds, m.e2eSeconds.map Sample.seconds) = ([2], [3]) ∧
      m.e2eSeconds.map successOf = m.gateway.requestsTotal.filter isSuccess ∧
      (∀ k, (of k m.e2eSeconds).length ≤ 1) ∧
      (∀ k, (of k m.ttftSeconds).length = if Delivered (eventsOf k timedStream) then 1 else 0) ∧
      (∀ s ∈ m.ttftSeconds, 0 ≤ s.seconds) ∧
      ∀ s ∈ m.ttftSeconds, ∀ x ∈ m.e2eSeconds, s.request = x.request →
        s.seconds ≤ x.seconds ∧ s.tier = x.tier ∧ s.backend = x.backend := by
  have chronological : Chronological timedStream := by
    intro k
    cases k
    decide +kernel
  have ends : ((run step (new shippedConfig) timedStream).map fun m : MeteredGateway Unit =>
      (m.ttftSeconds.map Sample.seconds, m.e2eSeconds.map Sample.seconds)) = some ([2], [3]) := by
    decide +kernel
  obtain ⟨m, ran, seconds⟩ := Option.map_eq_some_iff.mp ends
  exact ⟨m, ran, seconds, latencies_of_run chronological ran⟩

end MeteredGateway

end AgentServe
