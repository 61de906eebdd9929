import AgentServe.Gateway.Answers
import AgentServe.Lib.EventStream

/-!
# What the client of a stream reads

A stream hands on the chunks of its backend, and a last event `[DONE]` of its own when the backend
fails. It does not look at what it hands on: where a chunk ends, whether an event is complete, or
whether the backend has sent its own last event.

So the client reads complete events, the last of them the only `[DONE]`, exactly if the backend has
sent just that, or fails between two events and before its own `[DONE]`, or fails where the last
event of the stream is lost and its own `[DONE]` is there (`stream_wellFormed_iff`). How the bytes
are cut into chunks does not matter, and blocks of comments are no events.
-/

set_option autoImplicit false

namespace AgentServe

open Lib GatewayEvent EventStream

/-- `[DONE]`. -/
def doneText : List UInt8 := [91, 68, 79, 78, 69, 93]

/-- An event whose data is `[DONE]`. -/
def IsDone (event : Block) : Prop := data event = doneText

/-- Bytes are read as complete events, the first ones complete events of a backend, and the last
one the only `[DONE]`. Every block of lines is ended by its empty line. -/
structure Completes (upstream delivered : List UInt8) (first : List Block) (last : Block) :
    Prop where
  events : (read delivered).events = first ++ [last]
  finished : (read delivered).line = [] ∧ (read delivered).block = []
  upstream : first <+: (read upstream).events
  done : IsDone last
  once : ∀ event ∈ first, ¬ IsDone event

/-- A stream is well formed for its backend. -/
def WellFormed (upstream delivered : List UInt8) : Prop :=
  ∃ first last, Completes upstream delivered first last

/-- The last of some events is the only `[DONE]`. -/
def OnlyLastDone (events : List Block) : Prop :=
  ∃ first last, events = first ++ [last] ∧ IsDone last ∧ ∀ event ∈ first, ¬ IsDone event

/-- A backend sends complete events, the last of them the only `[DONE]`. -/
def EndsWithDone (bytes : List UInt8) : Prop :=
  OnlyLastDone (read bytes).events ∧ (read bytes).line = [] ∧ (read bytes).block = []

/-- A backend stops before its own `[DONE]` is complete, and at the start of a line of a block that
has no data so far. -/
def StopsBetweenEvents (bytes : List UInt8) : Prop :=
  (∀ event ∈ (read bytes).events, ¬ IsDone event) ∧ (read bytes).line = [] ∧
    dataValues (read bytes).block = []

/-- A backend stops in a line that is not data, not even with the last event of the stream after it.
It is a line of its own `[DONE]`, or a line of a block without data after its `[DONE]`. -/
def StopsAtOwnDone (bytes : List UInt8) : Prop :=
  (read bytes).line ≠ [] ∧ dataValue? ((read bytes).line ++ dataLine doneText) = none ∧
    OnlyLastDone ((read bytes).events ++ dispatched (read bytes).block)

theorem doneEvent_eq : doneEvent = dataLine doneText ++ [lf, lf] := by
  decide +kernel

/-- What the last event adds to what was read. -/
theorem read_append_doneEvent (bytes : List UInt8) :
    read (bytes ++ doneEvent) =
      { events := (read bytes).events ++
          dispatched ((read bytes).block ++ [(read bytes).line ++ dataLine doneText]) } := by
  rw [doneEvent_eq]
  exact read_append_line bytes (by decide) (by decide +kernel)

/-- The last event is read as `[DONE]` when it starts a line of a block without data. -/
theorem isDone_last_iff {block : Block} {line value : List UInt8}
    (field : dataValue? (line ++ dataLine doneText) = some value) :
    IsDone (block ++ [line ++ dataLine doneText]) ↔ line = [] ∧ dataValues block = [] := by
  by_cases empty : dataValues block = []
  · rw [IsDone, data_concat_of_nil field empty, and_iff_left empty]
    constructor
    · intro same
      by_contra unfinished
      have long := length_of_dataValue? unfinished field
      rw [same] at long
      exact lt_irrefl _ long
    · rintro rfl
      exact Option.some.inj (field.symm.trans (dataValue?_dataLine doneText))
  · refine iff_of_false ?_ fun both => empty both.2
    intro same
    have longer := length_data_concat field empty
    rw [show data (block ++ [line ++ dataLine doneText]) = doneText from same] at longer
    by_cases fresh : line = []
    · subst fresh
      cases field.symm.trans (dataValue?_dataLine doneText)
      exact lt_irrefl _ longer
    · exact lt_asymm longer (length_of_dataValue? fresh field)

theorem onlyLastDone_concat (events : List Block) (last : Block) :
    OnlyLastDone (events ++ [last]) ↔ IsDone last ∧ ∀ event ∈ events, ¬ IsDone event := by
  constructor
  · rintro ⟨first, other, same, done, once⟩
    obtain ⟨rfl, rest⟩ := List.append_inj' same rfl
    cases rest
    exact ⟨done, once⟩
  · rintro ⟨done, once⟩
    exact ⟨events, last, rfl, done, once⟩

/-- A line that is no data changes no event. -/
theorem onlyLastDone_dispatched_concat {line : List UInt8} (other : dataValue? line = none)
    (events : List Block) (block : Block) :
    OnlyLastDone (events ++ dispatched (block ++ [line])) ↔
      OnlyLastDone (events ++ dispatched block) := by
  have values := dataValues_concat_of_none other block
  by_cases empty : dataValues block = []
  · rw [dispatched, dispatched, values, if_pos empty, if_pos empty]
  · have same : data (block ++ [line]) = data block := by rw [data, data, values]
    rw [dispatched, dispatched, values, if_neg empty, if_neg empty, onlyLastDone_concat,
      onlyLastDone_concat, IsDone, IsDone, same]

/-- The last event of a stream is the only `[DONE]` that a client reads if it is added between two
events, or if it is lost in a line and the backend's own is there. -/
theorem onlyLastDone_iff (events : List Block) (block : Block) (line : List UInt8) :
    OnlyLastDone (events ++ dispatched (block ++ [line ++ dataLine doneText])) ↔
      (∀ event ∈ events, ¬ IsDone event) ∧ line = [] ∧ dataValues block = [] ∨
        line ≠ [] ∧ dataValue? (line ++ dataLine doneText) = none ∧
          OnlyLastDone (events ++ dispatched block) := by
  cases field : dataValue? (line ++ dataLine doneText) with
  | some value =>
      rw [dispatched_concat field, onlyLastDone_concat, isDone_last_iff field]
      simp only [reduceCtorEq, false_and, and_false, or_false]
      exact and_comm
  | none =>
      have unfinished : line ≠ [] := by
        rintro rfl
        cases field.symm.trans (dataValue?_dataLine doneText)
      rw [onlyLastDone_dispatched_concat field]
      simp only [unfinished, false_and, and_false, false_or, ne_eq, not_false_eq_true, true_and]

/-- The bytes of a backend that fails, with the last event after them. -/
theorem wellFormed_of_failure {upstream bytes : List UInt8} (before : bytes <+: upstream) :
    WellFormed upstream (bytes ++ doneEvent) ↔
      StopsBetweenEvents bytes ∨ StopsAtOwnDone bytes := by
  have reads := read_append_doneEvent bytes
  have events : (read (bytes ++ doneEvent)).events = (read bytes).events ++
      dispatched ((read bytes).block ++ [(read bytes).line ++ dataLine doneText]) := by rw [reads]
  refine Iff.trans ?_ (onlyLastDone_iff (read bytes).events (read bytes).block (read bytes).line)
  rw [← events]
  constructor
  · rintro ⟨first, last, formed⟩
    exact ⟨first, last, formed.events, formed.done, formed.once⟩
  · rintro ⟨first, last, same, done, once⟩
    obtain ⟨rest, rfl⟩ := before
    refine ⟨first, last, same, by rw [reads]; exact ⟨rfl, rfl⟩, ?_, done, once⟩
    -- The client reads at most one event that the backend has not completed, and that is the last.
    have short : first.length ≤ (read bytes).events.length := by
      have lengths := congrArg List.length (events.symm.trans same)
      have one : (dispatched
          ((read bytes).block ++ [(read bytes).line ++ dataLine doneText])).length ≤ 1 := by
        unfold dispatched
        split <;> simp
      simp only [List.length_append, List.length_singleton] at lengths
      omega
    have own : first <+: (read bytes).events :=
      List.prefix_of_prefix_length_le ⟨[last], same.symm⟩ ⟨_, events.symm⟩ short
    exact own.trans (events_kept bytes rest)

/-- The bytes of a backend that does not fail. -/
theorem wellFormed_of_end {bytes : List UInt8} :
    WellFormed bytes bytes ↔ EndsWithDone bytes := by
  constructor
  · rintro ⟨first, last, formed⟩
    exact ⟨⟨first, last, formed.events, formed.done, formed.once⟩, formed.finished⟩
  · rintro ⟨⟨first, last, events, done, once⟩, finished⟩
    exact ⟨first, last, events, finished, events ▸ List.prefix_append _ _, done, once⟩

namespace Gateway

variable {ρ : Type} [DecidableEq ρ]

/-- **When the client reads complete events.** Whatever a backend sends, and however it is cut into
chunks: if the backend fails, the client of a stream that was read to its end reads complete events
of the backend and one `[DONE]`, the last, exactly if the backend stops between two events and
before its own `[DONE]`, or where the added event is lost and its own `[DONE]` is there. If it does
not fail, exactly if that is what the backend has sent. -/
theorem stream_wellFormed_iff (config : GatewayConfig) (events : List (GatewayEvent ρ))
    (g : Gateway ρ) (ran : run step (new config) events = some g) (k : ρ) (r : Request)
    (found : g.requests.get? k = some r) (ended : r.stage = .over .streamed)
    (upstream : List UInt8) :
    (failed (ownEvents k events) = true → (sent (ownEvents k events)).flatten <+: upstream →
      (WellFormed upstream r.delivered.flatten ↔
        StopsBetweenEvents (sent (ownEvents k events)).flatten ∨
          StopsAtOwnDone (sent (ownEvents k events)).flatten)) ∧
    (failed (ownEvents k events) = false → (sent (ownEvents k events)).flatten = upstream →
      (WellFormed upstream r.delivered.flatten ↔ EndsWithDone upstream)) := by
  have course := (accounted_run ran k).course r found
  rw [ended] at course
  have streamed : Streamed (g.admission.tickets.get? k) (ownEvents k events) r := course
  have delivered := streamed.delivered
  constructor
  · intro failed before
    rw [if_pos failed] at delivered
    rw [delivered, List.flatten_append, List.flatten_singleton]
    exact wellFormed_of_failure before
  · rintro steady rfl
    rw [steady] at delivered
    simp only [Bool.false_eq_true, if_false, List.append_nil] at delivered
    rw [delivered]
    exact wellFormed_of_end

/-! ## A backend that fails in the middle of an event -/

/-- An event, cut in the middle. -/
def cutEvent : List UInt8 := "data: hel".toList.flatMap String.utf8EncodeChar

/-- A stream whose backend fails in an event. -/
def cutStream : List (GatewayEvent ℕ) := [
  .arrive 0 (hello "s" true) (greeted .big "big-0") 0 0 AdmissionSystem.atStart, .advance 0,
  .chunk 0 cutEvent, .advance 0, .upstreamFails 0, .advance 0]

/-- The end of a stream. -/
def isStreamEnd : Stage → Bool
  | .over .streamed => true
  | _ => false

theorem eq_of_isStreamEnd {stage : Stage} (ended : isStreamEnd stage = true) :
    stage = .over .streamed := by
  unfold isStreamEnd at ended
  split at ended
  · rfl
  · cases ended

theorem cutStream_ended :
    ∃ (g : Gateway ℕ) (r : Request), run step (new shippedConfig) cutStream = some g ∧
      g.requests.get? 0 = some r ∧ r.stage = .over .streamed ∧
      r.delivered.flatten = cutEvent ++ doneEvent := by
  have ended : ((run step (new shippedConfig) cutStream).bind fun g =>
      (g.requests.get? 0).map fun r => (r.delivered.flatten, isStreamEnd r.stage)) =
        some (cutEvent ++ doneEvent, true) := by
    decide +kernel
  obtain ⟨g, r, ran, found, shown⟩ := request_of_eval ended
  obtain ⟨delivered, stage⟩ := Prod.mk.inj shown
  exact ⟨g, r, ran, found, eq_of_isStreamEnd stage, delivered⟩

/-- The client reads one event, which is no `[DONE]`. -/
theorem cut_event_swallows_done :
    ¬ ∀ (config : GatewayConfig) (events : List (GatewayEvent ℕ)) (g : Gateway ℕ),
      run step (new config) events = some g → ∀ (k : ℕ) (r : Request),
        g.requests.get? k = some r → r.stage = .over .streamed → ∀ upstream : List UInt8,
          (sent (ownEvents k events)).flatten <+: upstream →
            WellFormed upstream r.delivered.flatten := by
  intro always
  obtain ⟨g, r, ran, found, ended, delivered⟩ := cutStream_ended
  obtain ⟨first, last, formed⟩ :=
    always shippedConfig cutStream g ran 0 r found ended cutEvent List.prefix_rfl
  rw [delivered] at formed
  have events : (read (cutEvent ++ doneEvent)).events = [[cutEvent ++ dataLine doneText]] := by
    decide +kernel
  have only : first ++ [last] = [] ++ [[cutEvent ++ dataLine doneText]] :=
    formed.events.symm.trans events
  obtain ⟨_, same⟩ := List.append_inj' only rfl
  cases same
  have no_done : data [cutEvent ++ dataLine doneText] ≠ doneText := by decide +kernel
  exact no_done formed.done

/-- The condition for the stream that is cut. -/
theorem stream_wellFormed_iff_for_cut_event :
    ∃ (g : Gateway ℕ) (r : Request), run step (new shippedConfig) cutStream = some g ∧
      g.requests.get? 0 = some r ∧
      (WellFormed cutEvent r.delivered.flatten ↔
        StopsBetweenEvents cutEvent ∨ StopsAtOwnDone cutEvent) := by
  obtain ⟨g, r, ran, found, ended, _⟩ := cutStream_ended
  exact ⟨g, r, ran, found,
    (stream_wellFormed_iff shippedConfig cutStream g ran 0 r found ended cutEvent).1 rfl
      List.prefix_rfl⟩

end Gateway

end AgentServe
