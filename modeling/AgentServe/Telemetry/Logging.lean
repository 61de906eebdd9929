import AgentServe.Core.JsonLines

/-!
# Structured logging

Log records are written to the standard output, one JSON object on a line. The fields of a
record are its level, its logger, its message and its traceback, and the extra attributes
that were meant for it.

Messages may hold anything, line ends and quotes included. What is read from the output is
nevertheless the payloads of the records, one by one and in order. If the process dies while
it writes, no payload is read that was not written as a whole (`log_reads_back`).

No record is lost but for a reason: it is below the level, its message cannot be formatted,
or an integer of its context has too many digits for the encoder (`Leaves`).
-/

set_option autoImplicit false

namespace AgentServe

open Lib JsonText

/-- A log record. The message is formatted when it is asked for, which may raise. -/
structure LogRecord where
  levelno : ℕ
  levelname : String
  name : String
  message : Option String
  /-- The formatted traceback, if there is an exception. -/
  exc : Option String
  attributes : Dict String PyValue

/-- The name that an extra attribute has in the payload. -/
def contextKey? (key : String) : Option String :=
  if "ctx_".toList.isPrefixOf key.toList then some (String.ofList (key.toList.drop 4)) else none

namespace LogRecord

/-- The extra attributes that are meant for the payload. -/
def context (r : LogRecord) : List (String × PyValue) :=
  r.attributes.items.filterMap fun e => (contextKey? e.1).map fun key => (key, e.2)

/-- The fields that every record has, at a time. -/
def standard (r : LogRecord) (now message : String) : Dict String PyValue :=
  let fields := Dict.ofItems [("ts", .str now), ("level", .str r.levelname),
    ("logger", .str r.name), ("msg", .str message)]
  match r.exc with
  | some text => fields.set "exc" (.str text)
  | none => fields

def payload (r : LogRecord) (now message : String) : Dict String PyValue :=
  r.context.foldl (fun d e => d.set e.1 e.2) (r.standard now message)

/-- The payload of a record that can be written, and its text. -/
def shown (codec : JsonCodec) (now : String) (r : LogRecord) :
    Option (Dict String PyValue × List Char) := do
  let message ← r.message
  let text ← dumps codec.floats (.dict (r.payload now message).items)
  return (r.payload now message, text)

/-- Render a record. -/
def format (codec : JsonCodec) (now : String) (r : LogRecord) : Option (List Char) :=
  (r.shown codec now).map Prod.snd

end LogRecord

/-- What the handler of the root logger writes of records that are logged one after the other. A
record below the level, or one that cannot be rendered, is not written. -/
def logStream (codec : JsonCodec) (level : ℕ) (records : List (String × LogRecord)) : List Char :=
  terminated '\n' ((records.filter fun e => level ≤ e.2.levelno).filterMap fun e =>
    e.2.format codec e.1)

/-- The payloads that are written. -/
def logged (codec : JsonCodec) (level : ℕ) (records : List (String × LogRecord)) :
    List (Dict String PyValue) :=
  ((records.filter fun e => level ≤ e.2.levelno).filterMap fun e => e.2.shown codec e.1).map
    Prod.fst

/-! ## Fields -/

theorem contextKey?_eq_some_iff {key name : String} :
    contextKey? key = some name ↔ key = "ctx_" ++ name := by
  unfold contextKey?
  constructor
  · intro found
    split at found
    · rename_i begins
      cases found
      obtain ⟨rest, same⟩ := List.isPrefixOf_iff_prefix.mp begins
      apply String.toList_inj.mp
      simp only [String.toList_append, String.toList_ofList, ← same]
      rfl
    · cases found
  · rintro rfl
    have begins : "ctx_".toList.isPrefixOf ("ctx_" ++ name).toList = true := by
      rw [String.toList_append]
      exact List.isPrefixOf_iff_prefix.mpr (List.prefix_append _ _)
    rw [if_pos begins]
    apply congrArg some
    apply String.toList_inj.mp
    rw [String.toList_ofList, String.toList_append]
    rfl

namespace LogRecord

theorem mem_context_iff {r : LogRecord} {name : String} {v : PyValue} :
    (name, v) ∈ r.context ↔ r.attributes.get? ("ctx_" ++ name) = some v := by
  rw [context, List.mem_filterMap, ← Dict.mem_items_iff]
  constructor
  · rintro ⟨e, member, promoted⟩
    obtain ⟨key, named, same⟩ := Option.map_eq_some_iff.mp promoted
    cases same
    rw [← contextKey?_eq_some_iff.mp named]
    exact member
  · intro member
    exact ⟨_, member, by rw [contextKey?_eq_some_iff.mpr rfl, Option.map_some]⟩

theorem nodup_context (r : LogRecord) : (r.context.map Prod.fst).Nodup := by
  have names : r.context.map Prod.fst = r.attributes.keys.filterMap contextKey? := by
    rw [context, Dict.keys, List.map_filterMap, List.filterMap_map]
    apply List.filterMap_congr
    intro e _
    simp [Option.map_map, Function.comp_def]
  rw [names]
  apply r.attributes.nodup_keys.filterMap
  intro key other name first second
  rw [contextKey?_eq_some_iff.mp first, contextKey?_eq_some_iff.mp second]

/-- An extra attribute takes the place of the field of its name. -/
theorem get?_payload (r : LogRecord) (now message key : String) :
    (r.payload now message).get? key =
      (r.attributes.get? ("ctx_" ++ key)).or ((r.standard now message).get? key) := by
  rw [payload, Dict.get?_foldl_set r.nodup_context]
  congr 1
  have found : ∀ v, (Dict.mk r.context r.nodup_context).get? key = some v ↔
      r.attributes.get? ("ctx_" ++ key) = some v := by
    intro v
    rw [← mem_context_iff, ← Dict.mem_items_iff]
  exact Option.ext fun v => found v

/-- The standard fields, by their names. -/
theorem get?_standard (r : LogRecord) (now message key : String) :
    (r.standard now message).get? key =
      if key = "exc" then r.exc.map .str
      else if key = "msg" then some (.str message)
      else if key = "logger" then some (.str r.name)
      else if key = "level" then some (.str r.levelname)
      else if key = "ts" then some (.str now)
      else none := by
  unfold standard
  cases raised : r.exc with
  | some text => simp [Dict.ofItems, Dict.get?_set]
  | none =>
      by_cases named : key = "exc"
      · simp [Dict.ofItems, Dict.get?_set, named]
      · simp [Dict.ofItems, Dict.get?_set, named]

theorem str_of_standard {r : LogRecord} {now message key : String} {v : PyValue}
    (found : (r.standard now message).get? key = some v) : ∃ s, v = .str s := by
  rw [get?_standard] at found
  split_ifs at found
  · obtain ⟨text, _, same⟩ := Option.map_eq_some_iff.mp found
    exact ⟨text, same.symm⟩
  all_goals exact ⟨_, (Option.some.inj found).symm⟩

/-! ## Reading the log -/

/-- The values of the context can be written and read back. -/
def Readable (codec : JsonCodec) (r : LogRecord) : Prop :=
  ∀ e ∈ r.context, ∀ depth, codec.depth = depth + 2 → Fits codec.floats (depth + 1) e.2

theorem fits_payload {codec : JsonCodec} {depth : ℕ} (deep : codec.depth = depth + 2)
    {r : LogRecord} (readable : r.Readable codec) (now message : String) :
    Fits codec.floats codec.depth (.dict (r.payload now message).items) := by
  rw [deep]
  refine ⟨(r.payload now message).nodup, ?_⟩
  intro e member
  have found := Dict.mem_items_iff.mp member
  rw [get?_payload] at found
  rcases Option.or_eq_some_iff.mp found with promoted | ⟨_, field⟩
  · exact readable e (mem_context_iff.mpr promoted) depth deep
  · obtain ⟨s, same⟩ := str_of_standard field
    rw [same]
    trivial

/-- A record that is written is read back from its line. -/
theorem of_shown {codec : JsonCodec} (deep : 2 ≤ codec.depth) {r : LogRecord}
    (readable : r.Readable codec) {now : String} {payload : Dict String PyValue}
    {text : List Char} (shown : r.shown codec now = some (payload, text)) :
    IsLine '\n' (loads codec.floats codec.depth) text ∧
      loads codec.floats codec.depth text = some (.dict payload.items) := by
  obtain ⟨depth, deeper⟩ : ∃ depth, codec.depth = depth + 2 := ⟨codec.depth - 2, by omega⟩
  obtain ⟨message, _, rest⟩ := Option.bind_eq_some_iff.mp shown
  obtain ⟨written, dumped, same⟩ := Option.bind_eq_some_iff.mp rest
  cases same
  have fits := fits_payload deeper readable now message
  exact ⟨isLine_dumps fits dumped, loads_dumps fits dumped⟩

/-! ## What is written -/

/-- Only integers with too many digits keep a payload from having a text. -/
theorem hasText_payload_iff (r : LogRecord) (now message : String) :
    HasText (.dict (r.payload now message).items) ↔
      ∀ name v, r.attributes.get? ("ctx_" ++ name) = some v → HasText v := by
  constructor
  · intro has_text name v promoted
    cases has_text with
    | dict all =>
        refine all (name, v) (Dict.mem_items_iff.mpr ?_)
        rw [get?_payload, promoted, Option.some_or]
  · intro short
    refine .dict fun e member => ?_
    have found := Dict.mem_items_iff.mp member
    rw [get?_payload] at found
    rcases Option.or_eq_some_iff.mp found with promoted | ⟨_, field⟩
    · exact short e.1 e.2 promoted
    · obtain ⟨s, same⟩ := str_of_standard field
      rw [same]
      exact .str s

/-- A record whose message is formatted is written, if its context can be. -/
theorem shown_of_formatted (codec : JsonCodec) {r : LogRecord} (now : String) {message : String}
    (formatted : r.message = some message)
    (short : ∀ name v, r.attributes.get? ("ctx_" ++ name) = some v → HasText v) :
    ∃ text, r.shown codec now = some (r.payload now message, text) := by
  obtain ⟨text, dumped⟩ : ∃ text, dumps codec.floats _ = some text :=
    exists_dumps_iff.mpr ((hasText_payload_iff r now message).mpr short)
  exact ⟨text, by simp [shown, formatted, dumped]⟩

/-- A record with a value in its context that has no text is not written. -/
theorem shown_of_long {codec : JsonCodec} {r : LogRecord} {now name : String} {v : PyValue}
    (promoted : r.attributes.get? ("ctx_" ++ name) = some v) (long : ¬ HasText v) :
    r.shown codec now = none := by
  by_contra shown
  obtain ⟨⟨payload, text⟩, written⟩ := Option.ne_none_iff_exists'.mp shown
  obtain ⟨message, _, rest⟩ := Option.bind_eq_some_iff.mp written
  obtain ⟨dump, dumped, _⟩ := Option.bind_eq_some_iff.mp rest
  have has_text := exists_dumps_iff.mp ⟨dump, dumped⟩
  exact long ((hasText_payload_iff r now message).mp has_text name v promoted)

end LogRecord

/-- What a record that is logged at a time leaves in the log: its payload, but for a reason. -/
inductive Leaves (level : ℕ) : String × LogRecord → List (Dict String PyValue) → Prop where
  | payload {now : String} {r : LogRecord} {message : String} (reaches : level ≤ r.levelno)
    (formatted : r.message = some message)
    (short : ∀ name v, r.attributes.get? ("ctx_" ++ name) = some v → HasText v) :
    Leaves level (now, r) [r.payload now message]
  | below {now : String} {r : LogRecord} (below : r.levelno < level) : Leaves level (now, r) []
  | unformatted {now : String} {r : LogRecord} (raises : r.message = none) :
    Leaves level (now, r) []
  | long {now name : String} {r : LogRecord} {v : PyValue}
    (promoted : r.attributes.get? ("ctx_" ++ name) = some v) (long : ¬ HasText v) :
    Leaves level (now, r) []

/-- Step lemma: a record that is logged first leaves its part of the log first. -/
theorem leaves_cons (codec : JsonCodec) (level : ℕ) (now : String) (r : LogRecord)
    (records : List (String × LogRecord)) :
    ∃ part, Leaves level (now, r) part ∧
      logged codec level ((now, r) :: records) = part ++ logged codec level records := by
  by_cases reaches : level ≤ r.levelno
  · cases formatted : r.message with
    | none =>
        have shown : r.shown codec now = none := by rw [LogRecord.shown, formatted]; rfl
        exact ⟨[], .unformatted formatted, by simp [logged, reaches, shown]⟩
    | some message =>
        by_cases short : ∀ name v, r.attributes.get? ("ctx_" ++ name) = some v → HasText v
        · obtain ⟨text, shown⟩ := LogRecord.shown_of_formatted codec now formatted short
          exact ⟨_, .payload reaches formatted short, by simp [logged, reaches, shown]⟩
        · push Not at short
          obtain ⟨name, v, promoted, long⟩ := short
          have shown : r.shown codec now = none := LogRecord.shown_of_long promoted long
          exact ⟨[], .long promoted long, by simp [logged, reaches, shown]⟩
  · exact ⟨[], .below (Nat.lt_of_not_le reaches), by simp [logged, reaches]⟩

/-- The log is what the records leave, one after the other. -/
theorem leaves_logged (codec : JsonCodec) (level : ℕ) (records : List (String × LogRecord)) :
    ∃ parts, List.Forall₂ (Leaves level) records parts ∧
      logged codec level records = parts.flatten := by
  induction records with
  | nil => exact ⟨[], .nil, rfl⟩
  | cons e rest ih =>
      obtain ⟨parts, each, whole⟩ := ih
      obtain ⟨part, leaves, split⟩ := leaves_cons codec level e.1 e.2 rest
      exact ⟨part :: parts, .cons leaves each, by rw [split, whole, List.flatten_cons]⟩

/-- The laws of the log. -/
structure LogLaws (codec : JsonCodec) (level : ℕ) (records : List (String × LogRecord)) :
    Prop where
  /-- What is read of the log is the payloads, in order. -/
  whole : readLines '\n' (loads codec.floats codec.depth) (logStream codec level records) =
    (logged codec level records).map fun payload => .dict payload.items
  /-- If the log ends anywhere, it is the first payloads, and no line that was ended is missing. -/
  cut : ∀ first, first <+: logStream codec level records →
    ∃ n, readLines '\n' (loads codec.floats codec.depth) first =
        ((logged codec level records).take n).map (fun payload => .dict payload.items) ∧
      first.count '\n' ≤ n ∧ n ≤ first.count '\n' + 1
  /-- No payload is missing, and no other is there. -/
  complete : ∃ parts, List.Forall₂ (Leaves level) records parts ∧
    logged codec level records = parts.flatten
  /-- The standard fields are the time, the level, the logger and the message, and the traceback
  if there is one. -/
  standard : ∀ e ∈ records, ∀ message key, (e.2.standard e.1 message).get? key =
    if key = "exc" then e.2.exc.map .str
    else if key = "msg" then some (.str message)
    else if key = "logger" then some (.str e.2.name)
    else if key = "level" then some (.str e.2.levelname)
    else if key = "ts" then some (.str e.1)
    else none
  /-- An extra attribute takes the place of the standard field of its name, and the other fields
  are as they are. -/
  fields : ∀ e ∈ records, ∀ message key, (e.2.payload e.1 message).get? key =
    (e.2.attributes.get? ("ctx_" ++ key)).or ((e.2.standard e.1 message).get? key)

/-- **The log reads back.** Whatever records are logged, with whatever messages, tracebacks and
context, their payloads are what is read from the lines of the log, and only those are missing
that are below the level or cannot be rendered. -/
theorem log_reads_back (codec : JsonCodec) (deep : 2 ≤ codec.depth) (level : ℕ)
    (records : List (String × LogRecord)) (readable : ∀ e ∈ records, e.2.Readable codec) :
    LogLaws codec level records := by
  obtain ⟨entries, listed⟩ : ∃ entries, entries =
      (records.filter fun e => level ≤ e.2.levelno).filterMap fun e => e.2.shown codec e.1 :=
    ⟨_, rfl⟩
  have stream : logStream codec level records = terminated '\n' (entries.map Prod.snd) := by
    rw [logStream, listed, List.map_filterMap]
    rfl
  have each : ∀ entry ∈ entries, IsLine '\n' (loads codec.floats codec.depth) entry.2 ∧
      loads codec.floats codec.depth entry.2 = some (.dict entry.1.items) := by
    intro entry member
    rw [listed] at member
    obtain ⟨e, inside, shown⟩ := List.mem_filterMap.mp member
    exact LogRecord.of_shown deep (readable e (List.mem_of_mem_filter inside)) shown
  have lines : ∀ w ∈ entries.map Prod.snd, IsLine '\n' (loads codec.floats codec.depth) w := by
    intro w member
    obtain ⟨entry, inside, rfl⟩ := List.mem_map.mp member
    exact (each entry inside).1
  have decoded : ∀ some_entries : List (Dict String PyValue × List Char),
      (∀ entry ∈ some_entries, entry ∈ entries) →
      (some_entries.map Prod.snd).filterMap (loads codec.floats codec.depth) =
        (some_entries.map Prod.fst).map fun payload => .dict payload.items := by
    intro some_entries inside
    rw [List.filterMap_map, List.map_map, ← List.filterMap_eq_map]
    apply List.filterMap_congr
    intro entry member
    exact (each entry (inside entry member)).2
  have blank := loads_nil codec.floats codec.depth
  refine ⟨?_, ?_, leaves_logged codec level records, fun e _ message key =>
    e.2.get?_standard e.1 message key, fun e _ message key => e.2.get?_payload e.1 message key⟩
  · rw [stream, readLines_terminated blank fun w member => (lines w member).solid,
      decoded entries fun _ member => member, logged, listed]
  · intro first cut
    rw [stream] at cut
    obtain ⟨n, read, counted⟩ := readLines_of_prefix blank lines cut
    refine ⟨n, ?_, counted⟩
    rw [read, ← List.map_take, decoded _ fun _ member => List.mem_of_mem_take member, logged,
      ← listed, List.map_take]

/-- A record with a line end and a quote in its message, and with a field of its own for the
level. -/
def forgedRecord : LogRecord where
  levelno := 40
  levelname := "ERROR"
  name := "agent_serve.gateway.routes.chat"
  message := some "unhandled error for session a\n\x7b\"level\": \"INFO\"\x7d"
  exc := none
  attributes := ⟨[("args", .none), ("ctx_level", .str "high")], by decide⟩

/-- The record is still one line. -/
theorem log_reads_back_forgedRecord :
    LogLaws ⟨wholeFloats, 100⟩ 20 [("2024-05-01T12:00:00+00:00", forgedRecord)] := by
  apply log_reads_back ⟨wholeFloats, 100⟩ (by decide)
  intro e member
  rw [List.mem_singleton.mp member]
  intro field inside depth _
  have context : forgedRecord.context = [("level", .str "high")] := rfl
  rw [context] at inside
  rw [List.mem_singleton.mp inside]
  exact trivial

end AgentServe
