import AgentServe.Core.JsonRoundTrip
import AgentServe.Lib.Csv
import AgentServe.Lib.Lists
import AgentServe.LoadGen.Runner

/-!
# The study of a load

The rows of a load are written to a file, and the study reads the file, keeps the rows
with the status of a success, and summarises them: how many there are, on which tiers,
how often the scheduler kept a session in its place, and percentiles of their times.

The numbers are read from texts that the generator wrote. What the study says of a file
is what it would say of the rows themselves (`study_of_rows`). It says nothing of turns
that failed. A file is only written if there are rows, so a load without rows leaves the
file of an earlier load to the study.

A percentile is a value of the list. No more than its share of the values are below it,
and more than its share are not above it (`pct_spec`).
-/

set_option autoImplicit false

namespace AgentServe

open Lib JsonText

/-! ## Texts -/

/-- The text of a Boolean. -/
def boolText (b : Bool) : List Char := if b then "True".toList else "False".toList

namespace ResultRow

/-- The names of the fields, in order. -/
def names : List (List Char) := [
  "request_id".toList, "session_id".toList, "agent_id".toList, "tier".toList,
  "backend_id".toList, "ttft_ms".toList, "e2e_ms".toList, "input_tokens".toList,
  "output_tokens".toList, "affinity_hit".toList, "status_code".toList, "timestamp_iso".toList,
  "profile".toList]

/-- The texts of the fields. -/
def texts (floats : FloatText) (row : ResultRow) : List (List Char) := [
  row.requestId.toList, row.sessionId.toList, row.agentId.toList, row.tier.toList,
  row.backendId.toList, floats.shown row.ttftMs, floats.shown row.e2eMs,
  intText row.inputTokens, intText row.outputTokens, boolText row.affinityHit,
  intText row.statusCode, row.timestampIso.toList, row.profile.toList]

/-- Write a file with a header, if there are rows. -/
def writeFile (floats : FloatText) (rows : List ResultRow) (file : Option (List Char)) :
    Option (List Char) :=
  if rows = [] then file else some (writeCsv (names :: rows.map (texts floats)))

end ResultRow

/-! ## The study -/

namespace Study

/-- A longer field is refused. -/
def fieldSizeLimit : ℕ := 131072

/-- The records of a file with the status of a success. -/
def readCsvOk : Option (List Char) → Option (List CsvRow)
  | none => some []
  | some file => (readDicts fieldSizeLimit file).map fun rows =>
    rows.filter fun r => r.values.get? "status_code".toList = some (some "200".toList)

/-- The value at a share of the sorted values, in percent. -/
def pct (vals : List ℚ) (p : ℕ) : ℚ :=
  (vals.mergeSort fun x y => x ≤ y).getD (min (vals.length * p / 100) (vals.length - 1)) 0

/-- What the study uses of a row. -/
structure Measured where
  tier : List Char
  e2eMs : ℚ
  affinityHit : Bool

structure Summary where
  n : ℕ
  tiers : List String
  p50Ms : ℚ
  p95Ms : ℚ
  p99Ms : ℚ
  hits : ℕ

/-- The summary of some rows. -/
def summaryOf (rows : List Measured) : Option Summary :=
  if rows = [] then none
  else
    let e2e := rows.map Measured.e2eMs
    some {
      n := e2e.length
      tiers := ((rows.map fun r => String.ofList r.tier).dedup).mergeSort fun s t => s ≤ t
      p50Ms := pct e2e 50
      p95Ms := pct e2e 95
      p99Ms := pct e2e 99
      hits := rows.countP Measured.affinityHit }

/-- The value of a text that shows a float or an integer. -/
def readFloat (floats : FloatText) (text : List Char) : Option ℚ :=
  match readNumber floats text with
  | some (.float (.finite q), []) => some q
  | some (.int n, []) => some n
  | _ => none

/-- Read what the study uses of a record. -/
def measured? (floats : FloatText) (r : CsvRow) : Option Measured := do
  let text ← (r.values.get? "e2e_ms".toList).join
  let e2eMs ← readFloat floats text
  let tier ← (r.values.get? "tier".toList).getD (some ['?'])
  let affinityHit := r.values.get? "affinity_hit".toList = some (some "True".toList)
  return { tier, e2eMs, affinityHit }

/-- Summarise the records of a file. The summary of no records is empty. -/
def summarise (floats : FloatText) (file : Option (List Char)) : Option (Option Summary) := do
  let rows ← readCsvOk file
  let measured ← rows.mapM (measured? floats)
  return summaryOf measured

/-! ## Percentiles -/

theorem sorted_mergeSort (vals : List ℚ) :
    (vals.mergeSort fun x y => x ≤ y).Pairwise (· ≤ ·) := by
  have sorted : (vals.mergeSort fun x y => x ≤ y).Pairwise fun x y => decide (x ≤ y) = true := by
    apply List.pairwise_mergeSort
    · intro x y z first second
      simp only [decide_eq_true_eq] at first second ⊢
      exact first.trans second
    · intro x y
      simpa using le_total x y
  simpa using sorted

/-- **Percentiles.** A percentile is one of the values. No more than its share of the values are
below it, and more than its share are not above it. -/
theorem pct_spec {vals : List ℚ} (some_vals : vals ≠ []) {p : ℕ} (below : p < 100) :
    pct vals p ∈ vals ∧ vals.countP (fun v => v < pct vals p) ≤ vals.length * p / 100 ∧
      vals.length * p / 100 < vals.countP (fun v => v ≤ pct vals p) := by
  obtain ⟨s, same⟩ : ∃ s, (vals.mergeSort fun x y => x ≤ y) = s := ⟨_, rfl⟩
  have sorted : s.Pairwise (· ≤ ·) := same ▸ sorted_mergeSort vals
  have perm : s.Perm vals := same ▸ List.mergeSort_perm vals _
  have positive : 0 < vals.length := List.length_pos_iff.mpr some_vals
  have inside : vals.length * p / 100 < s.length := by
    rw [perm.length_eq]
    apply Nat.div_lt_of_lt_mul
    rw [Nat.mul_comm 100]
    exact Nat.mul_lt_mul_of_pos_left below positive
  have value : pct vals p = s[vals.length * p / 100] := by
    have place : min (vals.length * p / 100) (vals.length - 1) = vals.length * p / 100 := by
      rw [perm.length_eq] at inside
      omega
    rw [pct, same, place, List.getD_eq_getElem _ _ inside]
  obtain ⟨fewer, more⟩ := countP_getElem_of_sorted sorted inside
  rw [value, ← perm.countP_eq, ← perm.countP_eq]
  exact ⟨perm.mem_iff.mp (List.getElem_mem inside), fewer, more⟩

/-! ## What is read of a file -/

theorem carriage_notMem_of_isPart {marks signs text : List Char} (part : IsPart marks signs text)
    (mark : '\r' ∉ marks) (sign : '\r' ∉ signs) : '\r' ∉ text := by
  rcases part with rfl | ⟨c, s, digits, rfl, mem, way, _, all⟩
  · exact List.not_mem_nil
  · simp only [List.mem_cons, List.mem_append, not_or]
    refine ⟨⟨fun same => mark (same ▸ mem), ?_⟩, ?_⟩
    · rcases way with rfl | ⟨d, inside, rfl⟩
      · exact List.not_mem_nil
      · rw [List.mem_singleton]
        exact fun same => sign (same ▸ inside)
    · intro member
      have digit := all _ member
      revert digit
      decide

/-- A number is one line. -/
theorem carriage_notMem_text (form : NumberForm) : '\r' ∉ form.text := by
  simp only [NumberForm.text, List.mem_append, not_or]
  refine ⟨⟨⟨?_, ?_⟩, ?_⟩, ?_⟩
  · rcases form.sign with none_there | minus
    · rw [none_there]
      exact List.not_mem_nil
    · rw [minus]
      decide
  · rcases form.begins with zero | ⟨_, _, _, _, all⟩
    · rw [zero]
      decide
    · intro member
      have digit := all _ member
      revert digit
      decide
  · exact carriage_notMem_of_isPart form.point (by decide) (by decide)
  · exact carriage_notMem_of_isPart form.scale (by decide) (by decide)

theorem translate_shown {floats : FloatText} {q : ℚ} (reads : floats.ReadsBack q) :
    translate (floats.shown q) = floats.shown q := by
  obtain ⟨⟨form, same, _⟩, _⟩ := reads
  rw [← same]
  exact translateFrom_eq_self (carriage_notMem_text form)

theorem translate_intText (n : ℤ) : translate (intText n) = intText n := by
  rw [← text_intForm]
  exact translateFrom_eq_self (carriage_notMem_text (intForm n))

theorem readFloat_shown {floats : FloatText} {q : ℚ} (reads : floats.ReadsBack q) :
    readFloat floats (floats.shown q) = some q := by
  have read := readNumber_shown reads Stops.nil
  rw [List.append_nil] at read
  rw [readFloat, read]

theorem intText_eq_success_iff (n : ℤ) : intText n = "200".toList ↔ n = 200 := by
  constructor
  · intro same
    rw [intText] at same
    split at same
    · cases same
    · rename_i natural
      rw [List.nil_append] at same
      have value := congrArg (fun digits => Nat.ofDigitChars 10 digits 0) same
      simp only [Nat.ofDigitChars_ten_toDigits] at value
      have known : Nat.ofDigitChars 10 "200".toList 0 = 200 := by decide +kernel
      omega
  · rintro rfl
    decide +kernel

theorem boolText_eq_true_iff (b : Bool) : boolText b = "True".toList ↔ b = true := by
  cases b <;> decide

/-! ## Files of rows -/

/-- The record of a row, as it is read. -/
def recordOf (floats : FloatText) (row : ResultRow) : CsvRow :=
  csvRow ResultRow.names ((row.texts floats).map translate)

/-- What the study can say of a row. -/
def measuredOf (row : ResultRow) : Measured where
  tier := translate row.tier.toList
  e2eMs := row.e2eMs
  affinityHit := row.affinityHit

/-- The times of a row are shown and read back, and its fields are not too long. -/
structure Readable (floats : FloatText) (row : ResultRow) : Prop where
  ttft : floats.ReadsBack row.ttftMs
  e2e : floats.ReadsBack row.e2eMs
  short : ∀ text ∈ row.texts floats, (translate text).length ≤ fieldSizeLimit

theorem get?_recordOf (floats : FloatText) (row : ResultRow) (name : List Char) :
    (recordOf floats row).values.get? name =
      (ResultRow.names.zip (((row.texts floats).map translate).map some)).lookup name := by
  have distinct : ResultRow.names.Nodup := by decide +kernel
  have complete : ((row.texts floats).map translate).length = ResultRow.names.length := rfl
  exact get?_csvRow distinct complete name

theorem status_recordOf (floats : FloatText) (row : ResultRow) :
    (recordOf floats row).values.get? "status_code".toList =
      some (some (intText row.statusCode)) := by
  rw [get?_recordOf, ← translate_intText]
  rfl

theorem measured?_recordOf {floats : FloatText} {row : ResultRow}
    (readable : Readable floats row) : measured? floats (recordOf floats row) =
      some (measuredOf row) := by
  have time : (recordOf floats row).values.get? "e2e_ms".toList =
      some (some (floats.shown row.e2eMs)) := by
    rw [get?_recordOf, ← translate_shown readable.e2e]
    rfl
  have tier : (recordOf floats row).values.get? "tier".toList =
      some (some (translate row.tier.toList)) := by
    rw [get?_recordOf]
    rfl
  have hit : (recordOf floats row).values.get? "affinity_hit".toList =
      some (some (boolText row.affinityHit)) := by
    have plain : translate (boolText row.affinityHit) = boolText row.affinityHit := by
      cases row.affinityHit <;> decide
    rw [get?_recordOf, ← plain]
    rfl
  rw [measured?, time, tier, hit]
  simp only [Option.join_some, Option.bind_eq_bind, Option.bind_some, Option.getD_some,
    readFloat_shown readable.e2e, Option.some.injEq, boolText_eq_true_iff, Bool.decide_eq_true]
  rfl

theorem readDicts_writeFile {floats : FloatText} {rows : List ResultRow}
    (readable : ∀ row ∈ rows, Readable floats row) :
    readDicts fieldSizeLimit (writeCsv (ResultRow.names :: rows.map (ResultRow.texts floats))) =
      some (rows.map (recordOf floats)) := by
  have header : ResultRow.names.map translate = ResultRow.names := by decide +kernel
  have names_short : ∀ field ∈ ResultRow.names, (translate field).length ≤ fieldSizeLimit := by
    decide +kernel
  have some_fields : ∀ record ∈ ResultRow.names :: rows.map (ResultRow.texts floats),
      record ≠ [] := by
    intro record member
    rcases List.mem_cons.mp member with rfl | member
    · simp [ResultRow.names]
    · obtain ⟨row, _, rfl⟩ := List.mem_map.mp member
      simp [ResultRow.texts]
  have short : ∀ record ∈ ResultRow.names :: rows.map (ResultRow.texts floats), ∀ field ∈ record,
      (translate field).length ≤ fieldSizeLimit := by
    intro record member
    rcases List.mem_cons.mp member with rfl | member
    · exact names_short
    · obtain ⟨row, inside, rfl⟩ := List.mem_map.mp member
      exact (readable row inside).short
  rw [readDicts, readCsv_writeCsv some_fields short, List.map_cons, header, Option.map_some]
  have all : ((rows.map (ResultRow.texts floats)).map (List.map translate)).filter
      (fun fields => fields ≠ []) =
        (rows.map (ResultRow.texts floats)).map (List.map translate) := by
    apply List.filter_eq_self.mpr
    intro fields member
    obtain ⟨record, inside, rfl⟩ := List.mem_map.mp member
    have some_record := some_fields record (List.mem_cons_of_mem _ inside)
    simpa using some_record
  simp only [all]
  rw [List.map_map, List.map_map]
  rfl

/-- The records of a success are those of the rows of a success. -/
theorem readCsvOk_writeFile {floats : FloatText} {rows : List ResultRow}
    (readable : ∀ row ∈ rows, Readable floats row) {file : Option (List Char)}
    (fresh : rows ≠ [] ∨ file = none) :
    readCsvOk (ResultRow.writeFile floats rows file) =
      some ((rows.filter fun row => row.statusCode = 200).map (recordOf floats)) := by
  by_cases empty : rows = []
  · rcases fresh with some_rows | rfl
    · exact absurd empty some_rows
    · subst empty
      rfl
  · have success : (fun r : CsvRow => decide (r.values.get? "status_code".toList =
        some (some "200".toList))) ∘ recordOf floats =
          fun row => decide (row.statusCode = 200) := by
      funext row
      simp only [Function.comp_apply, status_recordOf, Option.some.injEq, intText_eq_success_iff]
    rw [ResultRow.writeFile, if_neg empty, readCsvOk, readDicts_writeFile readable, Option.map_some,
      List.filter_map, success]

/-- **The study.** The study of a file that rows were written to is the study of the rows with the
status of a success. -/
theorem study_of_rows (floats : FloatText) (rows : List ResultRow) (file : Option (List Char))
    (readable : ∀ row ∈ rows, Readable floats row) (fresh : rows ≠ [] ∨ file = none) :
    summarise floats (ResultRow.writeFile floats rows file) =
      some (summaryOf ((rows.filter fun row => row.statusCode = 200).map measuredOf)) := by
  have measured : ((rows.filter fun row => row.statusCode = 200).map (recordOf floats)).mapM
      (measured? floats) =
      some ((rows.filter fun row => row.statusCode = 200).map measuredOf) :=
    mapM_map_eq_some fun row member =>
      measured?_recordOf (readable row (List.mem_of_mem_filter member))
  rw [summarise, readCsvOk_writeFile readable fresh, Option.bind_eq_bind, Option.bind_some,
    measured]
  rfl

/-- A turn that was answered on a tier of two lines, and one that failed. -/
def twoRows : List ResultRow := [
  { requestId := "0", sessionId := "s", agentId := "loadgen", tier := "a\r\nb", backendId := "b",
    ttftMs := 12, e2eMs := 12, inputTokens := 3, outputTokens := 4, affinityHit := true,
    statusCode := 200, timestampIso := "now", profile := "steady" },
  { requestId := "1", sessionId := "s", agentId := "loadgen", tier := "unknown",
    backendId := "unknown", ttftMs := 0, e2eMs := 7, inputTokens := 0, outputTokens := 0,
    affinityHit := false, statusCode := 0, timestampIso := "now", profile := "steady" }]

theorem readable_twoRows : ∀ row ∈ twoRows, Readable wholeFloats row := by
  have short : ∀ row ∈ twoRows, ∀ text ∈ row.texts wholeFloats,
      (translate text).length ≤ fieldSizeLimit := by
    decide +kernel
  intro row member
  have texts := short row member
  simp only [twoRows, List.mem_cons, List.not_mem_nil, or_false] at member
  rcases member with rfl | rfl
  · exact ⟨readsBack_whole 12, readsBack_whole 12, texts⟩
  · exact ⟨readsBack_whole 0, readsBack_whole 7, texts⟩

/-- The study of the two rows has one row, with one hit. -/
theorem study_of_rows_twoRows :
    summarise wholeFloats (ResultRow.writeFile wholeFloats twoRows none) =
      some (summaryOf ((twoRows.filter fun row => row.statusCode = 200).map measuredOf)) :=
  study_of_rows wholeFloats twoRows none readable_twoRows (.inr rfl)

end Study

end AgentServe
