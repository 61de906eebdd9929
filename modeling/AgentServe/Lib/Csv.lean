import AgentServe.Lib.Dict
import Mathlib.Tactic.Common

/-!
# Comma-separated values

The writer and the reader of the standard dialect. The writer quotes a field only if it has
to, doubles the quotes in it, and ends a record with two characters. The reader works
character by character through the lines of a file, and is told when a line ends. A file
that is opened as a text has its line ends translated before.

So a field with a line end of another kind is not read back as it was written, but with its
line ends translated, and that is all that changes (`readCsv_writeCsv`).
-/

set_option autoImplicit false

namespace AgentServe.Lib

/-! ## Line ends -/

/-- Translate the line ends of a text. What follows a carriage return may be its other half. -/
def translateFrom : Bool → List Char → List Char
  | _, [] => []
  | returned, c :: rest =>
    if c = '\n' ∧ returned then translateFrom false rest
    else if c = '\r' then '\n' :: translateFrom true rest
    else c :: translateFrom false rest

def translate (text : List Char) : List Char := translateFrom false text

/-- A text goes on after a carriage return. -/
def returnedAfter : Bool → List Char → Bool
  | returned, [] => returned
  | _, c :: rest => returnedAfter (c = '\r') rest

theorem translateFrom_append (returned : Bool) (first second : List Char) :
    translateFrom returned (first ++ second) =
      translateFrom returned first ++ translateFrom (returnedAfter returned first) second := by
  induction first generalizing returned with
  | nil => rfl
  | cons c rest ih =>
      simp only [List.cons_append, translateFrom, returnedAfter]
      split
      · rename_i half
        rw [ih, half.1]
        rfl
      · split
        · rename_i returns
          rw [ih, returns]
          rfl
        · rename_i other
          rw [ih, List.cons_append, decide_eq_false other]

/-- Nothing but a line feed is looked at together with what comes before it. -/
theorem translateFrom_of_ne {c : Char} (other : c ≠ '\n') (returned : Bool) (rest : List Char) :
    translateFrom returned (c :: rest) = translate (c :: rest) := by
  simp [translate, translateFrom, other]

theorem translateFrom_eq_self {text : List Char} (plain : '\r' ∉ text) :
    translateFrom false text = text := by
  induction text with
  | nil => rfl
  | cons c rest ih =>
      simp only [List.mem_cons, not_or] at plain
      have other : c ≠ '\r' := fun same => plain.1 same.symm
      simp [translateFrom, other, ih plain.2]

/-! ## Writing -/

/-- A field with one of these characters is quoted. -/
def isSpecial (c : Char) : Bool := c = ',' || c = '"' || c = '\n' || c = '\r'

/-- The inside of a quoted field. -/
def doubled (field : List Char) : List Char :=
  field.flatMap fun c => if c = '"' then [c, c] else [c]

/-- A field. It is also quoted if it is empty and the only one of its record. -/
def writeField (alone : Bool) (field : List Char) : List Char :=
  if field.any isSpecial || (alone && field.isEmpty) then ['"'] ++ doubled field ++ ['"']
  else field

/-- Fields, with commas between them. -/
def writeFields (alone : Bool) : List (List Char) → List Char
  | [] => []
  | [field] => writeField alone field
  | field :: rest => writeField alone field ++ [','] ++ writeFields alone rest

def writeRecord (ending : List Char) (fields : List (List Char)) : List Char :=
  writeFields (fields.length == 1) fields ++ ending

def writeCsv (records : List (List (List Char))) : List Char :=
  records.flatMap (writeRecord ['\r', '\n'])

/-! ## Reading -/

inductive CsvState where
  | startRecord
  | startField
  | inField
  | inQuotedField
  | quoteInQuotedField
  | eatCrnl
deriving DecidableEq

/-- The reader, with the fields of the record that is read and the records before it. -/
structure CsvReader where
  state : CsvState := .startRecord
  field : List Char := []
  fields : List (List Char) := []
  records : List (List (List Char)) := []

namespace CsvReader

def saveField (r : CsvReader) : CsvReader :=
  { r with field := [], fields := r.fields ++ [r.field] }

/-- A field that is longer than the limit is refused. -/
def addChar (limit : ℕ) (r : CsvReader) (c : Char) : Option CsvReader :=
  if r.field.length ≥ limit then none else some { r with field := r.field ++ [c] }

/-- Save the field at a comma, or at the end of a record. -/
def endField (r : CsvReader) : Option Char → CsvReader
  | none => { r.saveField with state := .startRecord }
  | some c => { r.saveField with state := if c = ',' then .startField else .eatCrnl }

def isEnd (symbol : Option Char) : Bool :=
  symbol = none || symbol = some '\n' || symbol = some '\r'

def startField (limit : ℕ) (r : CsvReader) (symbol : Option Char) : Option CsvReader :=
  if isEnd symbol || symbol = some ',' then some (r.endField symbol)
  else if symbol = some '"' then some { r with state := .inQuotedField }
  else symbol.bind fun c => addChar limit { r with state := .inField } c

/-- Process a character, or the end of a line. -/
def processChar (limit : ℕ) (r : CsvReader) (symbol : Option Char) : Option CsvReader :=
  match r.state with
  | .startRecord =>
    if symbol = none then some r
    else if isEnd symbol then some { r with state := .eatCrnl }
    else startField limit { r with state := .startField } symbol
  | .startField => startField limit r symbol
  | .inField =>
    if isEnd symbol || symbol = some ',' then some (r.endField symbol)
    else symbol.bind (addChar limit r)
  | .inQuotedField =>
    if symbol = some '"' then some { r with state := .quoteInQuotedField }
    else symbol.elim (some r) (addChar limit r)
  | .quoteInQuotedField =>
    if symbol = some '"' then addChar limit { r with state := .inQuotedField } '"'
    else if isEnd symbol || symbol = some ',' then some (r.endField symbol)
    else symbol.bind fun c => addChar limit { r with state := .inField } c
  | .eatCrnl =>
    if symbol = none then some { r with state := .startRecord }
    else if isEnd symbol then some r
    else none

/-- After the end of a line, a record may be complete. -/
def endLine (r : CsvReader) : CsvReader :=
  if r.state = .startRecord then { r with fields := [], records := r.records ++ [r.fields] } else r

def feed (limit : ℕ) (r : CsvReader) (symbol : Option Char) : Option CsvReader :=
  (r.processChar limit symbol).map fun next => if symbol = none then next.endLine else next

def feedAll (limit : ℕ) : CsvReader → List (Option Char) → Option CsvReader
  | r, [] => some r
  | r, symbol :: rest => (r.feed limit symbol).bind fun next => feedAll limit next rest

/-- At the end of the file, what is left of a record is one. -/
def finish (r : CsvReader) : List (List (List Char)) :=
  if r.field ≠ [] ∨ r.state = .inQuotedField then r.records ++ [r.saveField.fields] else r.records

end CsvReader

/-- The characters of the lines of a text, each line with its end. -/
def symbols : Bool → List Char → List (Option Char)
  | begun, [] => if begun then [none] else []
  | _, c :: rest =>
    if c = '\n' then some c :: none :: symbols false rest else some c :: symbols true rest

/-- Read a file that is opened as a text. -/
def readCsv (limit : ℕ) (text : List Char) : Option (List (List (List Char))) :=
  (CsvReader.feedAll limit {} (symbols false (translate text))).map CsvReader.finish

/-! ## Translating what was written -/

theorem translate_append {first second : List Char}
    (starts : ∀ c, second.head? = some c → c ≠ '\n') :
    translate (first ++ second) = translate first ++ translate second := by
  rw [translate, translateFrom_append]
  apply congrArg
  cases second with
  | nil => rfl
  | cons c rest => exact translateFrom_of_ne (starts c rfl) _ rest

theorem any_isSpecial_translateFrom (returned : Bool) (text : List Char) :
    (returned || (translateFrom returned text).any isSpecial) =
      (returned || text.any isSpecial) := by
  induction text generalizing returned with
  | nil => rfl
  | cons c rest ih =>
      simp only [translateFrom]
      split
      · rename_i half
        rw [half.2]
        rfl
      · split
        · rename_i returns
          have special : isSpecial '\n' = true ∧ isSpecial '\r' = true := by decide
          simp [returns, special]
        · have later := ih false
          simp only [Bool.false_or] at later
          rw [List.any_cons, List.any_cons, later]

theorem isEmpty_translate (text : List Char) : (translate text).isEmpty = text.isEmpty := by
  cases text with
  | nil => rfl
  | cons c rest =>
      simp only [translate, translateFrom, Bool.false_eq_true, and_false, if_false]
      split <;> rfl

theorem translateFrom_doubled (returned : Bool) (field : List Char) :
    translateFrom returned (doubled field) = doubled (translateFrom returned field) := by
  induction field generalizing returned with
  | nil => rfl
  | cons c rest ih =>
      by_cases mark : c = '"'
      · subst mark
        have next := ih false
        simp only [doubled] at next
        simp [doubled, translateFrom, next]
      · by_cases half : c = '\n' ∧ returned = true
        · have next := ih false
          simp only [doubled] at next
          simp [doubled, translateFrom, half, next]
        · by_cases returns : c = '\r'
          · subst returns
            have next := ih true
            simp only [doubled] at next
            simp [doubled, translateFrom, next]
          · have next := ih false
            simp only [doubled] at next
            simp [doubled, translateFrom, mark, half, returns, next]

theorem translate_quote (rest : List Char) : translate ('"' :: rest) = '"' :: translate rest := by
  simp [translate, translateFrom]

/-- A field is translated inside its quotes. -/
theorem translate_writeField (alone : Bool) (field : List Char) :
    translate (writeField alone field) = writeField alone (translate field) := by
  have special : (translate field).any isSpecial = field.any isSpecial := by
    simpa [translate] using any_isSpecial_translateFrom false field
  unfold writeField
  rw [isEmpty_translate, special]
  split
  · have closes : ∀ c, (['"'] : List Char).head? = some c → c ≠ '\n' := by simp
    rw [List.append_assoc, List.singleton_append, translate_quote, translate_append closes,
      translate, translateFrom_doubled]
    rfl
  · rfl

theorem translate_writeFields (alone : Bool) (fields : List (List Char)) :
    translate (writeFields alone fields) = writeFields alone (fields.map translate) := by
  induction fields with
  | nil => rfl
  | cons field rest ih =>
      cases rest with
      | nil => exact translate_writeField alone field
      | cons next more =>
          have comma : ∀ (text : List Char) c, (',' :: text).head? = some c → c ≠ '\n' := by
            intro text c first
            cases first
            decide
          have after : ∀ text, translate (',' :: text) = ',' :: translate text := by
            intro text
            simp [translate, translateFrom]
          rw [writeFields, List.append_assoc, List.singleton_append, translate_append (comma _),
            translate_writeField, after, ih]
          · simp [writeFields]
          · exact nofun

/-- What a reader sees of the records. -/
theorem translate_writeCsv (records : List (List (List Char))) :
    translate (writeCsv records) =
      (records.map (List.map translate)).flatMap (writeRecord ['\n']) := by
  induction records with
  | nil => rfl
  | cons fields rest ih =>
      have ending : ∀ (text : List Char) c, ('\r' :: text).head? = some c → c ≠ '\n' := by
        intro text c first
        cases first
        decide
      have after : ∀ text, translate ('\r' :: '\n' :: text) = '\n' :: translate text := by
        intro text
        simp [translate, translateFrom]
      rw [writeCsv] at ih ⊢
      rw [List.flatMap_cons, writeRecord, List.append_assoc, List.cons_append,
        List.singleton_append,
        translate_append (ending _), after, ih, translate_writeFields]
      simp [writeRecord]

/-! ## Reading what was translated -/

/-- What the reader is told for a character. -/
def told (c : Char) : List (Option Char) := if c = '\n' then [some c, none] else [some c]

theorem symbols_append_newline (begun : Bool) (text rest : List Char) :
    symbols begun (text ++ '\n' :: rest) =
      text.flatMap told ++ some '\n' :: none :: symbols false rest := by
  induction text generalizing begun with
  | nil => simp [symbols]
  | cons c more ih =>
      by_cases ends : c = '\n'
      · simp [symbols, told, ends, ih]
      · simp [symbols, told, ends, ih]

namespace CsvReader

variable {limit : ℕ}

theorem feedAll_append (r : CsvReader) (first second : List (Option Char)) :
    feedAll limit r (first ++ second) =
      (feedAll limit r first).bind fun next => feedAll limit next second := by
  induction first generalizing r with
  | nil => rfl
  | cons symbol rest ih =>
      simp only [List.cons_append, feedAll]
      cases r.feed limit symbol with
      | none => rfl
      | some next => exact ih next

theorem not_special {c : Char} (plain : isSpecial c = false) :
    c ≠ ',' ∧ c ≠ '"' ∧ c ≠ '\n' ∧ c ≠ '\r' := by
  simpa [isSpecial, and_assoc] using plain

theorem feed_inField {r : CsvReader} (state : r.state = .inField) {c : Char}
    (plain : isSpecial c = false) (short : r.field.length < limit) :
    r.feed limit (some c) = some { r with field := r.field ++ [c] } := by
  obtain ⟨comma, _, feed, carriage⟩ := not_special plain
  simp [CsvReader.feed, processChar, state, isEnd, addChar, comma, feed, carriage,
    Nat.not_le.mpr short]

/-- The rest of a field without quotes. -/
theorem feedAll_plain {r : CsvReader} (state : r.state = .inField) {text : List Char}
    (plain : text.any isSpecial = false) (short : r.field.length + text.length ≤ limit) :
    feedAll limit r (text.flatMap told) = some { r with field := r.field ++ text } := by
  induction text generalizing r with
  | nil => simp [feedAll]
  | cons c rest ih =>
      rw [List.any_cons, Bool.or_eq_false_iff] at plain
      rw [List.length_cons] at short
      have one : r.feed limit (some c) = some { r with field := r.field ++ [c] } :=
        feed_inField state plain.1 (by omega)
      have later := ih (r := { r with field := r.field ++ [c] }) state plain.2
        (by simp only [List.length_append, List.length_singleton]; omega)
      have same : told c = [some c] := if_neg (not_special plain.1).2.2.1
      rw [List.flatMap_cons, same, List.singleton_append, feedAll, one, Option.bind_some, later]
      simp

/-- The inside of a quoted field. -/
theorem feedAll_doubled {r : CsvReader} (state : r.state = .inQuotedField) {field : List Char}
    (short : r.field.length + field.length ≤ limit) :
    feedAll limit r ((doubled field).flatMap told) =
      some { r with field := r.field ++ field } := by
  induction field generalizing r with
  | nil => simp [doubled, feedAll]
  | cons c rest ih =>
      rw [List.length_cons] at short
      have later := ih (r := { r with field := r.field ++ [c] }) state
        (by simp only [List.length_append, List.length_singleton]; omega)
      have room : ¬ limit ≤ r.field.length := by omega
      have front : feedAll limit r ((if c = '"' then [c, c] else [c]).flatMap told) =
          some { r with field := r.field ++ [c] } := by
        by_cases mark : c = '"'
        · subst mark
          simp [told, feedAll, CsvReader.feed, processChar, state, addChar, room]
        · by_cases ends : c = '\n'
          · subst ends
            simp [told, feedAll, CsvReader.feed, processChar, state, addChar, room, endLine]
          · simp [told, feedAll, CsvReader.feed, processChar, state, addChar, room, mark, ends]
      rw [doubled, List.flatMap_cons, List.flatMap_append, feedAll_append, front, Option.bind_some,
        ← doubled, later]
      simp

/-- A field, and the comma or the line end behind it. The only field of a record is quoted if it
is empty. -/
theorem feedAll_field {r : CsvReader} (begins : r.state = .startRecord ∨ r.state = .startField)
    (blank : r.field = []) (alone : Bool) {field : List Char} (short : field.length ≤ limit)
    {c : Char} (ends : c = ',' ∨
      c = '\n' ∧ (r.state = .startField ∨ writeField alone field ≠ [])) :
    feedAll limit r ((writeField alone field).flatMap told ++ [some c]) =
      some { r with
        state := if c = ',' then .startField else .eatCrnl
        fields := r.fields ++ [field] } := by
  have saves : c = ',' ∨ c = '\n' := ends.imp_right And.left
  by_cases quotes : (field.any isSpecial || (alone && field.isEmpty)) = true
  · have whole : writeField alone field = '"' :: (doubled field ++ ['"']) := by
      rw [writeField, if_pos quotes]
      rfl
    have opens : r.feed limit (some '"') = some { r with state := .inQuotedField } := by
      rcases begins with state | state <;>
        simp [CsvReader.feed, processChar, startField, isEnd, state]
    have inside : feedAll limit { r with state := .inQuotedField }
        ((doubled field).flatMap told) =
          some { r with state := .inQuotedField, field := field } := by
      rw [feedAll_doubled rfl (by simpa [blank] using short)]
      simp [blank]
    have mark : told '"' = [some '"'] := by decide
    rw [whole, List.flatMap_cons, mark, List.flatMap_append, List.flatMap_singleton, mark,
      List.append_assoc, List.append_assoc, List.singleton_append, feedAll, opens,
      Option.bind_some, feedAll_append, inside, Option.bind_some]
    rcases saves with rfl | rfl <;>
      simp [feedAll, CsvReader.feed, processChar, isEnd, endField, saveField, blank]
  · have plain : field.any isSpecial = false := by
      rw [Bool.or_eq_true, not_or] at quotes
      exact Bool.eq_false_iff.mpr quotes.1
    have whole : writeField alone field = field := by rw [writeField, if_neg quotes]
    rw [whole] at ends ⊢
    cases field with
    | nil =>
        rcases ends with rfl | ⟨rfl, state | some_text⟩
        · rcases begins with state | state <;>
            simp [feedAll, CsvReader.feed, processChar, startField, isEnd, endField, saveField,
              state, blank]
        · simp [feedAll, CsvReader.feed, processChar, startField, isEnd, endField, saveField,
            state, blank]
        · exact absurd rfl some_text
    | cons d rest =>
        rw [List.any_cons, Bool.or_eq_false_iff] at plain
        obtain ⟨comma, mark, feeds, carriage⟩ := not_special plain.1
        rw [List.length_cons] at short
        have room : limit ≠ 0 := by omega
        have first : r.feed limit (some d) = some { r with state := .inField, field := [d] } := by
          rcases begins with state | state <;>
            simp [CsvReader.feed, processChar, startField, isEnd, addChar, state, comma, mark,
              feeds, carriage, blank, room]
        have later : feedAll limit { r with state := .inField, field := [d] }
            (rest.flatMap told) = some { r with state := .inField, field := d :: rest } :=
          feedAll_plain rfl plain.2 (by rw [List.length_singleton]; omega)
        have same : told d = [some d] := if_neg feeds
        rw [List.flatMap_cons, same, List.append_assoc, List.singleton_append, feedAll, first,
          Option.bind_some, feedAll_append, later, Option.bind_some]
        rcases saves with rfl | rfl <;>
          simp [feedAll, CsvReader.feed, processChar, isEnd, endField, saveField, blank]

/-- The fields of a record, and its line end. -/
theorem feedAll_fields {r : CsvReader} (begins : r.state = .startRecord ∨ r.state = .startField)
    (blank : r.field = []) {alone : Bool} {fields : List (List Char)} (some_field : fields ≠ [])
    (short : ∀ field ∈ fields, field.length ≤ limit)
    (parted : alone = true ∨ r.state = .startField ∨ fields.length ≠ 1) :
    feedAll limit r ((writeFields alone fields).flatMap told ++ [some '\n']) =
      some { r with state := .eatCrnl, fields := r.fields ++ fields } := by
  induction fields generalizing r with
  | nil => exact absurd rfl some_field
  | cons field rest ih =>
      obtain ⟨first, others⟩ := List.forall_mem_cons.mp short
      cases rest with
      | nil =>
          have ends : r.state = .startField ∨ writeField alone field ≠ [] := by
            rcases parted with rfl | state | several
            · right
              unfold writeField
              cases field with
              | nil => simp
              | cons c tail =>
                  split
                  · simp
                  · simp
            · exact .inl state
            · exact absurd rfl several
          exact feedAll_field begins blank alone first (.inr ⟨rfl, ends⟩)
      | cons next more =>
          have comma : told ',' = [some ','] := by decide
          have one := feedAll_field begins blank alone first (c := ',') (.inl rfl)
          rw [if_pos rfl] at one
          have later := ih (r := { r with state := .startField, fields := r.fields ++ [field] })
            (.inr rfl) blank (by simp) others (.inr (.inl rfl))
          rw [writeFields, List.flatMap_append, List.flatMap_append, List.flatMap_singleton, comma,
            List.append_assoc, feedAll_append, one, Option.bind_some, later]
          · simp
          · exact nofun

/-- A record that is read. -/
theorem feedAll_record {records : List (List (List Char))} {fields : List (List Char)}
    (some_field : fields ≠ []) (short : ∀ field ∈ fields, field.length ≤ limit) :
    feedAll limit { records } ((writeRecord ['\n'] fields).flatMap told) =
      some { records := records ++ [fields] } := by
  have parted : (fields.length == 1) = true ∨
      ({ records } : CsvReader).state = .startField ∨ fields.length ≠ 1 := by
    by_cases one : fields.length = 1
    · exact .inl (by simpa using one)
    · exact .inr (.inr one)
  have read := feedAll_fields (r := { records }) (.inl rfl) rfl some_field short
    parted
  have ending : told '\n' = [some '\n'] ++ [none] := by decide
  rw [writeRecord, List.flatMap_append, List.flatMap_singleton, ending, ← List.append_assoc,
    feedAll_append, read, Option.bind_some]
  simp [feedAll, CsvReader.feed, processChar, endLine]

end CsvReader

theorem symbols_records (records : List (List (List Char))) :
    symbols false (records.flatMap (writeRecord ['\n'])) =
      (records.flatMap (writeRecord ['\n'])).flatMap told := by
  induction records with
  | nil => rfl
  | cons fields rest ih =>
      have ending : told '\n' = [some '\n', none] := by decide
      rw [List.flatMap_cons, writeRecord, List.append_assoc, List.singleton_append,
        symbols_append_newline, ih, List.flatMap_append, List.flatMap_cons, ending]
      rfl

theorem feedAll_records {limit : ℕ} {records : List (List (List Char))}
    (fields : ∀ record ∈ records, record ≠ [])
    (short : ∀ record ∈ records, ∀ field ∈ record, field.length ≤ limit)
    (before : List (List (List Char))) :
    CsvReader.feedAll limit { records := before }
        ((records.flatMap (writeRecord ['\n'])).flatMap told) =
      some { records := before ++ records } := by
  induction records generalizing before with
  | nil => simp [CsvReader.feedAll]
  | cons record rest ih =>
      obtain ⟨some_field, others⟩ := List.forall_mem_cons.mp fields
      obtain ⟨first, later⟩ := List.forall_mem_cons.mp short
      rw [List.flatMap_cons, List.flatMap_append, CsvReader.feedAll_append,
        CsvReader.feedAll_record some_field first, Option.bind_some, ih others later]
      simp

/-- **Round trip.** Records of short fields are read back with their line ends translated. -/
theorem readCsv_writeCsv {limit : ℕ} {records : List (List (List Char))}
    (fields : ∀ record ∈ records, record ≠ [])
    (short : ∀ record ∈ records, ∀ field ∈ record, (translate field).length ≤ limit) :
    readCsv limit (writeCsv records) = some (records.map (List.map translate)) := by
  have some_fields : ∀ record ∈ records.map (List.map translate), record ≠ [] := by
    intro record member
    obtain ⟨written, inside, rfl⟩ := List.mem_map.mp member
    simpa using fields written inside
  have all_short : ∀ record ∈ records.map (List.map translate), ∀ field ∈ record,
      field.length ≤ limit := by
    intro record member field part
    obtain ⟨written, inside, rfl⟩ := List.mem_map.mp member
    obtain ⟨original, named, rfl⟩ := List.mem_map.mp part
    exact short written inside original named
  rw [readCsv, translate_writeCsv, symbols_records, feedAll_records some_fields all_short,
    Option.map_some]
  simp [CsvReader.finish]

/-! ## Records with names -/

/-- A record whose values have the names of the first record. Missing values are none, and
additional ones have no name. -/
structure CsvRow where
  values : Dict (List Char) (Option (List Char))
  additional : List (List Char) := []

def csvRow (names fields : List (List Char)) : CsvRow where
  values := Dict.ofItems (names.zip (fields.map some) ++
    (names.drop fields.length).map fun name => (name, none))
  additional := fields.drop names.length

/-- Read a file by names. Records without fields are passed over. -/
def readDicts (limit : ℕ) (text : List Char) : Option (List CsvRow) :=
  (readCsv limit text).map fun records =>
    match records with
    | [] => []
    | names :: records => (records.filter fun fields => fields ≠ []).map (csvRow names)

/-- The value of a name in a record of as many values as there are names. -/
theorem get?_csvRow {names fields : List (List Char)} (distinct : names.Nodup)
    (complete : fields.length = names.length) (name : List Char) :
    (csvRow names fields).values.get? name = (names.zip (fields.map some)).lookup name := by
  have keys : ((names.zip (fields.map some)).map Prod.fst).Nodup := by
    rw [List.map_fst_zip (by simp [complete])]
    exact distinct
  have none_missing : names.drop fields.length = [] := by simp [complete]
  have items : (Dict.ofItems (names.zip (fields.map some))).items =
      names.zip (fields.map some) :=
    congrArg Dict.items (Dict.ofItems_items ⟨_, keys⟩)
  rw [csvRow, none_missing, List.map_nil, List.append_nil, Dict.get?, items]
  clear keys items none_missing complete distinct
  induction names.zip (fields.map some) with
  | nil => rfl
  | cons e rest ih =>
      rw [List.lookup_cons]
      by_cases own : e.1 = name
      · subst own
        simp
      · have differ : (name == e.1) = false := beq_false_of_ne fun same => own same.symm
        rw [differ, ← ih, List.find?_cons_of_neg (by simpa using own)]

end AgentServe.Lib
