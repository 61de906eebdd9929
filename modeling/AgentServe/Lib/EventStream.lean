import Mathlib.Data.List.Infix

/-!
# Event streams

An event stream is a sequence of bytes. Lines end with a line feed, a carriage return, or both, and
an empty line ends a block of lines. A byte order mark at the start is skipped. The data of a block
are the values of its data fields, one to a line (`data`). A block with a data field is an event.
A block without one, of comments for instance, is dropped (`dispatched`).

A reader takes one byte at a time (`Reader.feed`), so how a stream is cut into chunks does not
matter. What was read stays read (`events_kept`), and a line with an empty line after it, sent
at any moment, ends the unfinished line and the unfinished block (`read_append_line`).
-/

set_option autoImplicit false

namespace AgentServe.Lib.EventStream

/-! ## Data -/

def lf : UInt8 := 10

def cr : UInt8 := 13

/-- A block of lines. -/
abbrev Block := List (List UInt8)

def colon : UInt8 := 58

def space : UInt8 := 32

/-- The name of data fields. -/
def dataName : List UInt8 := [100, 97, 116, 97]

/-- The value of a field is what follows the colon, without one space. -/
def valueAfter : List UInt8 → List UInt8
  | [] => []
  | _ :: rest => if rest.head? = some space then rest.tail else rest

/-- The value of a line that is a data field. -/
def dataValue? (line : List UInt8) : Option (List UInt8) :=
  if line.takeWhile (· ≠ colon) = dataName then some (valueAfter (line.dropWhile (· ≠ colon)))
  else none

/-- The values of the data fields of a block. -/
def dataValues (block : Block) : List (List UInt8) := block.filterMap dataValue?

/-- The data of a block. -/
def data (block : Block) : List UInt8 := [lf].intercalate (dataValues block)

/-- The event of a block that is ended, if it has a data field. -/
def dispatched (block : Block) : List Block := if dataValues block = [] then [] else [block]

theorem dataValues_concat (block : Block) (line : List UInt8) :
    dataValues (block ++ [line]) = dataValues block ++ (dataValue? line).toList := by
  cases found : dataValue? line <;> simp [dataValues, found]

/-- A line that is no data field adds no data. -/
theorem dataValues_concat_of_none {line : List UInt8} (other : dataValue? line = none)
    (block : Block) : dataValues (block ++ [line]) = dataValues block := by
  rw [dataValues_concat, other, Option.toList_none, List.append_nil]

/-- A block that ends with a data field is an event. -/
theorem dispatched_concat {line value : List UInt8} (field : dataValue? line = some value)
    (block : Block) : dispatched (block ++ [line]) = [block ++ [line]] := by
  rw [dispatched, dataValues_concat, field]
  simp

/-- A data field is the data of a block that has no other. -/
theorem data_concat_of_nil {line value : List UInt8} (field : dataValue? line = some value)
    {block : Block} (empty : dataValues block = []) : data (block ++ [line]) = value := by
  rw [data, dataValues_concat, empty, field]
  simp [List.intercalate]

theorem length_intercalate_concat (values : List (List UInt8)) (value : List UInt8)
    (nonempty : values ≠ []) : value.length < ([lf].intercalate (values ++ [value])).length := by
  induction values with
  | nil => exact absurd rfl nonempty
  | cons first rest ih =>
      cases rest with
      | nil =>
          simp only [List.singleton_append, List.intercalate_cons_cons,
            List.intercalate_singleton, List.length_append, List.length_singleton]
          omega
      | cons second others =>
          have later := ih (by simp)
          simp only [List.cons_append, List.intercalate_cons_cons, List.length_append] at later ⊢
          omega

/-- A data field adds a line to the data of a block that has other ones. -/
theorem length_data_concat {line value : List UInt8} (field : dataValue? line = some value)
    {block : Block} (other : dataValues block ≠ []) :
    value.length < (data (block ++ [line])).length := by
  rw [data, dataValues_concat, field]
  exact length_intercalate_concat _ value other

/-- The data field that a text is the value of. -/
def dataLine (text : List UInt8) : List UInt8 := dataName ++ colon :: space :: text

theorem dataValue?_dataLine (text : List UInt8) : dataValue? (dataLine text) = some text := by
  simp [dataValue?, dataLine, dataName, colon, space, valueAfter]

theorem ne_colon_of_notMem {line : List UInt8} (absent : colon ∉ line) :
    ∀ byte ∈ line, decide (byte ≠ colon) = true := by
  intro byte member
  simp only [ne_eq, decide_not, Bool.not_eq_true', decide_eq_false_iff_not]
  rintro rfl
  exact absent member

theorem length_valueAfter (byte : UInt8) (rest : List UInt8) :
    rest.length ≤ (valueAfter (byte :: rest)).length + 1 := by
  simp only [valueAfter]
  split
  · simp
    omega
  · omega

/-- A data field that goes on an unfinished line is no data field, or its value is longer than its
text. -/
theorem length_of_dataValue? {line text value : List UInt8} (unfinished : line ≠ [])
    (field : dataValue? (line ++ dataLine text) = some value) : text.length < value.length := by
  unfold dataValue? at field
  split at field
  · rename_i named
    cases field
    by_cases inside : colon ∈ line
    · -- The name of the field and the start of its value are in the unfinished line.
      obtain ⟨front, back, rfl, first⟩ := List.eq_append_cons_of_mem inside
      have rest : (front ++ colon :: back ++ dataLine text).dropWhile (· ≠ colon) =
          colon :: (back ++ dataLine text) := by
        rw [List.append_assoc, List.dropWhile_append_of_pos (ne_colon_of_notMem first)]
        simp
      have enough := length_valueAfter colon (back ++ dataLine text)
      rw [rest]
      simp only [List.length_append, dataLine, dataName, List.length_cons, List.length_nil]
        at enough ⊢
      omega
    · have same : line ++ dataName = dataName := by
        rw [List.takeWhile_append_of_pos (ne_colon_of_notMem inside)] at named
        simpa [dataLine, dataName, colon] using named
      exact absurd (List.append_left_eq_self.mp same) unfinished
  · cases field

/-! ## Reading -/

/-- A reader: whether the last byte was a carriage return, the bytes of the unfinished line, the
lines of the unfinished block, and the events. -/
structure Reader where
  afterCr : Bool := false
  line : List UInt8 := []
  block : Block := []
  events : List Block := []
deriving DecidableEq

namespace Reader

/-- A line ends. An empty one ends the block. -/
def endLine (r : Reader) : Reader :=
  if r.line ≠ [] then { r with line := [], block := r.block ++ [r.line] }
  else { r with block := [], events := r.events ++ dispatched r.block }

def feed (r : Reader) (byte : UInt8) : Reader :=
  if byte = lf then
    if r.afterCr then { r with afterCr := false } else r.endLine
  else if byte = cr then { r.endLine with afterCr := true }
  else { r with afterCr := false, line := r.line ++ [byte] }

def feedAll (r : Reader) (bytes : List UInt8) : Reader := bytes.foldl feed r

theorem feedAll_append (r : Reader) (first second : List UInt8) :
    r.feedAll (first ++ second) = (r.feedAll first).feedAll second :=
  List.foldl_append

theorem events_endLine (r : Reader) : r.events <+: r.endLine.events := by
  unfold endLine
  split
  · exact List.prefix_rfl
  · exact List.prefix_append _ _

theorem events_feed (r : Reader) (byte : UInt8) : r.events <+: (r.feed byte).events := by
  unfold feed
  split
  · split
    · exact List.prefix_rfl
    · exact events_endLine r
  · split
    · exact events_endLine r
    · exact List.prefix_rfl

/-- What was read stays read. -/
theorem events_feedAll (r : Reader) (bytes : List UInt8) :
    r.events <+: (r.feedAll bytes).events := by
  induction bytes generalizing r with
  | nil => exact List.prefix_rfl
  | cons byte rest ih => exact (events_feed r byte).trans (ih (r.feed byte))

/-- Bytes without a line end extend the unfinished line. -/
theorem feedAll_text (r : Reader) {text : List UInt8} (nonempty : text ≠ [])
    (plain : ∀ byte ∈ text, byte ≠ lf ∧ byte ≠ cr) :
    r.feedAll text = { r with afterCr := false, line := r.line ++ text } := by
  induction text generalizing r with
  | nil => exact absurd rfl nonempty
  | cons byte rest ih =>
      obtain ⟨no_lf, no_cr⟩ := plain byte (by simp)
      have first : r.feed byte = { r with afterCr := false, line := r.line ++ [byte] } := by
        rw [feed, if_neg no_lf, if_neg no_cr]
      cases rest with
      | nil => exact first
      | cons next others =>
          have later := ih (r.feed byte) (by simp) fun b member => plain b (by simp [member])
          rw [feedAll, List.foldl_cons]
          rw [feedAll] at later
          rw [later, first]
          simp

/-- A line and an empty line end the unfinished block. -/
theorem feedAll_line (r : Reader) {text : List UInt8} (nonempty : text ≠ [])
    (plain : ∀ byte ∈ text, byte ≠ lf ∧ byte ≠ cr) :
    r.feedAll (text ++ [lf, lf]) =
      { events := r.events ++ dispatched (r.block ++ [r.line ++ text]) } := by
  rw [feedAll_append, feedAll_text r nonempty plain]
  simp [feedAll, feed, endLine, nonempty]

end Reader

/-- Skip a byte order mark at the start. -/
def skipMark : List UInt8 → List UInt8
  | 0xEF :: 0xBB :: 0xBF :: rest => rest
  | bytes => bytes

def read (bytes : List UInt8) : Reader := ({} : Reader).feedAll (skipMark bytes)

theorem skipMark_of_unmarked {bytes : List UInt8}
    (unmarked : ∀ rest, bytes ≠ 0xEF :: 0xBB :: 0xBF :: rest) : skipMark bytes = bytes := by
  unfold skipMark
  split
  · exact absurd rfl (unmarked _)
  · rfl

/-- Either the bytes so far tell whether there is a mark, or nothing was read yet and they are the
beginning of one. -/
theorem skipMark_append_or (first second : List UInt8) :
    skipMark (first ++ second) = skipMark first ++ second ∨
      (read first).events = [] ∧
        ∃ byte rest, second = byte :: rest ∧ byte ∈ [0xEF, 0xBB, 0xBF] := by
  by_cases marked : ∃ rest, first ++ second = 0xEF :: 0xBB :: 0xBF :: rest
  · obtain ⟨rest, whole⟩ := marked
    match first, whole with
    | [], whole => exact .inr ⟨rfl, _, _, whole, by simp⟩
    | [a], whole =>
        obtain ⟨rfl, after⟩ := List.cons_eq_cons.mp whole
        exact .inr ⟨rfl, _, _, after, by simp⟩
    | [a, b], whole =>
        obtain ⟨rfl, after⟩ := List.cons_eq_cons.mp whole
        obtain ⟨rfl, last⟩ := List.cons_eq_cons.mp after
        exact .inr ⟨rfl, _, _, last, by simp⟩
    | a :: b :: c :: more, whole =>
        obtain ⟨rfl, after⟩ := List.cons_eq_cons.mp whole
        obtain ⟨rfl, last⟩ := List.cons_eq_cons.mp after
        obtain ⟨rfl, _⟩ := List.cons_eq_cons.mp last
        exact .inl rfl
  · have unmarked : ∀ rest, first ++ second ≠ 0xEF :: 0xBB :: 0xBF :: rest :=
      fun rest same => marked ⟨rest, same⟩
    left
    rw [skipMark_of_unmarked unmarked, skipMark_of_unmarked]
    rintro rest rfl
    exact unmarked (rest ++ second) rfl

/-- **What was read stays read.** -/
theorem events_kept (first second : List UInt8) :
    (read first).events <+: (read (first ++ second)).events := by
  rcases skipMark_append_or first second with passed | ⟨nothing, _⟩
  · rw [read, read, passed, Reader.feedAll_append]
    exact Reader.events_feedAll _ _
  · rw [nothing]
    exact List.nil_prefix

/-- **A line and an empty line end what is unfinished,** whatever was read before. -/
theorem read_append_line (bytes : List UInt8) {byte : UInt8} {text : List UInt8}
    (unmarked : byte ∉ [0xEF, 0xBB, 0xBF])
    (plain : ∀ b ∈ byte :: text, b ≠ lf ∧ b ≠ cr) :
    read (bytes ++ (byte :: text ++ [lf, lf])) =
      { events := (read bytes).events ++
          dispatched ((read bytes).block ++ [(read bytes).line ++ byte :: text]) } := by
  have passed : skipMark (bytes ++ (byte :: text ++ [lf, lf])) =
      skipMark bytes ++ (byte :: text ++ [lf, lf]) := by
    rcases skipMark_append_or bytes (byte :: text ++ [lf, lf]) with
      passed | ⟨_, b, rest, same, mark⟩
    · exact passed
    · obtain ⟨rfl, _⟩ := List.cons_eq_cons.mp same
      exact absurd mark unmarked
  rw [read, passed, Reader.feedAll_append, Reader.feedAll_line _ (by simp) plain]
  rfl

end AgentServe.Lib.EventStream
