import AgentServe.Core.JsonText
import AgentServe.Lib.Numbers

/-!
# Reading JSON documents

The standard decoder. It takes blanks between the parts of a document, escapes and
numbers of every form, and the names of the floats that are not finite. It raises where
a text is no document, where an integer has too many digits, and where brackets are
nested deeper than the interpreter recurses. What a number with a fraction or an exponent
is read as is a parameter.

A value is read as far as it goes, whatever comes after it (`readValue_decided`). So a
text that was cut off before the last bracket of an object was closed is not read at all
(`loads_of_torn`).

An escape of an unpaired surrogate, which is read as a character that no text of this
language has, is not read here.
-/

set_option autoImplicit false

namespace AgentServe.JsonText

open Lib

/-- How finite floats are shown, and what a number with a fraction or an exponent is read as. -/
structure FloatText where
  shown : ℚ → List Char
  value : List Char → PyFloat

/-- How the interpreter shows and reads floats, and how deep its decoder recurses. -/
structure JsonCodec where
  floats : FloatText
  depth : ℕ

/-! ## Blanks -/

def isBlank (c : Char) : Bool := [' ', '\t', '\n', '\r'].contains c

def skipBlanks (text : List Char) : List Char := text.dropWhile isBlank

/-! ## Numbers -/

/-- A run of digits, and what follows it. -/
def scanDigits (text : List Char) : List Char × List Char :=
  (text.takeWhile Char.isDigit, text.dropWhile Char.isDigit)

/-- The digits before a point. Only zero begins with a zero. -/
def scanWhole : List Char → Option (List Char × List Char)
  | [] => none
  | c :: rest =>
    if c = '0' then some (['0'], rest)
    else if c.isDigit then some (scanDigits (c :: rest))
    else none

/-- A point with digits behind it. -/
def scanFraction : List Char → List Char × List Char
  | [] => ([], [])
  | c :: rest =>
    if c = '.' ∧ (scanDigits rest).1 ≠ [] then (c :: (scanDigits rest).1, (scanDigits rest).2)
    else ([], c :: rest)

def scanSign : List Char → List Char × List Char
  | [] => ([], [])
  | c :: rest => if c = '+' ∨ c = '-' then ([c], rest) else ([], c :: rest)

/-- An exponent with digits in it. -/
def scanExponent : List Char → List Char × List Char
  | [] => ([], [])
  | c :: rest =>
    if (c = 'e' ∨ c = 'E') ∧ (scanDigits (scanSign rest).2).1 ≠ [] then
      (c :: (scanSign rest).1 ++ (scanDigits (scanSign rest).2).1,
        (scanDigits (scanSign rest).2).2)
    else ([], c :: rest)

/-- The minus sign of a number. -/
def scanMinus : List Char → List Char × List Char
  | [] => ([], [])
  | c :: rest => if c = '-' then ([c], rest) else ([], c :: rest)

/-- Read a number. It is a float if it has a fraction or an exponent. -/
def readNumber (floats : FloatText) (text : List Char) : Option (PyValue × List Char) :=
  let minus := scanMinus text
  (scanWhole minus.2).bind fun whole =>
    let fraction := scanFraction whole.2
    let exponent := scanExponent fraction.2
    if fraction.1 ++ exponent.1 ≠ [] then
      some (.float (floats.value (minus.1 ++ whole.1 ++ fraction.1 ++ exponent.1)), exponent.2)
    else if whole.1.length ≤ Number.maxStrDigits then
      let n : ℤ := Nat.ofDigitChars 10 whole.1 0
      some (.int (if minus.1 = [] then n else -n), exponent.2)
    else none

/-! ## Strings -/

def hexValue (c : Char) : Option ℕ :=
  if c.isDigit then some (c.toNat - 48)
  else if 97 ≤ c.toNat ∧ c.toNat ≤ 102 then some (c.toNat - 87)
  else if 65 ≤ c.toNat ∧ c.toNat ≤ 70 then some (c.toNat - 55)
  else none

/-- Four hexadecimal digits. -/
def hexUnit : List Char → Option (ℕ × List Char)
  | a :: b :: c :: d :: rest => do
    let a ← hexValue a
    let b ← hexValue b
    let c ← hexValue c
    let d ← hexValue d
    return (((a * 16 + b) * 16 + c) * 16 + d, rest)
  | _ => none

/-- The second half of a pair of surrogates. -/
def lowSurrogate : List Char → Option (ℕ × List Char)
  | c :: u :: rest =>
    if c = backslash ∧ u = 'u' then
      (hexUnit rest).filter fun low => 0xdc00 ≤ low.1 ∧ low.1 < 0xe000
    else none
  | _ => none

/-- A code point after a backslash and a `u`. -/
def codePoint (text : List Char) : Option (Char × List Char) := do
  let (u, rest) ← hexUnit text
  if 0xd800 ≤ u ∧ u < 0xdc00 then
    let (v, rest) ← lowSurrogate rest
    return (Char.ofNat (0x10000 + (u - 0xd800) * 1024 + (v - 0xdc00)), rest)
  else if 0xdc00 ≤ u ∧ u < 0xe000 then none
  else return (Char.ofNat u, rest)

/-- A character after a backslash. -/
def unescape : List Char → Option (Char × List Char)
  | [] => none
  | letter :: rest =>
    if letter = 'u' then codePoint rest
    else (((('/', '/') :: letters).find? fun e => e.2 = letter)).map fun e => (e.1, rest)

/-- The characters of a string up to its end. Control characters have to be escaped. -/
def readChars : ℕ → List Char → Option (List Char × List Char)
  | 0, _ => none
  | _ + 1, [] => none
  | n + 1, c :: rest =>
    if c = quote then some ([], rest)
    else if c = backslash then
      (unescape rest).bind fun (d, rest) =>
        (readChars n rest).map fun (s, rest) => (d :: s, rest)
    else if c.toNat < 32 then none
    else (readChars n rest).map fun (s, rest) => (c :: s, rest)

/-- A string after its opening quote. -/
def readString (text : List Char) : Option (String × List Char) :=
  (readChars (text.length + 1) text).map fun (s, rest) => (String.ofList s, rest)

/-! ## Documents -/

/-- The names of values. -/
def constants : List (List Char × PyValue) := [
  ("null".toList, .none), ("true".toList, .bool true), ("false".toList, .bool false),
  ("NaN".toList, .float .nan), ("Infinity".toList, .float .inf),
  ("-Infinity".toList, .float .negInf)]

def readConstant (text : List Char) : Option (PyValue × List Char) :=
  (constants.find? fun e => e.1.isPrefixOf text).map fun e => (e.2, text.drop e.1.length)

section Brackets

variable {α : Type} (item : List Char → Option (α × List Char)) (close : Char)

/-- The items up to a closing bracket, with commas between them. -/
def readItems : ℕ → List Char → Option (List α × List Char)
  | 0, _ => none
  | n + 1, text => do
    let (a, rest) ← item text
    match skipBlanks rest with
    | [] => none
    | c :: rest =>
      if c = close then return ([a], rest)
      else if c = ',' then
        let (more, rest) ← readItems n (skipBlanks rest)
        return (a :: more, rest)
      else none

/-- What is inside brackets, after the opening one. -/
def readInside (text : List Char) : Option (List α × List Char) :=
  if (skipBlanks text).head? = some close then some ([], (skipBlanks text).tail)
  else readItems item close (text.length + 1) (skipBlanks text)

end Brackets

/-- A member of an object: a string, a colon and a value. -/
def readMember (value : List Char → Option (PyValue × List Char)) :
    List Char → Option ((String × PyValue) × List Char)
  | [] => none
  | c :: rest =>
    if c = quote then
      (readString rest).bind fun (key, rest) =>
        match skipBlanks rest with
        | [] => none
        | d :: rest =>
          if d = ':' then (value (skipBlanks rest)).map fun (v, rest) => ((key, v), rest)
          else none
    else none

/-- Read a value with brackets nested at most as deep as the first argument says. Of several
members of one name, the last one counts. -/
def readValue (floats : FloatText) : ℕ → List Char → Option (PyValue × List Char)
  | 0, _ => none
  | depth + 1, text =>
    match text with
    | [] => none
    | c :: rest =>
      if c = quote then (readString rest).map fun (s, rest) => (.str s, rest)
      else if c = '\x7b' then
        (readInside (readMember (readValue floats depth)) '\x7d' rest).map fun (members, rest) =>
          (.dict (Dict.ofItems members).items, rest)
      else if c = '[' then
        (readInside (readValue floats depth) ']' rest).map fun (items, rest) =>
          (.list items, rest)
      else (readConstant (c :: rest)).or (readNumber floats (c :: rest))

/-- `json.loads`. -/
def loads (floats : FloatText) (depth : ℕ) (text : List Char) : Option PyValue := do
  let (v, rest) ← readValue floats depth (skipBlanks text)
  if skipBlanks rest = [] then return v else none

/-! ## What is read does not depend on what follows -/

/-- The characters that end a number. -/
def isDelimiter (c : Char) : Bool := isBlank c || [',', ']', '\x7d'].contains c

/-- A rest that begins with a character that ends a number. -/
def Delimited (rest : List Char) : Prop := ∃ c tail, rest = c :: tail ∧ isDelimiter c = true

/-- A reader that is done before the end of a text reads the same in every longer text. -/
def Closed {α : Type} (read : List Char → Option (α × List Char)) : Prop :=
  ∀ p a r q, read p = some (a, r) → read (p ++ q) = some (a, r ++ q)

/-- The same, where a delimiter follows what was read. -/
def Decided {α : Type} (read : List Char → Option (α × List Char)) : Prop :=
  ∀ p a r q, read p = some (a, r) → Delimited r → read (p ++ q) = some (a, r ++ q)

theorem Closed.decided {α : Type} {read : List Char → Option (α × List Char)}
    (closed : Closed read) : Decided read := fun p a r q found _ => closed p a r q found

theorem Delimited.ne_nil {rest : List Char} (delimited : Delimited rest) : rest ≠ [] := by
  obtain ⟨c, tail, rfl, _⟩ := delimited
  exact List.cons_ne_nil c tail

theorem dropWhile_append_of_ne_nil {test : Char → Bool} {p : List Char} (q : List Char)
    (some_left : p.dropWhile test ≠ []) :
    (p ++ q).dropWhile test = p.dropWhile test ++ q := by
  rw [List.dropWhile_append, if_neg]
  simpa using some_left

theorem skipBlanks_append {p : List Char} (q : List Char) (some_left : skipBlanks p ≠ []) :
    skipBlanks (p ++ q) = skipBlanks p ++ q := dropWhile_append_of_ne_nil q some_left

theorem scanDigits_append {p : List Char} (q : List Char) (some_left : (scanDigits p).2 ≠ []) :
    scanDigits (p ++ q) = ((scanDigits p).1, (scanDigits p).2 ++ q) := by
  have rest := dropWhile_append_of_ne_nil q some_left
  have shorter : (p.takeWhile Char.isDigit).length ≠ p.length := by
    intro same
    have whole := List.takeWhile_append_dropWhile (p := Char.isDigit) (l := p)
    have lengths := congrArg List.length whole
    rw [List.length_append] at lengths
    exact some_left (List.length_eq_zero_iff.mp (by unfold scanDigits; simp only; omega))
  rw [scanDigits, scanDigits, rest, List.takeWhile_append, if_neg shorter]

/-! ### Numbers -/

theorem scanWhole_append {p : List Char} {whole r : List Char} (q : List Char)
    (found : scanWhole p = some (whole, r)) (some_left : r ≠ []) :
    scanWhole (p ++ q) = some (whole, r ++ q) := by
  cases p with
  | nil => cases found
  | cons c rest =>
      simp only [List.cons_append, scanWhole] at found ⊢
      split at found
      · rename_i zero
        cases found
        rw [if_pos zero]
      · rename_i nonzero
        rw [if_neg nonzero]
        split at found
        · rename_i digit
          rw [if_pos digit, ← List.cons_append]
          have parts := Option.some.inj found
          have left : (scanDigits (c :: rest)).2 ≠ [] := by
            rw [parts]
            exact some_left
          rw [scanDigits_append q left, parts]
        · cases found

theorem scanFraction_append {p : List Char} (q : List Char)
    (some_left : (scanFraction p).2 ≠ []) (further : (scanFraction p).2.head? ≠ some '.') :
    scanFraction (p ++ q) = ((scanFraction p).1, (scanFraction p).2 ++ q) := by
  cases p with
  | nil => exact absurd rfl some_left
  | cons c rest =>
      simp only [List.cons_append, scanFraction] at some_left further ⊢
      split at some_left
      · rename_i point
        rw [scanDigits_append q some_left, if_pos point, if_pos point]
      · rename_i other
        rw [if_neg other] at further
        have differ : c ≠ '.' := fun same => further (by rw [same]; rfl)
        rw [if_neg fun both => differ both.1, if_neg other]
        rfl

theorem scanSign_append {p : List Char} (q : List Char) (more : p ≠ []) :
    scanSign (p ++ q) = ((scanSign p).1, (scanSign p).2 ++ q) := by
  cases p with
  | nil => exact absurd rfl more
  | cons c rest =>
      simp only [List.cons_append, scanSign]
      split <;> rfl

theorem scanExponent_append {p : List Char} (q : List Char)
    (delimited : Delimited (scanExponent p).2) :
    scanExponent (p ++ q) = ((scanExponent p).1, (scanExponent p).2 ++ q) := by
  have some_left := delimited.ne_nil
  cases p with
  | nil => exact absurd rfl some_left
  | cons c rest =>
      simp only [List.cons_append, scanExponent] at delimited some_left ⊢
      split at some_left
      · rename_i exponent
        have more : rest ≠ [] := by
          rintro rfl
          exact exponent.2 rfl
        rw [scanSign_append q more, scanDigits_append q some_left, if_pos exponent,
          if_pos exponent]
      · rename_i other
        rw [if_neg other] at delimited
        obtain ⟨d, tail, same, delimiter⟩ := delimited
        obtain ⟨rfl, rfl⟩ := List.cons_eq_cons.mp same
        have letter : ¬ (c = 'e' ∨ c = 'E') := by
          rintro (rfl | rfl)
          · exact absurd delimiter (by decide)
          · exact absurd delimiter (by decide)
        rw [if_neg fun both => letter both.1, if_neg other]
        rfl

theorem scanMinus_append {p : List Char} (q : List Char) (more : p ≠ []) :
    scanMinus (p ++ q) = ((scanMinus p).1, (scanMinus p).2 ++ q) := by
  cases p with
  | nil => exact absurd rfl more
  | cons c rest =>
      simp only [List.cons_append, scanMinus]
      split <;> rfl

/-- An exponent leaves what follows the fraction if it does not take it. -/
theorem head?_of_scanExponent {p : List Char} (delimited : Delimited (scanExponent p).2) :
    p ≠ [] ∧ p.head? ≠ some '.' := by
  cases p with
  | nil => exact absurd rfl delimited.ne_nil
  | cons c rest =>
      refine ⟨List.cons_ne_nil c rest, ?_⟩
      intro point
      have point : c = '.' := Option.some.inj point
      subst point
      have plain : scanExponent ('.' :: rest) = ([], '.' :: rest) := by
        rw [scanExponent, if_neg]
        rintro ⟨letter | letter, _⟩
        · exact absurd letter (by decide)
        · exact absurd letter (by decide)
      rw [plain] at delimited
      obtain ⟨d, tail, same, delimiter⟩ := delimited
      obtain ⟨rfl, _⟩ := List.cons_eq_cons.mp same
      exact absurd delimiter (by decide)

/-- A number is read as far as it goes. -/
theorem readNumber_decided (floats : FloatText) : Decided (readNumber floats) := by
  intro p v r q found delimited
  obtain ⟨whole, first, found⟩ := Option.bind_eq_some_iff.mp found
  have rest : (scanExponent (scanFraction whole.2).2).2 = r := by
    simp only at found
    split at found
    · cases found
      rfl
    · split at found
      · cases found
        rfl
      · cases found
  rw [← rest] at delimited
  obtain ⟨left, further⟩ := head?_of_scanExponent delimited
  have more : whole.2 ≠ [] := by
    intro none_left
    rw [none_left] at left
    exact left rfl
  have given : p ≠ [] := by
    rintro rfl
    cases first
  have same := scanExponent_append q delimited
  rw [readNumber]
  simp only [scanMinus_append q given, scanWhole_append q first more, Option.bind_some,
    scanFraction_append q left further, same]
  simp only at found
  split at found
  · rename_i float
    rw [if_pos float]
    cases found
    rfl
  · rename_i whole_number
    rw [if_neg whole_number]
    split at found
    · rename_i short
      rw [if_pos short]
      cases found
      rfl
    · cases found

/-! ### Strings -/

theorem hexUnit_closed : Closed hexUnit := by
  intro p u r q found
  rcases p with _ | ⟨a, _ | ⟨b, _ | ⟨c, _ | ⟨d, rest⟩⟩⟩⟩
  · cases found
  · cases found
  · cases found
  · cases found
  · obtain ⟨w, first, found⟩ := Option.bind_eq_some_iff.mp found
    obtain ⟨x, second, found⟩ := Option.bind_eq_some_iff.mp found
    obtain ⟨y, third, found⟩ := Option.bind_eq_some_iff.mp found
    obtain ⟨z, fourth, found⟩ := Option.bind_eq_some_iff.mp found
    cases found
    simp [hexUnit, first, second, third, fourth]

theorem lowSurrogate_closed : Closed lowSurrogate := by
  intro p v r q found
  rcases p with _ | ⟨c, _ | ⟨u, rest⟩⟩
  · cases found
  · cases found
  · simp only [lowSurrogate, List.cons_append] at found ⊢
    split at found
    · rename_i opens
      obtain ⟨unit, low⟩ := Option.filter_eq_some_iff.mp found
      rw [if_pos opens, hexUnit_closed rest v r q unit]
      exact Option.filter_eq_some_iff.mpr ⟨rfl, low⟩
    · cases found

theorem codePoint_closed : Closed codePoint := by
  intro p c r q found
  obtain ⟨⟨u, rest⟩, unit, found⟩ := Option.bind_eq_some_iff.mp found
  have longer := hexUnit_closed p u rest q unit
  rw [codePoint, longer]
  simp only [Option.bind_eq_bind, Option.bind_some] at found ⊢
  split at found
  · rename_i high
    obtain ⟨⟨v, last⟩, low, found⟩ := Option.bind_eq_some_iff.mp found
    obtain ⟨rfl, rfl⟩ := Prod.mk.inj (Option.some.inj found)
    rw [if_pos high, lowSurrogate_closed rest v last q low]
    rfl
  · rename_i not_high
    rw [if_neg not_high]
    split at found
    · cases found
    · rename_i not_low
      cases found
      rw [if_neg not_low]
      rfl

theorem unescape_closed : Closed unescape := by
  intro p c r q found
  cases p with
  | nil => cases found
  | cons letter rest =>
      simp only [unescape, List.cons_append] at found ⊢
      split at found
      · rename_i unit
        rw [if_pos unit]
        exact codePoint_closed rest c r q found
      · rename_i plain
        rw [if_neg plain]
        obtain ⟨e, at_letter, same⟩ := Option.map_eq_some_iff.mp found
        cases same
        rw [at_letter]
        rfl

/-- More text, and more steps, do not change what the characters of a string are. -/
theorem readChars_append {n m : ℕ} {p s r : List Char} (q : List Char)
    (found : readChars n p = some (s, r)) (enough : n ≤ m) :
    readChars m (p ++ q) = some (s, r ++ q) := by
  induction n generalizing m p s with
  | zero => cases found
  | succ n ih =>
      obtain ⟨m, rfl⟩ : ∃ k, m = k + 1 := ⟨m - 1, by omega⟩
      have fewer : n ≤ m := by omega
      cases p with
      | nil => cases found
      | cons c rest =>
          simp only [readChars, List.cons_append] at found ⊢
          split at found
          · rename_i ends
            cases found
            rw [if_pos ends]
          · rename_i inside
            rw [if_neg inside]
            split at found
            · rename_i escaped
              rw [if_pos escaped]
              obtain ⟨⟨d, later⟩, character, found⟩ := Option.bind_eq_some_iff.mp found
              obtain ⟨⟨more, last⟩, others, same⟩ := Option.map_eq_some_iff.mp found
              cases same
              rw [unescape_closed rest d later q character, Option.bind_some,
                ih others fewer, Option.map_some]
            · rename_i plain
              rw [if_neg plain]
              split at found
              · cases found
              · rename_i printable
                obtain ⟨⟨more, last⟩, others, same⟩ := Option.map_eq_some_iff.mp found
                cases same
                rw [if_neg printable, ih others fewer, Option.map_some]

theorem readString_closed : Closed readString := by
  intro p s r q found
  obtain ⟨⟨characters, rest⟩, read, same⟩ := Option.map_eq_some_iff.mp found
  cases same
  rw [readString, readChars_append q read (by rw [List.length_append]; omega), Option.map_some]

/-! ### Brackets -/

section Brackets

variable {α : Type} {item : List Char → Option (α × List Char)} {close : Char}

/-- What a bracket holds ends with delimiters. -/
theorem delimited_of_skipBlanks {rest tail : List Char} {c : Char}
    (skipped : skipBlanks rest = c :: tail) (delimiter : isDelimiter c = true) :
    Delimited rest := by
  cases rest with
  | nil => cases skipped
  | cons d more =>
      refine ⟨d, more, rfl, ?_⟩
      by_cases blank : isBlank d = true
      · rw [isDelimiter, blank]
        rfl
      · rw [skipBlanks, List.dropWhile_cons_of_neg blank] at skipped
        obtain ⟨rfl, _⟩ := List.cons_eq_cons.mp skipped
        exact delimiter

/-- There is no item at the end of a text. -/
theorem readItems_nil (nothing : item [] = none) (n : ℕ) : readItems item close n [] = none := by
  cases n with
  | zero => rfl
  | succ n => simp [readItems, nothing]

theorem readItems_append (nothing : item [] = none) (decided : Decided item)
    (closes : isDelimiter close = true) {n m : ℕ} {p r : List Char} {items : List α}
    (q : List Char) (found : readItems item close n p = some (items, r)) (enough : n ≤ m) :
    readItems item close m (p ++ q) = some (items, r ++ q) := by
  induction n generalizing m p items with
  | zero => cases found
  | succ n ih =>
      obtain ⟨m, rfl⟩ : ∃ k, m = k + 1 := ⟨m - 1, by omega⟩
      have fewer : n ≤ m := by omega
      obtain ⟨⟨a, rest⟩, first, found⟩ := Option.bind_eq_some_iff.mp found
      simp only at found
      cases skipped : skipBlanks rest with
      | nil =>
          rw [skipped] at found
          cases found
      | cons c tail =>
          rw [skipped] at found
          have more : skipBlanks (rest ++ q) = c :: (tail ++ q) := by
            rw [skipBlanks_append q (by rw [skipped]; exact List.cons_ne_nil c tail), skipped]
            rfl
          simp only at found
          split at found
          · rename_i ends
            cases found
            have delimited := delimited_of_skipBlanks skipped (ends ▸ closes)
            simp [readItems, decided p a rest q first delimited, more, ends]
          · rename_i differ
            split at found
            · rename_i comma
              obtain ⟨⟨others, last⟩, later, found⟩ := Option.bind_eq_some_iff.mp found
              cases found
              have delimited := delimited_of_skipBlanks skipped (by rw [comma]; decide)
              have some_left : skipBlanks tail ≠ [] := by
                intro none_left
                rw [none_left, readItems_nil nothing] at later
                cases later
              have next := ih later fewer
              rw [← skipBlanks_append q some_left] at next
              rw [readItems, decided p a rest q first delimited]
              simp only [Option.bind_eq_bind, Option.bind_some, more]
              rw [if_neg differ, if_pos comma, next]
              rfl
            · cases found

/-- What is inside a bracket is read up to the bracket that closes it. -/
theorem readInside_closed (nothing : item [] = none) (decided : Decided item)
    (closes : isDelimiter close = true) : Closed (readInside item close) := by
  intro p items r q found
  unfold readInside at found ⊢
  split at found
  · rename_i empty
    cases found
    cases skipped : skipBlanks p with
    | nil =>
        rw [skipped] at empty
        cases empty
    | cons c tail =>
        rw [skipped] at empty
        rw [skipBlanks_append q (by rw [skipped]; exact List.cons_ne_nil c tail), skipped,
          List.cons_append, if_pos (by exact empty)]
        rfl
  · rename_i nonempty
    have some_left : skipBlanks p ≠ [] := by
      intro none_left
      rw [none_left, readItems_nil nothing] at found
      cases found
    have first : (skipBlanks p ++ q).head? ≠ some close := by
      rwa [List.head?_append_of_ne_nil _ some_left]
    rw [skipBlanks_append q some_left, if_neg first]
    exact readItems_append nothing decided closes q found (by rw [List.length_append]; omega)

end Brackets

/-! ### Values -/

theorem readMember_decided {value : List Char → Option (PyValue × List Char)}
    (nothing : value [] = none) (decided : Decided value) : Decided (readMember value) := by
  intro p e r q found delimited
  cases p with
  | nil => cases found
  | cons c rest =>
      simp only [readMember, List.cons_append] at found ⊢
      split at found
      · rename_i opens
        obtain ⟨⟨key, later⟩, name, found⟩ := Option.bind_eq_some_iff.mp found
        rw [if_pos opens, readString_closed rest key later q name, Option.bind_some]
        simp only at found ⊢
        cases skipped : skipBlanks later with
        | nil =>
            rw [skipped] at found
            cases found
        | cons d tail =>
            rw [skipped] at found
            have more : skipBlanks (later ++ q) = d :: (tail ++ q) := by
              rw [skipBlanks_append q (by rw [skipped]; exact List.cons_ne_nil d tail), skipped]
              rfl
            rw [more]
            simp only at found ⊢
            split at found
            · rename_i colon
              obtain ⟨⟨v, last⟩, read, same⟩ := Option.map_eq_some_iff.mp found
              cases same
              have some_left : skipBlanks tail ≠ [] := by
                intro none_left
                rw [none_left, nothing] at read
                cases read
              rw [if_pos colon, skipBlanks_append q some_left, decided _ v last q read delimited]
              rfl
            · cases found
      · cases found

/-- The names of values are told apart by how they begin. -/
theorem readConstant_append {e : List Char × PyValue} (member : e ∈ constants)
    (rest : List Char) : readConstant (e.1 ++ rest) = some (e.2, rest) := by
  simp only [constants, List.mem_cons, List.not_mem_nil, or_false] at member
  rcases member with rfl | rfl | rfl | rfl | rfl | rfl <;> rfl

theorem readConstant_closed : Closed readConstant := by
  intro p v r q found
  obtain ⟨e, at_front, same⟩ := Option.map_eq_some_iff.mp found
  cases same
  have member : e ∈ constants := List.mem_of_find?_eq_some at_front
  have begins : e.1.isPrefixOf p = true := by simpa using List.find?_some at_front
  obtain ⟨rest, rfl⟩ := List.isPrefixOf_iff_prefix.mp begins
  rw [List.append_assoc, readConstant_append member, List.drop_left]

theorem digit_of_scanWhole {p : List Char} {whole : List Char × List Char}
    (number : scanWhole p = some whole) : ∃ c rest, p = c :: rest ∧ c.isDigit = true := by
  cases p with
  | nil => cases number
  | cons c rest =>
      refine ⟨c, rest, rfl, ?_⟩
      simp only [scanWhole] at number
      split at number
      · rename_i zero
        rw [zero]
        rfl
      · split at number
        · assumption
        · cases number

/-- What begins like a number is not the name of a value. -/
theorem readConstant_of_number {p : List Char} {whole : List Char × List Char} (q : List Char)
    (number : scanWhole (scanMinus p).2 = some whole) : readConstant (p ++ q) = none := by
  have unnamed : ∀ e ∈ constants, e.1.isPrefixOf (p ++ q) = false := by
    obtain ⟨d, rest, body, digit⟩ := digit_of_scanWhole number
    have differ : ∀ c : Char, c.isDigit = false → ¬ c = d := by
      rintro c letter rfl
      rw [letter] at digit
      cases digit
    cases p with
    | nil => cases body
    | cons c tail =>
        simp only [scanMinus] at body
        intro e member
        simp only [constants, List.mem_cons, List.not_mem_nil, or_false] at member
        split at body
        · rename_i minus
          obtain rfl : tail = d :: rest := body
          rcases member with rfl | rfl | rfl | rfl | rfl | rfl <;>
            simp [List.isPrefixOf, minus, differ 'I' rfl]
        · obtain ⟨rfl, rfl⟩ := List.cons_eq_cons.mp body
          rcases member with rfl | rfl | rfl | rfl | rfl | rfl <;>
            simp [List.isPrefixOf, differ 'n' rfl, differ 't' rfl, differ 'f' rfl, differ 'N' rfl,
              differ 'I' rfl, differ '-' rfl]
  rw [readConstant, List.find?_eq_none.mpr]
  · rfl
  · intro e member
    rw [unnamed e member]
    exact Bool.false_ne_true

theorem readValue_nil (floats : FloatText) (depth : ℕ) : readValue floats depth [] = none := by
  cases depth <;> rfl

/-- **A value is read as far as it goes.** What follows a delimiter does not matter. -/
theorem readValue_decided (floats : FloatText) (depth : ℕ) :
    Decided (readValue floats depth) := by
  induction depth with
  | zero =>
      intro p v r q found
      cases found
  | succ depth ih =>
      have nothing := readValue_nil floats depth
      have members : Closed (readInside (readMember (readValue floats depth)) '\x7d') :=
        readInside_closed rfl (readMember_decided nothing ih) (by decide)
      have items : Closed (readInside (readValue floats depth) ']') :=
        readInside_closed nothing ih (by decide)
      intro p v r q found delimited
      cases p with
      | nil => cases found
      | cons c rest =>
          simp only [readValue, List.cons_append] at found ⊢
          split at found
          · rename_i string
            obtain ⟨⟨s, last⟩, read, same⟩ := Option.map_eq_some_iff.mp found
            cases same
            rw [if_pos string, readString_closed rest s last q read, Option.map_some]
          · rename_i not_string
            rw [if_neg not_string]
            split at found
            · rename_i brace
              obtain ⟨⟨inside, last⟩, read, same⟩ := Option.map_eq_some_iff.mp found
              cases same
              rw [if_pos brace, members rest inside last q read, Option.map_some]
            · rename_i not_brace
              rw [if_neg not_brace]
              split at found
              · rename_i bracket
                obtain ⟨⟨inside, last⟩, read, same⟩ := Option.map_eq_some_iff.mp found
                cases same
                rw [if_pos bracket, items rest inside last q read, Option.map_some]
              · rename_i not_bracket
                rw [if_neg not_bracket, ← List.cons_append]
                rcases Option.or_eq_some_iff.mp found with named | ⟨_, number⟩
                · rw [readConstant_closed _ _ _ q named]
                  rfl
                · obtain ⟨whole, first, _⟩ := Option.bind_eq_some_iff.mp number
                  rw [readConstant_of_number q first, Option.none_or]
                  exact readNumber_decided floats _ v r q number delimited

/-- An object is read up to the bracket that closes it. -/
theorem readValue_object (floats : FloatText) (depth : ℕ) {p r : List Char} {v : PyValue}
    (q : List Char) (found : readValue floats depth ('\x7b' :: p) = some (v, r)) :
    readValue floats depth ('\x7b' :: p ++ q) = some (v, r ++ q) := by
  cases depth with
  | zero => cases found
  | succ depth =>
      have nothing := readValue_nil floats depth
      have members : Closed (readInside (readMember (readValue floats depth)) '\x7d') :=
        readInside_closed rfl (readMember_decided nothing (readValue_decided floats depth))
          (by decide)
      have not_string : ¬ '\x7b' = quote := by decide
      simp only [readValue, List.cons_append, if_neg not_string, if_true] at found ⊢
      obtain ⟨⟨inside, last⟩, read, same⟩ := Option.map_eq_some_iff.mp found
      cases same
      rw [members p inside last q read, Option.map_some]

/-! ## Torn texts -/

/-- **Torn texts.** Of a text that holds an object and ends with its bracket, no shorter part from
the start on can be read. -/
theorem loads_of_torn {floats : FloatText} {depth : ℕ} {first rest : List Char} {v : PyValue}
    (whole : readValue floats depth ('\x7b' :: first ++ rest) = some (v, []))
    (cut : rest ≠ []) : loads floats depth ('\x7b' :: first) = none := by
  have unblank : skipBlanks ('\x7b' :: first) = '\x7b' :: first := by
    rw [skipBlanks, List.dropWhile_cons_of_neg (by decide)]
  rw [loads, unblank]
  cases read : readValue floats depth ('\x7b' :: first) with
  | none => rfl
  | some found =>
      have longer := readValue_object floats depth rest read
      rw [whole] at longer
      have ends := (Prod.mk.inj (Option.some.inj longer)).2
      exact absurd (List.append_eq_nil_iff.mp ends.symm).2 cut

end AgentServe.JsonText
