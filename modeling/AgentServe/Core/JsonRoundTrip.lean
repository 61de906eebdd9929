import AgentServe.Core.JsonReader

/-!
# Writing JSON documents

The text of a value as the standard encoder writes it. A value whose finite floats are
shown as numbers that are read back, and whose objects have distinct names, is read back
from its text (`loads_dumps`), as far as the decoder goes into brackets.
-/

set_option autoImplicit false

namespace AgentServe.JsonText

open Lib

/-! ## Texts -/

def intText (n : ℤ) : List Char :=
  (if n < 0 then ['-'] else []) ++ Nat.toDigits 10 n.natAbs

def floatText (floats : FloatText) : PyFloat → List Char
  | .finite q => floats.shown q
  | .inf => "Infinity".toList
  | .negInf => "-Infinity".toList
  | .nan => "NaN".toList

/-- The parts of a bracket, with commas between them. -/
def joined (parts : List (List Char)) : List Char := [',', ' '].intercalate parts

mutual

/-- `json.dumps`. Integers with too many digits raise. -/
def dumps (floats : FloatText) : PyValue → Option (List Char)
  | .none => some "null".toList
  | .bool b => some (if b then "true".toList else "false".toList)
  | .int n => if Floats.digitCount n.natAbs ≤ Number.maxStrDigits then some (intText n) else none
  | .float x => some (floatText floats x)
  | .str s => some (literal s)
  | .list items => (dumpItems floats items).map fun parts => ['['] ++ joined parts ++ [']']
  | .dict items => (dumpMembers floats items).map object

def dumpItems (floats : FloatText) : List PyValue → Option (List (List Char))
  | [] => some []
  | v :: rest => do
    let text ← dumps floats v
    let more ← dumpItems floats rest
    return text :: more

def dumpMembers (floats : FloatText) : List (String × PyValue) → Option (List (List Char))
  | [] => some []
  | (key, v) :: rest => do
    let text ← dumps floats v
    let more ← dumpMembers floats rest
    return member key text :: more

end

/-! ## Numbers -/

/-- The digits before a point: a zero alone, or digits that do not begin with one. -/
def IsWhole (text : List Char) : Prop :=
  text = ['0'] ∨ ∃ c rest, text = c :: rest ∧ c ≠ '0' ∧ ∀ d ∈ text, d.isDigit = true

/-- A fraction or an exponent: nothing, or a mark, a sign that may be missing, and digits. -/
def IsPart (marks signs : List Char) (text : List Char) : Prop :=
  text = [] ∨ ∃ mark sign digits, text = mark :: sign ++ digits ∧ mark ∈ marks ∧
    (sign = [] ∨ ∃ c ∈ signs, sign = [c]) ∧ digits ≠ [] ∧ ∀ d ∈ digits, d.isDigit = true

/-- The parts of a number. -/
structure NumberForm where
  minus : List Char
  whole : List Char
  fraction : List Char
  exponent : List Char
  sign : minus = [] ∨ minus = ['-']
  begins : IsWhole whole
  point : IsPart ['.'] [] fraction
  scale : IsPart ['e', 'E'] ['+', '-'] exponent

def NumberForm.text (form : NumberForm) : List Char :=
  form.minus ++ form.whole ++ form.fraction ++ form.exponent

/-- A float is shown as a number with a fraction or an exponent, and read back. -/
def FloatText.ReadsBack (floats : FloatText) (q : ℚ) : Prop :=
  (∃ form : NumberForm, form.text = floats.shown q ∧ form.fraction ++ form.exponent ≠ []) ∧
    floats.value (floats.shown q) = .finite q

/-- A rest that does not go on with a number. -/
def Stops (rest : List Char) : Prop := ∀ c, rest.head? = some c → isDelimiter c = true

theorem scanDigits_of_digits {digits rest : List Char} (all : ∀ d ∈ digits, d.isDigit = true)
    (ends : ∀ c, rest.head? = some c → c.isDigit = false) :
    scanDigits (digits ++ rest) = (digits, rest) := by
  have stop : rest.takeWhile Char.isDigit = [] ∧ rest.dropWhile Char.isDigit = rest := by
    cases rest with
    | nil => exact ⟨rfl, rfl⟩
    | cons c tail =>
        have other := ends c rfl
        constructor <;> simp [other]
  unfold scanDigits
  rw [List.takeWhile_append_of_pos all, List.dropWhile_append_of_pos all, stop.1, stop.2,
    List.append_nil]

/-- A delimiter is no part of a number. -/
theorem of_isDelimiter {c : Char} (delimiter : isDelimiter c = true) :
    c.isDigit = false ∧ c ∉ ['.', 'e', 'E', '0'] := by
  have all : ∀ d ∈ [' ', '\t', '\n', '\r', ',', ']', '\x7d'],
      d.isDigit = false ∧ d ∉ ['.', 'e', 'E', '0'] := by simp
  apply all
  simpa [isDelimiter, isBlank, or_assoc] using delimiter

theorem Stops.nil : Stops [] := nofun

/-- What follows a part of a number. -/
theorem head?_of_isPart {marks signs part rest : List Char} (form : IsPart marks signs part)
    (stops : Stops rest) {c : Char} (first : (part ++ rest).head? = some c) :
    c ∈ marks ∨ isDelimiter c = true := by
  rcases form with rfl | ⟨mark, sign, digits, rfl, member, _⟩
  · exact .inr (stops c first)
  · cases first
    exact .inl member

theorem scanExponent_of_isPart {exponent rest : List Char}
    (form : IsPart ['e', 'E'] ['+', '-'] exponent) (stops : Stops rest) :
    scanExponent (exponent ++ rest) = (exponent, rest) := by
  rcases form with rfl | ⟨mark, sign, digits, rfl, letter, signed, some_digits, all⟩
  · cases rest with
    | nil => rfl
    | cons c tail =>
        have other := (of_isDelimiter (stops c rfl)).2
        rw [List.nil_append, scanExponent, if_neg]
        rintro ⟨rfl | rfl, _⟩
        · simp at other
        · simp at other
  · have scanned : scanDigits (digits ++ rest) = (digits, rest) :=
      scanDigits_of_digits all fun c first => (of_isDelimiter (stops c first)).1
    have opens : scanSign (sign ++ (digits ++ rest)) = (sign, digits ++ rest) := by
      rcases signed with rfl | ⟨c, plus, rfl⟩
      · cases digits with
        | nil => exact absurd rfl some_digits
        | cons d more =>
            have digit := all d List.mem_cons_self
            rw [List.nil_append, List.cons_append, scanSign, if_neg]
            rintro (rfl | rfl)
            · simp at digit
            · simp at digit
      · rw [List.singleton_append, scanSign, if_pos (by simpa using plus)]
    have member : mark = 'e' ∨ mark = 'E' := by simpa using letter
    rw [List.append_assoc, List.cons_append, scanExponent, opens, scanned,
      if_pos ⟨member, some_digits⟩]

theorem scanFraction_of_isPart {fraction rest : List Char} (form : IsPart ['.'] [] fraction)
    (ends : ∀ c, rest.head? = some c → c.isDigit = false ∧ c ≠ '.') :
    scanFraction (fraction ++ rest) = (fraction, rest) := by
  rcases form with rfl | ⟨mark, sign, digits, rfl, point, signed, some_digits, all⟩
  · cases rest with
    | nil => rfl
    | cons c tail =>
        rw [List.nil_append, scanFraction, if_neg]
        exact fun both => (ends c rfl).2 both.1
  · obtain rfl : sign = [] := by simpa using signed
    have scanned : scanDigits (digits ++ rest) = (digits, rest) :=
      scanDigits_of_digits all fun c first => (ends c first).1
    have dot : mark = '.' := by simpa using point
    rw [List.append_assoc, List.cons_append, List.nil_append, scanFraction, scanned,
      if_pos ⟨dot, some_digits⟩]
    rfl

theorem scanWhole_of_isWhole {whole rest : List Char} (form : IsWhole whole)
    (ends : ∀ c, rest.head? = some c → c.isDigit = false) :
    scanWhole (whole ++ rest) = some (whole, rest) := by
  rcases form with rfl | ⟨c, more, rfl, nonzero, all⟩
  · rfl
  · have scanned : scanDigits (c :: more ++ rest) = (c :: more, rest) :=
      scanDigits_of_digits all ends
    rw [List.cons_append, scanWhole, if_neg nonzero, if_pos (all c List.mem_cons_self),
      ← List.cons_append, scanned]

/-- **Numbers are read back.** -/
theorem readNumber_of_form (floats : FloatText) (form : NumberForm) {rest : List Char}
    (stops : Stops rest) :
    readNumber floats (form.text ++ rest) =
      if form.fraction ++ form.exponent ≠ [] then some (.float (floats.value form.text), rest)
      else if form.whole.length ≤ Number.maxStrDigits then
        let n : ℤ := Nat.ofDigitChars 10 form.whole 0
        some (.int (if form.minus = [] then n else -n), rest)
      else none := by
  have after : ∀ c, (form.exponent ++ rest).head? = some c → c.isDigit = false ∧ c ≠ '.' := by
    intro c first
    rcases head?_of_isPart form.scale stops first with letter | delimiter
    · have all : ∀ d ∈ ['e', 'E'], d.isDigit = false ∧ d ≠ '.' := by simp
      exact all c letter
    · obtain ⟨other, differ⟩ := of_isDelimiter delimiter
      exact ⟨other, fun same => differ (by rw [same]; simp)⟩
  have behind : ∀ c, (form.fraction ++ (form.exponent ++ rest)).head? = some c →
      c.isDigit = false := by
    intro c first
    rcases form.point with none | ⟨mark, sign, digits, some_fraction, point, _⟩
    · rw [none] at first
      exact (after c first).1
    · rw [some_fraction] at first
      have same : mark = c := Option.some.inj first
      have dot : mark = '.' := by simpa using point
      rw [← same, dot]
      rfl
  have minus :
      scanMinus (form.minus ++ (form.whole ++ (form.fraction ++ (form.exponent ++ rest)))) =
      (form.minus, form.whole ++ (form.fraction ++ (form.exponent ++ rest))) := by
    rcases form.sign with plus | minus
    · rw [plus, List.nil_append]
      obtain ⟨c, tail, whole, other⟩ : ∃ c tail, form.whole = c :: tail ∧ c ≠ '-' := by
        rcases form.begins with zero | ⟨c, tail, whole, _, all⟩
        · exact ⟨'0', [], zero, by decide⟩
        · refine ⟨c, tail, whole, ?_⟩
          rintro rfl
          have digit := all '-' (by rw [whole]; exact List.mem_cons_self)
          simp at digit
      rw [whole, List.cons_append, scanMinus, if_neg other]
    · rw [minus]
      rfl
  have split : form.text ++ rest =
      form.minus ++ (form.whole ++ (form.fraction ++ (form.exponent ++ rest))) := by
    simp only [NumberForm.text, List.append_assoc]
  rw [split, readNumber, minus]
  simp only [scanWhole_of_isWhole form.begins behind, Option.bind_some,
    scanFraction_of_isPart form.point after, scanExponent_of_isPart form.scale stops]
  rfl

/-- A positive number does not begin with a zero. -/
theorem head_toDigits {n : ℕ} (positive : 0 < n) :
    ∃ c rest, Nat.toDigits 10 n = c :: rest ∧ c ≠ '0' := by
  induction n using Nat.strongRecOn with
  | ind n ih =>
      by_cases small : n < 10
      · have nonzero : ∀ i : Fin 10, 0 < i.val → Nat.digitChar i ≠ '0' := by decide
        exact ⟨_, [], Nat.toDigits_of_lt_base small, nonzero ⟨n, small⟩ positive⟩
      · obtain ⟨c, rest, digits, nonzero⟩ := ih (n / 10) (by omega) (by omega)
        rw [Nat.toDigits_of_base_le (by decide) (by omega), digits]
        exact ⟨c, _, rfl, nonzero⟩

theorem isWhole_toDigits (n : ℕ) : IsWhole (Nat.toDigits 10 n) := by
  rcases Nat.eq_zero_or_pos n with rfl | positive
  · exact .inl (Nat.toDigits_zero 10)
  · obtain ⟨c, rest, digits, nonzero⟩ := head_toDigits positive
    refine .inr ⟨c, rest, digits, nonzero, ?_⟩
    exact fun d member => Nat.isDigit_of_mem_toDigits (by decide) (by decide) member

/-- The parts of an integer. -/
def intForm (n : ℤ) : NumberForm where
  minus := if n < 0 then ['-'] else []
  whole := Nat.toDigits 10 n.natAbs
  fraction := []
  exponent := []
  sign := by
    split
    · exact .inr rfl
    · exact .inl rfl
  begins := isWhole_toDigits n.natAbs
  point := .inl rfl
  scale := .inl rfl

theorem text_intForm (n : ℤ) : (intForm n).text = intText n := by
  simp [NumberForm.text, intForm, intText]

theorem readNumber_intText (floats : FloatText) {n : ℤ} {rest : List Char} (stops : Stops rest)
    (short : Floats.digitCount n.natAbs ≤ Number.maxStrDigits) :
    readNumber floats (intText n ++ rest) = some (.int n, rest) := by
  have whole : (intForm n).whole = Nat.toDigits 10 n.natAbs := rfl
  rw [← text_intForm, readNumber_of_form floats (intForm n) stops, if_neg (by simp [intForm]),
    if_pos (by rw [whole]; exact short), whole, Nat.ofDigitChars_ten_toDigits]
  by_cases negative : n < 0
  · simp only [intForm, if_pos negative, List.cons_ne_nil, if_false]
    rw [show -(n.natAbs : ℤ) = n by omega]
  · simp only [intForm, if_neg negative, if_true]
    rw [show (n.natAbs : ℤ) = n by omega]

theorem readNumber_shown {floats : FloatText} {q : ℚ} (reads : floats.ReadsBack q)
    {rest : List Char} (stops : Stops rest) :
    readNumber floats (floats.shown q ++ rest) = some (.float (.finite q), rest) := by
  obtain ⟨⟨form, same, float⟩, value⟩ := reads
  rw [← same] at value ⊢
  rw [readNumber_of_form floats form stops, if_pos float, value]

/-- The text of the floats that are natural numbers. -/
def wholeFloats : FloatText where
  shown q := intText q.num ++ ['.', '0']
  value text := .finite (Nat.ofDigitChars 10 (text.takeWhile Char.isDigit) 0)

theorem readsBack_whole (n : ℕ) : wholeFloats.ReadsBack n := by
  have text : wholeFloats.shown n = Nat.toDigits 10 n ++ ['.', '0'] := by
    have natural : ¬ ((n : ℤ) < 0) := by omega
    show intText (n : ℚ).num ++ ['.', '0'] = _
    rw [Rat.num_natCast, intText, if_neg natural, Int.natAbs_natCast, List.nil_append]
  have digits : (Nat.toDigits 10 n ++ ['.', '0']).takeWhile Char.isDigit = Nat.toDigits 10 n := by
    rw [List.takeWhile_append_of_pos]
    · simp
    · exact fun d member => Nat.isDigit_of_mem_toDigits (by decide) (by decide) member
  rw [FloatText.ReadsBack, text]
  constructor
  · refine ⟨⟨[], Nat.toDigits 10 n, ['.', '0'], [], .inl rfl, isWhole_toDigits n, ?_, .inl rfl⟩,
      by simp [NumberForm.text], by simp⟩
    exact .inr ⟨'.', [], ['0'], rfl, by simp, .inl rfl, by simp, by simp⟩
  · show PyFloat.finite (Nat.ofDigitChars 10 ((Nat.toDigits 10 n ++ ['.', '0']).takeWhile
      Char.isDigit) 0 : ℕ) = _
    rw [digits, Nat.ofDigitChars_ten_toDigits]

/-! ## Strings -/

theorem hexValue_digitChar {n : ℕ} (small : n < 16) : hexValue (Nat.digitChar n) = some n := by
  have all : ∀ i : Fin 16, hexValue (Nat.digitChar i) = some i.val := by decide
  exact all ⟨n, small⟩

theorem hexUnit_hexDigits {u : ℕ} (small : u < 0x10000) (rest : List Char) :
    hexUnit (Sha1.hexDigits 4 u ++ rest) = some (u, rest) := by
  simp only [Sha1.hexDigits, List.nil_append, List.cons_append, hexUnit,
    hexValue_digitChar (Nat.mod_lt _ (by decide : 0 < 16)), Option.bind_eq_bind,
    Option.bind_some, Option.pure_def, Option.some.injEq, Prod.mk.injEq, and_true]
  omega

/-- The units of a character are read back. -/
theorem unescape_units (c : Char) (rest : List Char) :
    ∃ text, ((units c.toNat).flatMap fun u => backslash :: 'u' :: Sha1.hexDigits 4 u) ++ rest =
        backslash :: text ∧ unescape text = some (c, rest) := by
  have valid : c.toNat < 0xd800 ∨ 0xdfff < c.toNat ∧ c.toNat < 0x110000 := by
    have valid := c.valid
    simp only [UInt32.isValidChar, Nat.isValidChar] at valid
    exact valid
  have opens (text : List Char) : unescape ('u' :: text) = codePoint text := rfl
  by_cases one : c.toNat < 0x10000
  · have not_high : ¬ (0xd800 ≤ c.toNat ∧ c.toNat < 0xdc00) := by omega
    have not_low : ¬ (0xdc00 ≤ c.toNat ∧ c.toNat < 0xe000) := by omega
    refine ⟨'u' :: (Sha1.hexDigits 4 c.toNat ++ rest), ?_, ?_⟩
    · rw [units, if_pos one]
      simp
    · rw [opens, codePoint, hexUnit_hexDigits one]
      simp only [Option.bind_eq_bind, Option.bind_some]
      rw [if_neg not_high, if_neg not_low, Char.ofNat_toNat]
      rfl
  · obtain ⟨u, upper⟩ : ∃ u, u = 0xd800 + (c.toNat - 0x10000) / 1024 := ⟨_, rfl⟩
    obtain ⟨v, lower⟩ : ∃ v, v = 0xdc00 + (c.toNat - 0x10000) % 1024 := ⟨_, rfl⟩
    have whole : 0x10000 + (u - 0xd800) * 1024 + (v - 0xdc00) = c.toNat := by omega
    have high : 0xd800 ≤ u ∧ u < 0xdc00 := by omega
    have low : 0xdc00 ≤ v ∧ v < 0xe000 := by omega
    refine ⟨'u' :: (Sha1.hexDigits 4 u ++ backslash :: 'u' :: (Sha1.hexDigits 4 v ++ rest)), ?_, ?_⟩
    · rw [units, if_neg one, ← upper, ← lower]
      simp
    · have second : lowSurrogate (backslash :: 'u' :: (Sha1.hexDigits 4 v ++ rest)) =
          some (v, rest) := by
        rw [lowSurrogate, if_pos ⟨rfl, rfl⟩, hexUnit_hexDigits (by omega)]
        simp only [Option.filter, low, and_self, decide_true, if_true]
      rw [opens, codePoint, hexUnit_hexDigits (by omega)]
      simp only [Option.bind_eq_bind, Option.bind_some]
      rw [if_pos high, second, Option.bind_some, whole, Char.ofNat_toNat]
      rfl

/-- An escaped character is read back. -/
theorem readChars_escape (n : ℕ) (c : Char) (rest : List Char) :
    readChars (n + 1) (escape c ++ rest) = (readChars n rest).map fun r => (c :: r.1, r.2) := by
  have opens : ∀ text, readChars (n + 1) (backslash :: text) =
      (unescape text).bind fun d => (readChars n d.2).map fun r => (d.1 :: r.1, r.2) := by
    intro text
    rw [readChars, if_neg (by decide), if_pos rfl]
  unfold escape
  split
  · rename_i e found
    have member : e ∈ letters := List.mem_of_find?_eq_some found
    have named : e.1 = c := by simpa using List.find?_some found
    have all : ∀ e ∈ letters, ∀ t, unescape (e.2 :: t) = some (e.1, t) := by
      intro e member t
      simp only [letters, List.mem_cons, List.not_mem_nil, or_false] at member
      rcases member with rfl | rfl | rfl | rfl | rfl | rfl | rfl <;> rfl
    rw [List.cons_append, List.singleton_append, opens, all e member, named]
    rfl
  · rename_i missing
    have differ : c ≠ quote ∧ c ≠ backslash := by
      constructor
      · rintro rfl
        revert missing
        decide
      · rintro rfl
        revert missing
        decide
    split
    · rename_i printable
      rw [List.singleton_append, readChars, if_neg differ.1, if_neg differ.2,
        if_neg (not_lt.mpr printable.1)]
    · obtain ⟨text, split, read⟩ := unescape_units c rest
      rw [split, opens, read]
      rfl

theorem escape_ne_nil (c : Char) : escape c ≠ [] := by
  intro empty
  have read := read_escape c []
  rw [empty] at read
  cases read

/-- **Strings are read back.** -/
theorem readString_literal (s : String) (rest : List Char) :
    ∃ text, literal s ++ rest = quote :: text ∧ readString text = some (s, rest) := by
  refine ⟨Lib.sequence escape [quote] s.toList ++ rest, rfl, ?_⟩
  have read : ∀ (characters : List Char) (n : ℕ), characters.length < n →
      readChars n (Lib.sequence escape [quote] characters ++ rest) = some (characters, rest) := by
    intro characters
    induction characters with
    | nil =>
        intro n enough
        obtain ⟨n, rfl⟩ : ∃ k, n = k + 1 := ⟨n - 1, by omega⟩
        rw [Lib.sequence, List.singleton_append, readChars, if_pos rfl]
    | cons c more ih =>
        intro n enough
        rw [List.length_cons] at enough
        obtain ⟨n, rfl⟩ : ∃ k, n = k + 1 := ⟨n - 1, by omega⟩
        rw [Lib.sequence, List.append_assoc, readChars_escape, ih n (by omega)]
        rfl
  have long : ∀ characters : List Char,
      characters.length ≤ (Lib.sequence escape [quote] characters).length := by
    intro characters
    induction characters with
    | nil => exact Nat.zero_le _
    | cons c more ih =>
        have some_text := List.length_pos_of_ne_nil (escape_ne_nil c)
        rw [Lib.sequence, List.length_append, List.length_cons]
        omega
  have bound := long s.toList
  rw [readString, read s.toList _ (by rw [List.length_append]; omega), Option.map_some]
  simp only [String.ofList_toList]

/-! ## Brackets -/

/-- A text that begins with no blank and no delimiter. -/
def Opens (text : List Char) : Prop := ∃ c rest, text = c :: rest ∧ isDelimiter c = false

theorem Opens.skipBlanks {text : List Char} (opens : Opens text) (rest : List Char) :
    skipBlanks (text ++ rest) = text ++ rest := by
  obtain ⟨c, tail, rfl, other⟩ := opens
  have solid : isBlank c = false := (Bool.or_eq_false_iff.mp other).1
  exact List.dropWhile_cons_of_neg (by simp [solid])

/-- The text of an item is read back, before whatever does not go on with a number. -/
def ReadBy {α : Type} (item : List Char → Option (α × List Char)) (a : α) (text : List Char) :
    Prop :=
  Opens text ∧ ∀ rest, Stops rest → item (text ++ rest) = some (a, rest)

section Brackets

variable {α : Type} {item : List Char → Option (α × List Char)} {close : Char}

theorem joined_cons (first : List Char) (parts : List (List Char)) :
    joined (first :: parts) =
      first ++ (if parts = [] then [] else [',', ' '] ++ joined parts) := by
  cases parts with
  | nil => simp [joined, List.intercalate]
  | cons second rest => simp [joined, List.intercalate]

theorem length_le_joined {items : List α} {parts : List (List Char)}
    (reads : List.Forall₂ (ReadBy item) items parts) : items.length ≤ (joined parts).length := by
  induction reads with
  | nil => exact Nat.zero_le _
  | @cons a text items parts read _ ih =>
      obtain ⟨⟨c, tail, rfl, _⟩, _⟩ := read
      rw [joined_cons, List.length_cons, List.length_append, List.length_cons]
      split
      · rename_i none
        subst none
        have nothing : joined ([] : List (List Char)) = [] := rfl
        rw [nothing, List.length_nil] at ih
        omega
      · simp only [List.length_append, List.length_cons]
        omega

theorem readItems_joined (closes : isDelimiter close = true) (solid : isBlank close = false)
    (differ : ',' ≠ close) {a : α} {text : List Char} {items : List α} {parts : List (List Char)}
    (first : ReadBy item a text) (reads : List.Forall₂ (ReadBy item) items parts)
    (rest : List Char) {n : ℕ} (enough : items.length < n) :
    readItems item close n (joined (text :: parts) ++ close :: rest) =
      some (a :: items, rest) := by
  have stop : ∀ c tail, isDelimiter c = true → Stops (c :: tail) := by
    intro c tail delimiter d same
    cases same
    exact delimiter
  induction reads generalizing a text n with
  | nil =>
      obtain ⟨n, rfl⟩ : ∃ k, n = k + 1 := ⟨n - 1, by omega⟩
      have ends : skipBlanks (close :: rest) = close :: rest :=
        List.dropWhile_cons_of_neg (by simp [solid])
      rw [joined_cons, if_pos rfl, List.append_nil, readItems,
        first.2 _ (stop close rest closes)]
      simp only [Option.bind_eq_bind, Option.bind_some, ends, if_true]
      rfl
  | @cons b next items parts second others ih =>
      obtain ⟨n, rfl⟩ : ∃ k, n = k + 1 := ⟨n - 1, by omega⟩
      have later := ih second (n := n) (by rw [List.length_cons] at enough; omega)
      have comma : ∀ tail, skipBlanks (',' :: tail) = ',' :: tail := fun tail =>
        List.dropWhile_cons_of_neg (by decide)
      have blank : skipBlanks (' ' :: (joined (next :: parts) ++ close :: rest)) =
          joined (next :: parts) ++ close :: rest := by
        have skipped : skipBlanks (' ' :: (joined (next :: parts) ++ close :: rest)) =
            skipBlanks (joined (next :: parts) ++ close :: rest) :=
          List.dropWhile_cons_of_pos (by decide)
        rw [skipped, joined_cons, List.append_assoc]
        exact second.1.skipBlanks _
      rw [joined_cons, if_neg (List.cons_ne_nil next parts), List.append_assoc, List.append_assoc,
        List.cons_append, List.singleton_append, readItems,
        first.2 _ (stop ',' _ (by decide))]
      simp only [Option.bind_eq_bind, Option.bind_some, comma, if_neg differ, if_true, blank,
        later]
      rfl

theorem readInside_joined (closes : isDelimiter close = true) (solid : isBlank close = false)
    (differ : ',' ≠ close) {items : List α} {parts : List (List Char)}
    (reads : List.Forall₂ (ReadBy item) items parts) (rest : List Char) :
    readInside item close (joined parts ++ close :: rest) = some (items, rest) := by
  cases reads with
  | nil =>
      have ends : skipBlanks (close :: rest) = close :: rest :=
        List.dropWhile_cons_of_neg (by simp [solid])
      have empty : joined [] ++ close :: rest = close :: rest := rfl
      rw [empty, readInside, ends]
      exact if_pos rfl
  | @cons a text items parts first others =>
      have skipped : skipBlanks (joined (text :: parts) ++ close :: rest) =
          joined (text :: parts) ++ close :: rest := by
        rw [joined_cons, List.append_assoc]
        exact first.1.skipBlanks _
      have another : (joined (text :: parts) ++ close :: rest).head? ≠ some close := by
        obtain ⟨c, tail, rfl, other⟩ := first.1
        rw [joined_cons]
        intro same
        have same : c = close := Option.some.inj same
        rw [same, closes] at other
        cases other
      have long := length_le_joined (List.Forall₂.cons first others)
      rw [readInside, skipped, if_neg another]
      apply readItems_joined closes solid differ first others
      rw [List.length_append]
      rw [List.length_cons] at long
      omega

end Brackets

/-! ## Documents -/

/-- A value that is read back: its finite floats are, the names of its objects are distinct, and
its brackets are not too deep. -/
def Fits (floats : FloatText) : ℕ → PyValue → Prop
  | 0, _ => False
  | depth + 1, v =>
    match v with
    | .float (.finite q) => floats.ReadsBack q
    | .list items => ∀ item ∈ items, Fits floats depth item
    | .dict items => (items.map Prod.fst).Nodup ∧ ∀ e ∈ items, Fits floats depth e.2
    | _ => True

/-- What is related to an item of a list. -/
theorem exists_of_mem {α β : Type} {written : α → β → Prop} {items : List α} {parts : List β}
    (texts : List.Forall₂ written items parts) {a : α} (member : a ∈ items) :
    ∃ part, written a part := by
  induction texts with
  | nil => cases member
  | cons first _ ih =>
      rcases List.mem_cons.mp member with rfl | later
      · exact ⟨_, first⟩
      · exact ih later

theorem dumpItems_eq_some {floats : FloatText} {items : List PyValue} {parts : List (List Char)}
    (written : dumpItems floats items = some parts) :
    List.Forall₂ (fun v text => dumps floats v = some text) items parts := by
  induction items generalizing parts with
  | nil =>
      cases written
      exact .nil
  | cons v rest ih =>
      obtain ⟨text, first, written⟩ := Option.bind_eq_some_iff.mp written
      obtain ⟨more, others, written⟩ := Option.bind_eq_some_iff.mp written
      cases written
      exact .cons first (ih others)

theorem dumpMembers_eq_some {floats : FloatText} {items : List (String × PyValue)}
    {parts : List (List Char)} (written : dumpMembers floats items = some parts) :
    List.Forall₂ (fun e part => ∃ text, dumps floats e.2 = some text ∧ part = member e.1 text)
      items parts := by
  induction items generalizing parts with
  | nil =>
      cases written
      exact .nil
  | cons e rest ih =>
      obtain ⟨text, first, written⟩ := Option.bind_eq_some_iff.mp written
      obtain ⟨more, others, written⟩ := Option.bind_eq_some_iff.mp written
      cases written
      exact .cons ⟨text, first, rfl⟩ (ih others)

/-- A list is written if its items are. -/
theorem dumps_list {floats : FloatText} {items : List PyValue}
    (written : ∀ v ∈ items, ∃ text, dumps floats v = some text) :
    ∃ text, dumps floats (.list items) = some text := by
  have parts : ∃ parts, dumpItems floats items = some parts := by
    induction items with
    | nil => exact ⟨[], rfl⟩
    | cons v rest ih =>
        obtain ⟨⟨text, first⟩, others⟩ := List.forall_mem_cons.mp written
        obtain ⟨more, later⟩ := ih others
        exact ⟨text :: more, by rw [dumpItems, first, later]; rfl⟩
  obtain ⟨parts, inside⟩ := parts
  exact ⟨_, by rw [dumps, inside]; rfl⟩

/-- An object is written if its values are. -/
theorem dumps_dict {floats : FloatText} {items : List (String × PyValue)}
    (written : ∀ e ∈ items, ∃ text, dumps floats e.2 = some text) :
    ∃ text, dumps floats (.dict items) = some text := by
  have parts : ∃ parts, dumpMembers floats items = some parts := by
    induction items with
    | nil => exact ⟨[], rfl⟩
    | cons e rest ih =>
        obtain ⟨⟨text, first⟩, others⟩ := List.forall_mem_cons.mp written
        obtain ⟨more, later⟩ := ih others
        exact ⟨member e.1 text :: more, by rw [dumpMembers, first, later]; rfl⟩
  obtain ⟨parts, inside⟩ := parts
  exact ⟨_, by rw [dumps, inside]; rfl⟩

/-- A value that has a text: none of the integers in it has too many digits. -/
inductive HasText : PyValue → Prop where
  | none : HasText .none
  | bool (b : Bool) : HasText (.bool b)
  | int {n : ℤ} (short : Floats.digitCount n.natAbs ≤ Number.maxStrDigits) : HasText (.int n)
  | float (x : PyFloat) : HasText (.float x)
  | str (s : String) : HasText (.str s)
  | list {items : List PyValue} (all : ∀ item ∈ items, HasText item) : HasText (.list items)
  | dict {items : List (String × PyValue)} (all : ∀ e ∈ items, HasText e.2) :
    HasText (.dict items)

theorem HasText.dumps {floats : FloatText} {v : PyValue} (has_text : HasText v) :
    ∃ text, dumps floats v = some text := by
  induction has_text with
  | none => exact ⟨_, rfl⟩
  | bool b => exact ⟨_, rfl⟩
  | int short => exact ⟨_, by rw [JsonText.dumps, if_pos short]⟩
  | float x => exact ⟨_, rfl⟩
  | str s => exact ⟨_, rfl⟩
  | list _ ih => exact dumps_list ih
  | dict _ ih => exact dumps_dict ih

/-- What is written has a text in every part. -/
theorem hasText_of_dumps {floats : FloatText} :
    ∀ (v : PyValue) {text : List Char}, dumps floats v = some text → HasText v
  | .none, _, _ => .none
  | .bool b, _, _ => .bool b
  | .int n, _, written => by
      rw [JsonText.dumps] at written
      split at written
      · rename_i short
        exact .int short
      · cases written
  | .float x, _, _ => .float x
  | .str s, _, _ => .str s
  | .list items, _, written => by
      rw [JsonText.dumps] at written
      obtain ⟨parts, inside, _⟩ := Option.map_eq_some_iff.mp written
      refine .list fun item member => ?_
      obtain ⟨text, itemWritten⟩ := exists_of_mem (dumpItems_eq_some inside) member
      exact hasText_of_dumps item itemWritten
  | .dict items, _, written => by
      rw [JsonText.dumps] at written
      obtain ⟨parts, inside, _⟩ := Option.map_eq_some_iff.mp written
      refine .dict fun e member => ?_
      obtain ⟨_, text, valueWritten, _⟩ := exists_of_mem (dumpMembers_eq_some inside) member
      exact hasText_of_dumps e.2 valueWritten
termination_by v => sizeOf v
decreasing_by
  · have smaller := List.sizeOf_lt_of_mem member
    simp only [PyData.list.sizeOf_spec]
    omega
  · obtain ⟨key, v⟩ := e
    have smaller := List.sizeOf_lt_of_mem member
    simp only [Prod.mk.sizeOf_spec] at smaller
    simp only [PyData.dict.sizeOf_spec]
    omega

theorem exists_dumps_iff {floats : FloatText} {v : PyValue} :
    (∃ text, dumps floats v = some text) ↔ HasText v :=
  ⟨fun ⟨_, written⟩ => hasText_of_dumps v written, HasText.dumps⟩

/-- Parts of which every one is read back, if the items are. -/
theorem forall₂_readBy {α : Type} {item : List Char → Option (α × List Char)} {items : List α}
    {parts : List (List Char)} {written : α → List Char → Prop}
    (texts : List.Forall₂ written items parts)
    (reads : ∀ a ∈ items, ∀ text, written a text → ReadBy item a text) :
    List.Forall₂ (ReadBy item) items parts := by
  induction texts with
  | nil => exact .nil
  | cons first _ ih =>
      exact .cons (reads _ List.mem_cons_self _ first)
        (ih fun a member => reads a (List.mem_cons_of_mem _ member))

theorem readValue_other {floats : FloatText} {depth : ℕ} {c : Char} {rest : List Char}
    (other : c ∉ [quote, '\x7b', '[']) :
    readValue floats (depth + 1) (c :: rest) =
      (readConstant (c :: rest)).or (readNumber floats (c :: rest)) := by
  simp only [List.mem_cons, List.not_mem_nil, or_false, not_or] at other
  rw [readValue, if_neg other.1, if_neg other.2.1, if_neg other.2.2]

/-- The name of a value is read back. -/
theorem readBy_constant {floats : FloatText} {depth : ℕ} {e : List Char × PyValue}
    (member : e ∈ constants) : ReadBy (readValue floats (depth + 1)) e.2 e.1 := by
  obtain ⟨c, tail, first, other, solid⟩ : ∃ c tail, e.1 = c :: tail ∧ c ∉ [quote, '\x7b', '['] ∧
      isDelimiter c = false := by
    simp only [constants, List.mem_cons, List.not_mem_nil, or_false] at member
    rcases member with rfl | rfl | rfl | rfl | rfl | rfl <;>
      exact ⟨_, _, rfl, by decide, by decide⟩
  refine ⟨⟨c, tail, first, solid⟩, ?_⟩
  intro rest _
  have named := readConstant_append member rest
  rw [first] at named ⊢
  rw [List.cons_append] at named ⊢
  rw [readValue_other other, named]
  rfl

/-- A number is read back. -/
theorem readBy_number {floats : FloatText} {depth : ℕ} {v : PyValue} (form : NumberForm)
    (reads : ∀ rest, Stops rest → readNumber floats (form.text ++ rest) = some (v, rest)) :
    ReadBy (readValue floats (depth + 1)) v form.text := by
  obtain ⟨c, tail, first, begins⟩ : ∃ c tail, form.text = c :: tail ∧
      (c = '-' ∨ c.isDigit = true) := by
    obtain ⟨d, more, whole, digit⟩ : ∃ d more, form.whole = d :: more ∧ d.isDigit = true := by
      rcases form.begins with zero | ⟨d, more, whole, _, all⟩
      · exact ⟨'0', [], zero, rfl⟩
      · exact ⟨d, more, whole, all d (by rw [whole]; exact List.mem_cons_self)⟩
    rcases form.sign with plus | minus
    · exact ⟨d, _, by rw [NumberForm.text, plus, whole]; rfl, .inr digit⟩
    · exact ⟨'-', _, by rw [NumberForm.text, minus]; rfl, .inl rfl⟩
  have solid : isDelimiter c = false ∧ c ∉ [quote, '\x7b', '['] := by
    rcases begins with rfl | digit
    · exact ⟨rfl, by decide⟩
    · constructor
      · by_contra delimiter
        rw [(of_isDelimiter (by simpa using delimiter)).1] at digit
        cases digit
      · intro member
        have all : ∀ d ∈ [quote, '\x7b', '['], d.isDigit = false := by simp [quote]
        rw [all c member] at digit
        cases digit
  refine ⟨⟨c, tail, first, solid.1⟩, ?_⟩
  intro rest stops
  have read := reads rest stops
  obtain ⟨whole, number, _⟩ := Option.bind_eq_some_iff.mp read
  have unnamed := readConstant_of_number [] number
  rw [List.append_nil] at unnamed
  rw [first, List.cons_append] at read unnamed ⊢
  rw [readValue_other solid.2, unnamed]
  exact read

/-- A float is read back, a finite one if it is meant to be. -/
theorem readBy_float {floats : FloatText} {depth : ℕ} {x : PyFloat}
    (fits : Fits floats (depth + 1) (.float x)) :
    ReadBy (readValue floats (depth + 1)) (.float x) (floatText floats x) := by
  cases x with
  | finite q =>
      have back : floats.ReadsBack q := fits
      obtain ⟨form, same, _⟩ := back.1
      have read : ReadBy (readValue floats (depth + 1)) (.float (.finite q)) form.text := by
        apply readBy_number
        intro rest stops
        rw [same]
        exact readNumber_shown back stops
      rw [same] at read
      exact read
  | inf => exact readBy_constant (e := ("Infinity".toList, .float .inf)) (by simp [constants])
  | negInf =>
      exact readBy_constant (e := ("-Infinity".toList, .float .negInf)) (by simp [constants])
  | nan => exact readBy_constant (e := ("NaN".toList, .float .nan)) (by simp [constants])

/-- The member of an object is read back if its value is. -/
theorem readBy_member {floats : FloatText} {depth : ℕ} {items : List (String × PyValue)}
    (fits : ∀ e ∈ items, Fits floats depth e.2)
    (values : ∀ {v : PyValue} {text : List Char}, Fits floats depth v →
      dumps floats v = some text → ReadBy (readValue floats depth) v text) :
    ∀ e ∈ items, ∀ part, (∃ text, dumps floats e.2 = some text ∧ part = member e.1 text) →
      ReadBy (readMember (readValue floats depth)) e part := by
  rintro ⟨key, v⟩ inside part ⟨text, written, rfl⟩
  obtain ⟨opens, reads⟩ := values (fits _ inside) written
  refine ⟨⟨quote, _, rfl, by decide⟩, ?_⟩
  intro rest stops
  obtain ⟨later, split, named⟩ := readString_literal key ([':', ' '] ++ text ++ rest)
  have colon : ∀ tail, skipBlanks (':' :: tail) = ':' :: tail := fun tail =>
    List.dropWhile_cons_of_neg (by decide)
  have blank : skipBlanks (' ' :: (text ++ rest)) = text ++ rest := by
    have skipped : skipBlanks (' ' :: (text ++ rest)) = skipBlanks (text ++ rest) :=
      List.dropWhile_cons_of_pos (by decide)
    rw [skipped, opens.skipBlanks]
  have whole : member key text ++ rest = quote :: later := by
    rw [← split, member]
    simp only [List.append_assoc]
  rw [whole, readMember, if_pos rfl, named, Option.bind_some]
  simp only [List.cons_append, List.nil_append, colon, if_true, blank, reads rest stops,
    Option.map_some]

/-- **What is written is read back.** -/
theorem readBy_dumps {floats : FloatText} {depth : ℕ} {v : PyValue} {text : List Char}
    (fits : Fits floats depth v) (written : dumps floats v = some text) :
    ReadBy (readValue floats depth) v text := by
  induction depth generalizing v text with
  | zero => exact fits.elim
  | succ depth ih =>
      cases v with
      | none =>
          cases written
          exact readBy_constant (e := ("null".toList, .none)) (by simp [constants])
      | bool b =>
          cases written
          cases b with
          | true => exact readBy_constant (e := ("true".toList, .bool true)) (by simp [constants])
          | false =>
              exact readBy_constant (e := ("false".toList, .bool false)) (by simp [constants])
      | int n =>
          simp only [dumps] at written
          split at written
          · rename_i short
            cases written
            rw [← text_intForm]
            apply readBy_number
            intro rest stops
            rw [text_intForm]
            exact readNumber_intText floats stops short
          · cases written
      | float x =>
          obtain rfl : floatText floats x = text := Option.some.inj written
          exact readBy_float fits
      | str s =>
          cases written
          refine ⟨⟨quote, _, rfl, by decide⟩, ?_⟩
          intro rest _
          obtain ⟨text, split, read⟩ := readString_literal s rest
          rw [split, readValue, if_pos rfl, read, Option.map_some]
      | list items =>
          obtain ⟨parts, inside, rfl⟩ := Option.map_eq_some_iff.mp written
          have reads : List.Forall₂ (ReadBy (readValue floats depth)) items parts :=
            forall₂_readBy (dumpItems_eq_some inside) fun a member text => ih (fits a member)
          refine ⟨⟨'[', _, rfl, by decide⟩, ?_⟩
          intro rest _
          have read : readInside (readValue floats depth) ']' (joined parts ++ ']' :: rest) =
              some (items, rest) :=
            readInside_joined (by decide) (by decide) (by decide) reads rest
          simp only [List.cons_append, List.nil_append, List.append_assoc]
          rw [readValue, if_neg (by decide), if_neg (by decide), if_pos rfl, read, Option.map_some]
      | dict items =>
          obtain ⟨parts, inside, rfl⟩ := Option.map_eq_some_iff.mp written
          obtain ⟨distinct, members⟩ := fits
          have reads : List.Forall₂ (ReadBy (readMember (readValue floats depth))) items parts :=
            forall₂_readBy (dumpMembers_eq_some inside) (readBy_member members ih)
          refine ⟨⟨'\x7b', _, rfl, by decide⟩, ?_⟩
          intro rest _
          have read : readInside (readMember (readValue floats depth)) '\x7d'
              (joined parts ++ '\x7d' :: rest) = some (items, rest) :=
            readInside_joined (by decide) (by decide) (by decide) reads rest
          have same : Dict.ofItems items = ⟨items, distinct⟩ := Dict.ofItems_items ⟨items, distinct⟩
          simp only [object, List.cons_append, List.nil_append, List.append_assoc]
          rw [joined] at read
          rw [readValue, if_neg (by decide), if_pos rfl, read, Option.map_some]
          simp only [same]

/-- **Round trip.** -/
theorem loads_dumps {floats : FloatText} {depth : ℕ} {v : PyValue} {text : List Char}
    (fits : Fits floats depth v) (written : dumps floats v = some text) :
    loads floats depth text = some v := by
  obtain ⟨opens, reads⟩ := readBy_dumps fits written
  have read := reads [] Stops.nil
  have unblank := opens.skipBlanks []
  rw [List.append_nil] at read unblank
  rw [loads, unblank, read]
  rfl

theorem loads_nil (floats : FloatText) (depth : ℕ) : loads floats depth [] = none := by
  rw [loads, skipBlanks, List.dropWhile_nil, readValue_nil]
  rfl

/-- **Torn documents.** Of the text of an object, nothing that was cut off is read. -/
theorem loads_torn {floats : FloatText} {depth : ℕ} {items : List (String × PyValue)}
    {first rest : List Char} (fits : Fits floats depth (.dict items))
    (written : dumps floats (.dict items) = some (first ++ rest)) (cut : rest ≠ []) :
    loads floats depth first = none := by
  cases first with
  | nil => exact loads_nil floats depth
  | cons c tail =>
      obtain ⟨parts, _, begins⟩ := Option.map_eq_some_iff.mp written
      obtain ⟨rfl, _⟩ := List.cons_eq_cons.mp begins
      have read := (readBy_dumps fits written).2 [] Stops.nil
      rw [List.append_nil] at read
      exact loads_of_torn read cut

end AgentServe.JsonText
