import AgentServe.Lib.SelfDelimiting
import AgentServe.Lib.Sha1

/-!
# JSON texts

The text that is written for a string, for an array and for an object, in the style
of the standard encoder: only printable ASCII is written as it is, and there is a
blank after a comma and after a colon.

Every escaped character can be read back (`read_escape`). So string literals are
self-delimiting, and so are arrays of values whose texts are
(`selfDelimiting_literal`, `selfDelimiting_array`).
-/

set_option autoImplicit false

namespace AgentServe.JsonText

open Lib

/-! ## Characters -/

def quote : Char := '\x22'

def backslash : Char := '\x5c'

/-- The characters with an escape of one letter. -/
def letters : List (Char × Char) := [
  (quote, quote), (backslash, backslash), ('\n', 'n'), ('\r', 'r'), ('\t', 't'), ('\x08', 'b'),
  ('\x0c', 'f')]

/-- The sixteen-bit units of a code point: itself, or a pair of surrogates. -/
def units (n : ℕ) : List ℕ :=
  if n < 0x10000 then [n]
  else [0xd800 + (n - 0x10000) / 1024, 0xdc00 + (n - 0x10000) % 1024]

/-- A character inside a string literal. -/
def escape (c : Char) : List Char :=
  match letters.find? fun e => e.1 = c with
  | some e => [backslash, e.2]
  | none =>
    if 32 ≤ c.toNat ∧ c.toNat < 127 then [c]
    else (units c.toNat).flatMap fun u => backslash :: 'u' :: Sha1.hexDigits 4 u

/-! ## Reading back -/

def digitValue (c : Char) : ℕ := if c.toNat < 97 then c.toNat - 48 else c.toNat - 87

/-- Read a unit of four digits. -/
def readUnit : List Char → Option (ℕ × List Char)
  | a :: b :: c :: d :: rest =>
    some (((digitValue a * 16 + digitValue b) * 16 + digitValue c) * 16 + digitValue d, rest)
  | _ => none

/-- Read the units of an escaped code point, after the first `u`. -/
def readUnits (text : List Char) : Option (Char × List Char) :=
  (readUnit text).bind fun (u, rest) =>
    if 0xd800 ≤ u ∧ u < 0xdc00 then
      (readUnit (rest.drop 2)).map fun (v, rest) =>
        (Char.ofNat (0x10000 + (u - 0xd800) * 1024 + (v - 0xdc00)), rest)
    else some (Char.ofNat u, rest)

/-- Read a character of a string literal. -/
def read : List Char → Option (Char × List Char)
  | [] => none
  | c :: rest =>
    if c = backslash then
      match rest with
      | [] => none
      | letter :: rest =>
        if letter = 'u' then readUnits rest
        else (letters.find? fun e => e.2 = letter).map fun e => (e.1, rest)
    else some (c, rest)

theorem digitValue_digitChar {n : ℕ} (small : n < 16) : digitValue (Nat.digitChar n) = n := by
  have all : ∀ i : Fin 16, digitValue (Nat.digitChar i) = i := by decide
  exact all ⟨n, small⟩

theorem readUnit_hexDigits {u : ℕ} (small : u < 0x10000) (rest : List Char) :
    readUnit (Sha1.hexDigits 4 u ++ rest) = some (u, rest) := by
  simp only [Sha1.hexDigits, List.nil_append, List.cons_append, readUnit,
    digitValue_digitChar (Nat.mod_lt _ (by decide : 0 < 16)), Option.some.injEq, Prod.mk.injEq,
    and_true]
  omega

/-- A unit that is no high surrogate is a character. -/
theorem readUnits_one {u : ℕ} (small : u < 0x10000) (plain : ¬ (0xd800 ≤ u ∧ u < 0xdc00))
    (rest : List Char) : readUnits (Sha1.hexDigits 4 u ++ rest) = some (Char.ofNat u, rest) := by
  rw [readUnits, readUnit_hexDigits small, Option.bind_some]
  exact if_neg plain

/-- Two surrogates are a character. -/
theorem readUnits_pair {u v : ℕ} (high : 0xd800 ≤ u ∧ u < 0xdc00) (low : v < 0x10000)
    (rest : List Char) :
    readUnits (Sha1.hexDigits 4 u ++ backslash :: 'u' :: (Sha1.hexDigits 4 v ++ rest)) =
      some (Char.ofNat (0x10000 + (u - 0xd800) * 1024 + (v - 0xdc00)), rest) := by
  rw [readUnits, readUnit_hexDigits (by omega), Option.bind_some]
  simp only [if_pos high, List.drop_succ_cons, List.drop_zero]
  rw [readUnit_hexDigits low, Option.map_some]

/-- The units of a character are read back. -/
theorem read_units (c : Char) (rest : List Char) :
    read (((units c.toNat).flatMap fun u => backslash :: 'u' :: Sha1.hexDigits 4 u) ++ rest) =
      some (c, rest) := by
  have valid : c.toNat < 0xd800 ∨ 0xdfff < c.toNat ∧ c.toNat < 0x110000 := by
    have valid := c.valid
    simp only [UInt32.isValidChar, Nat.isValidChar] at valid
    exact valid
  have opens (text : List Char) : read (backslash :: 'u' :: text) = readUnits text := rfl
  by_cases one : c.toNat < 0x10000
  · have plain : ¬ (0xd800 ≤ c.toNat ∧ c.toNat < 0xdc00) := by omega
    rw [units, if_pos one, List.flatMap_cons, List.flatMap_nil, List.append_nil, List.cons_append,
      List.cons_append, opens, readUnits_one one plain, Char.ofNat_toNat]
  · rw [units, if_neg one]
    obtain ⟨u, upper⟩ : ∃ u, u = 0xd800 + (c.toNat - 0x10000) / 1024 := ⟨_, rfl⟩
    obtain ⟨v, lower⟩ : ∃ v, v = 0xdc00 + (c.toNat - 0x10000) % 1024 := ⟨_, rfl⟩
    have whole : 0x10000 + (u - 0xd800) * 1024 + (v - 0xdc00) = c.toNat := by omega
    rw [← upper, ← lower]
    simp only [List.flatMap_cons, List.flatMap_nil, List.append_nil, List.cons_append,
      List.append_assoc]
    rw [opens, readUnits_pair (by omega) (by omega), whole, Char.ofNat_toNat]

/-- **Every escaped character is read back.** -/
theorem read_escape (c : Char) (rest : List Char) : read (escape c ++ rest) = some (c, rest) := by
  unfold escape
  split
  · rename_i e found
    have member : e ∈ letters := List.mem_of_find?_eq_some found
    have named : e.1 = c := by simpa using List.find?_some found
    have all : ∀ e ∈ letters, e.2 ≠ 'u' ∧ (letters.find? fun d => d.2 = e.2) = some e := by decide
    obtain ⟨notUnit, unescaped⟩ := all e member
    simp only [List.cons_append, List.nil_append, read, if_true, notUnit, if_false, unescaped,
      Option.map_some, named]
  · rename_i missing
    split
    · have plain : c ≠ backslash := by
        rintro rfl
        revert missing
        decide
      simp only [List.cons_append, List.nil_append, read, plain, if_false]
    · exact read_units c rest

theorem selfDelimiting_escape : SelfDelimiting escape := SelfDelimiting.of_read read_escape

/-- No character inside a literal is taken for the end of it. -/
theorem escape_ne_quote (c : Char) (r s : List Char) : escape c ++ r ≠ [quote] ++ s := by
  intro same
  have front := read_escape c r
  rw [same] at front
  have character : c = quote := by
    simp only [List.cons_append, List.nil_append, read,
      if_neg (show quote ≠ backslash by decide)] at front
    exact (Prod.mk.inj (Option.some.inj front)).1.symm
  subst character
  have escaped : escape quote = [backslash, quote] := by decide
  rw [escaped] at same
  exact absurd (List.cons.inj same).1 (by decide)

/-! ## Values -/

/-- The text of a string. -/
def literal (s : String) : List Char := [quote] ++ sequence escape [quote] s.toList

theorem selfDelimiting_literal : SelfDelimiting literal := by
  have inside : SelfDelimiting fun l : List Char => sequence escape [quote] l :=
    selfDelimiting_escape.sequence escape_ne_quote
  have named : SelfDelimiting fun s : String => sequence escape [quote] s.toList :=
    inside.comp fun _ _ same => String.toList_inj.mp same
  intro s t r rest same
  simp only [literal, List.append_assoc, List.append_cancel_left_eq] at same
  exact named s t r rest same

/-- The text of an array of values, from the texts of the values. -/
def array {α : Type} (item : α → List Char) : List α → List Char
  | [] => ['[', ']']
  | a :: rest => ['['] ++ (item a ++ sequence (fun b => [',', ' '] ++ item b) [']'] rest)

/-- Arrays are self-delimiting if their values are, and no value begins like the end of an
array. -/
theorem selfDelimiting_array {α : Type} {item : α → List Char} (self : SelfDelimiting item)
    (opens : ∀ a r s, item a ++ r ≠ [']'] ++ s) : SelfDelimiting (array item) := by
  have others : SelfDelimiting (sequence (fun b => [',', ' '] ++ item b) [']']) := by
    apply SelfDelimiting.sequence
    · simpa using self.frame [',', ' '] []
    · intro b r s same
      exact absurd (List.cons.inj same).1 (by decide)
  intro l m r s same
  cases l with
  | nil =>
      cases m with
      | nil => exact ⟨rfl, List.append_cancel_left same⟩
      | cons b rest =>
          simp only [array, List.append_assoc] at same
          exact absurd (List.cons.inj same).2.symm (opens b _ _)
  | cons a tail =>
      cases m with
      | nil =>
          simp only [array, List.append_assoc] at same
          exact absurd (List.cons.inj same).2 (opens a _ _)
      | cons b rest =>
          simp only [array, List.append_assoc] at same
          obtain ⟨rfl, remaining⟩ := self a b _ _ (List.cons.inj same).2
          obtain ⟨rfl, rfl⟩ := others tail rest r s remaining
          exact ⟨rfl, rfl⟩

/-- The text of a member of an object, from the text of its value. -/
def member (key : String) (value : List Char) : List Char := literal key ++ [':', ' '] ++ value

/-- The text of an object, from the texts of its members. -/
def object (members : List (List Char)) : List Char :=
  ['\x7b'] ++ [',', ' '].intercalate members ++ ['\x7d']

/-- Escapes of a quote, a line break, an accented letter and a character with two units. -/
example : literal "\"\né𝄞" = "\"\\\"\\n\\u00e9\\ud834\\udd1e\"".toList := by decide

end AgentServe.JsonText
