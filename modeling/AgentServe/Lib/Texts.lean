import AgentServe.Lib.Python

/-!
# Texts of a dynamic language

A text is a sequence of code points, and not every code point is a character. A decoder that
meets one half of a pair of surrogates without the other leaves it in the text. Such a text is
compared, cut and stripped like any other.

But it cannot be encoded. The texts that can are plain: they have no surrogates. Strings of
characters are, and so is what is cut, stripped or joined of plain texts.
-/

set_option autoImplicit false

namespace AgentServe.Lib

/-- A code point. The surrogates are no characters. -/
inductive CodePoint where
  | char (c : Char)
  | surrogate (unit : Fin 2048)
deriving DecidableEq, Repr

namespace CodePoint

def isChar : CodePoint → Bool
  | .char _ => true
  | .surrogate _ => false

def isBlank : CodePoint → Bool
  | .char c => PyData.isBlank c
  | .surrogate _ => false

end CodePoint

abbrev Text := List CodePoint

namespace Text

/-- A string of characters as a text. -/
def ofString (s : String) : Text := s.toList.map .char

instance : Coe String Text := ⟨ofString⟩

/-- A text without surrogates. It can be encoded. -/
def isPlain (t : Text) : Bool := t.all CodePoint.isChar

def rstripped (t : Text) : Text := (t.reverse.dropWhile CodePoint.isBlank).reverse

def stripped (t : Text) : Text := rstripped (t.dropWhile CodePoint.isBlank)

/-- `part in whole`. -/
def occursIn (part whole : Text) : Bool := whole.tails.any fun rest => part.isPrefixOf rest

@[simp] theorem isPlain_ofString (s : String) : isPlain (ofString s) = true := by
  simp [isPlain, ofString, CodePoint.isChar]

@[simp] theorem isPlain_append (first second : Text) :
    isPlain (first ++ second) = (isPlain first && isPlain second) := List.all_append

theorem isPlain_take (n : ℕ) {t : Text} (plain : isPlain t = true) :
    isPlain (t.take n) = true :=
  List.all_eq_true.mpr fun point member =>
    List.all_eq_true.mp plain point (List.mem_of_mem_take member)

theorem isPlain_rstripped {t : Text} (plain : isPlain t = true) : isPlain (rstripped t) = true := by
  refine List.all_eq_true.mpr fun point member => List.all_eq_true.mp plain point ?_
  have kept := List.dropWhile_sublist CodePoint.isBlank |>.subset (List.mem_reverse.mp member)
  exact List.mem_reverse.mp kept

/-- Texts that are joined are plain if they are, and if what stands between them is. -/
theorem isPlain_intercalate {between : Text} (mark : isPlain between = true) {parts : List Text}
    (plain : ∀ part ∈ parts, isPlain part = true) : isPlain (between.intercalate parts) = true := by
  induction parts with
  | nil => rfl
  | cons part rest ih =>
      obtain ⟨here, later⟩ := List.forall_mem_cons.mp plain
      cases rest with
      | nil => simpa [List.intercalate] using here
      | cons next others =>
          rw [List.intercalate_cons_cons, isPlain_append, isPlain_append, here, mark, ih later]
          rfl

theorem length_ofString (s : String) : (ofString s).length = s.length := by
  simp [ofString, String.length_toList]

end Text

end AgentServe.Lib
