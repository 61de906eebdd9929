import AgentServe.Core.JsonRoundTrip
import AgentServe.Lib.Lines

/-!
# Documents on lines

Whatever is in a document, its text is printable ASCII (`printable_dumps`). So a document
can be written on a line of its own, and the documents of a stream can be read back from it,
also if the stream is cut off (`isLine_dumps`).
-/

set_option autoImplicit false

namespace AgentServe.JsonText

open Lib

/-- Printable ASCII. -/
def Printable (text : List Char) : Prop := ∀ c ∈ text, 32 ≤ c.toNat ∧ c.toNat < 127

instance : DecidablePred Printable := fun _ => List.decidableBAll _ _

theorem Printable.append {first second : List Char} (left : Printable first)
    (right : Printable second) : Printable (first ++ second) := by
  intro c member
  rcases List.mem_append.mp member with inside | inside
  · exact left c inside
  · exact right c inside

theorem printable_of_isDigit {text : List Char} (all : ∀ d ∈ text, d.isDigit = true) :
    Printable text := by
  intro c member
  have digit := all c member
  simp only [Char.isDigit, Bool.and_eq_true, decide_eq_true_eq, UInt32.le_iff_toNat_le] at digit
  change 48 ≤ c.toNat ∧ c.toNat ≤ 57 at digit
  omega

theorem printable_isPart {marks signs text : List Char} (form : IsPart marks signs text)
    (marked : Printable marks) (signed : Printable signs) : Printable text := by
  rcases form with rfl | ⟨mark, sign, digits, rfl, member, plus, _, all⟩
  · exact nofun
  · have opens : Printable (mark :: sign) := by
      intro c inside
      rcases List.mem_cons.mp inside with rfl | inside
      · exact marked c member
      · rcases plus with rfl | ⟨d, listed, rfl⟩
        · cases inside
        · rw [List.mem_singleton.mp inside]
          exact signed d listed
    exact opens.append (printable_of_isDigit all)

theorem printable_form (form : NumberForm) : Printable form.text := by
  have minus : Printable form.minus := by
    rcases form.sign with plus | minus
    · rw [plus]
      exact nofun
    · rw [minus]
      decide
  have whole : Printable form.whole := by
    rcases form.begins with zero | ⟨c, rest, _, _, all⟩
    · rw [zero]
      decide
    · exact printable_of_isDigit all
  have marks : Printable ['.'] ∧ Printable ['e', 'E'] ∧ Printable ['+', '-'] := by
    decide
  exact ((minus.append whole).append (printable_isPart form.point marks.1 nofun)).append
    (printable_isPart form.scale marks.2.1 marks.2.2)

theorem printable_escape (c : Char) : Printable (escape c) := by
  unfold escape
  split
  · rename_i e found
    have all : ∀ e ∈ letters, 32 ≤ e.2.toNat ∧ e.2.toNat < 127 := by decide
    have letter := all e (List.mem_of_find?_eq_some found)
    intro d member
    simp only [List.mem_cons, List.not_mem_nil, or_false] at member
    rcases member with rfl | rfl
    · decide
    · exact letter
  · split
    · rename_i plain
      intro d member
      rw [List.mem_singleton.mp member]
      exact plain
    · intro d member
      obtain ⟨u, _, inside⟩ := List.mem_flatMap.mp member
      simp only [Sha1.hexDigits, List.nil_append, List.cons_append, List.mem_cons,
        List.not_mem_nil, or_false] at inside
      have all : ∀ i : Fin 16, 32 ≤ (Nat.digitChar i).toNat ∧ (Nat.digitChar i).toNat < 127 := by
        decide
      have hex : ∀ n, 32 ≤ (Nat.digitChar (n % 16)).toNat ∧
          (Nat.digitChar (n % 16)).toNat < 127 := fun n => all ⟨n % 16, Nat.mod_lt _ (by decide)⟩
      rcases inside with rfl | rfl | rfl | rfl | rfl | rfl
      · decide
      · decide
      · exact hex _
      · exact hex _
      · exact hex _
      · exact hex _

theorem printable_literal (s : String) : Printable (literal s) := by
  have mark : Printable [quote] := by
    decide
  have inside : ∀ text : List Char, Printable (sequence escape [quote] text) := by
    intro text
    induction text with
    | nil => exact mark
    | cons c rest ih => exact (printable_escape c).append ih
  exact mark.append (inside s.toList)

theorem printable_joined {parts : List (List Char)} (each : ∀ part ∈ parts, Printable part) :
    Printable (joined parts) := by
  have comma : Printable [',', ' '] := by
    decide
  induction parts with
  | nil => exact nofun
  | cons part rest ih =>
      obtain ⟨first, others⟩ := List.forall_mem_cons.mp each
      cases rest with
      | nil =>
          have same : joined [part] = part := by simp [joined]
          rw [same]
          exact first
      | cons next more =>
          have same : joined (part :: next :: more) =
              part ++ [',', ' '] ++ joined (next :: more) := by
            simp [joined, List.intercalate_cons_cons]
          rw [same]
          exact (first.append comma).append (ih others)

theorem printable_constant {e : List Char × PyValue} (member : e ∈ constants) :
    Printable e.1 := by
  have all : ∀ e ∈ constants, Printable e.1 := by
    decide
  exact all e member

theorem printable_float {floats : FloatText} {depth : ℕ} {x : PyFloat}
    (fits : Fits floats (depth + 1) (.float x)) : Printable (floatText floats x) := by
  cases x with
  | finite q =>
      have back : floats.ReadsBack q := fits
      obtain ⟨form, same, _⟩ := back.1
      have shown := printable_form form
      rw [same] at shown
      exact shown
  | inf =>
      have named : Printable "Infinity".toList :=
        printable_constant (e := ("Infinity".toList, .float .inf)) (by simp [constants])
      exact named
  | negInf =>
      have named : Printable "-Infinity".toList :=
        printable_constant (e := ("-Infinity".toList, .float .negInf)) (by simp [constants])
      exact named
  | nan =>
      have named : Printable "NaN".toList :=
        printable_constant (e := ("NaN".toList, .float .nan)) (by simp [constants])
      exact named

theorem exists_of_forall₂ {α β : Type} {R : α → β → Prop} {items : List α} {parts : List β}
    (texts : List.Forall₂ R items parts) {part : β} (member : part ∈ parts) :
    ∃ a ∈ items, R a part := by
  induction texts with
  | nil => cases member
  | cons first _ ih =>
      rcases List.mem_cons.mp member with rfl | later
      · exact ⟨_, List.mem_cons_self, first⟩
      · obtain ⟨a, inside, related⟩ := ih later
        exact ⟨a, List.mem_cons_of_mem _ inside, related⟩

/-- A document that is written is printable. -/
theorem printable_dumps {floats : FloatText} {depth : ℕ} {v : PyValue} {text : List Char}
    (fits : Fits floats depth v) (written : dumps floats v = some text) : Printable text := by
  have brackets : Printable ['['] ∧ Printable [']'] ∧ Printable ['\x7b'] ∧ Printable ['\x7d'] ∧
      Printable [':', ' '] := by
    decide
  induction depth generalizing v text with
  | zero => exact fits.elim
  | succ depth ih =>
      cases v with
      | none =>
          obtain rfl : "null".toList = text := Option.some.inj written
          exact printable_constant (e := ("null".toList, .none)) (by simp [constants])
      | bool b =>
          cases b with
          | true =>
              obtain rfl : "true".toList = text := Option.some.inj written
              exact printable_constant (e := ("true".toList, .bool true)) (by simp [constants])
          | false =>
              obtain rfl : "false".toList = text := Option.some.inj written
              exact printable_constant (e := ("false".toList, .bool false)) (by simp [constants])
      | int n =>
          simp only [dumps] at written
          split at written
          · cases written
            rw [← text_intForm]
            exact printable_form _
          · cases written
      | float x =>
          obtain rfl : floatText floats x = text := Option.some.inj written
          exact printable_float fits
      | str s =>
          cases written
          exact printable_literal s
      | list items =>
          obtain ⟨parts, inside, rfl⟩ := Option.map_eq_some_iff.mp written
          refine (brackets.1.append (printable_joined ?_)).append brackets.2.1
          intro part member
          obtain ⟨item, listed, same⟩ := exists_of_forall₂ (dumpItems_eq_some inside) member
          exact ih (fits item listed) same
      | dict items =>
          obtain ⟨parts, inside, rfl⟩ := Option.map_eq_some_iff.mp written
          refine (brackets.2.2.1.append (printable_joined ?_)).append brackets.2.2.2.1
          intro part member
          obtain ⟨e, listed, text, same, rfl⟩ :=
            exists_of_forall₂ (dumpMembers_eq_some inside) member
          exact ((printable_literal e.1).append brackets.2.2.2.2).append (ih (fits.2 e listed) same)

/-- **Documents on lines.** The text of an object fits into a line. -/
theorem isLine_dumps {floats : FloatText} {depth : ℕ} {items : List (String × PyValue)}
    {text : List Char} (fits : Fits floats depth (.dict items))
    (written : dumps floats (.dict items) = some text) :
    IsLine '\n' (loads floats depth) text where
  solid := by
    intro member
    have printable := (printable_dumps fits written '\n' member).1
    revert printable
    decide
  whole := by
    rintro first rest rfl cut
    exact loads_torn fits written cut

end AgentServe.JsonText
