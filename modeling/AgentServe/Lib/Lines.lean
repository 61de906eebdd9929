import Mathlib.Data.List.Infix

/-!
# Streams of lines

A stream of records is written line by line, with a separator after every record. Its reader
splits at the separators and keeps what can be decoded.

A record fits into a line if the separator is not in it and no beginning of it that is cut off
is decoded (`IsLine`). What is read of a stream of such records is the records
(`readLines_terminated`). If the stream ends anywhere, it is the records up to some one, and
none that was ended is missing (`readLines_of_prefix`).
-/

set_option autoImplicit false

namespace AgentServe.Lib

universe u v

variable {γ : Type u} {β : Type v} [DecidableEq γ] {sep : γ} {decode : List γ → Option β}

/-- Words, each with a separator after it. -/
def terminated (sep : γ) (words : List (List γ)) : List γ := words.flatMap fun w => w ++ [sep]

/-- Split at the separators, and keep what can be decoded. -/
def readLines (sep : γ) (decode : List γ → Option β) (text : List γ) : List β :=
  (text.splitOn sep).filterMap decode

/-- A word that does not contain the separator, and of which no proper beginning is decoded. -/
structure IsLine (sep : γ) (decode : List γ → Option β) (word : List γ) : Prop where
  solid : sep ∉ word
  whole : ∀ {first rest : List γ}, word = first ++ rest → rest ≠ [] → decode first = none

theorem splitOn_terminated_append {words : List (List γ)} {last : List γ}
    (solid : ∀ w ∈ words, sep ∉ w) (ends : sep ∉ last) :
    (terminated sep words ++ last).splitOn sep = words ++ [last] := by
  induction words with
  | nil => exact List.splitOn_eq_singleton ends
  | cons w rest ih =>
      obtain ⟨first, others⟩ := List.forall_mem_cons.mp solid
      rw [terminated, List.flatMap_cons, List.append_assoc, List.append_assoc,
        List.singleton_append, List.splitOn_append_cons_self_of_not_mem first, ← terminated,
        ih others]
      rfl

theorem count_terminated {words : List (List γ)} (solid : ∀ w ∈ words, sep ∉ w) :
    (terminated sep words).count sep = words.length := by
  induction words with
  | nil => rfl
  | cons w rest ih =>
      obtain ⟨first, others⟩ := List.forall_mem_cons.mp solid
      rw [terminated, List.flatMap_cons, List.count_append, List.count_append,
        List.count_eq_zero.mpr first, List.count_singleton_self, ← terminated, ih others,
        List.length_cons]
      omega

omit [DecidableEq γ] in
/-- A beginning of a stream is some of its first lines, and a beginning of the next one. -/
theorem prefix_terminated {words : List (List γ)} {first : List γ}
    (cut : first <+: terminated sep words) :
    ∃ n last, n ≤ words.length ∧ first = terminated sep (words.take n) ++ last ∧
      (last = [] ∨ ∃ w, words[n]? = some w ∧ last <+: w) := by
  induction words generalizing first with
  | nil => exact ⟨0, [], le_rfl, List.prefix_nil.mp cut, .inl rfl⟩
  | cons w rest ih =>
      have line : w ++ [sep] <+: terminated sep (w :: rest) :=
        ⟨terminated sep rest, by simp [terminated]⟩
      rcases List.prefix_or_prefix_of_prefix cut line with short | ⟨more, rfl⟩
      · rcases List.prefix_concat_iff.mp short with rfl | inside
        · exact ⟨1, [], by simp, by simp [terminated], .inl rfl⟩
        · exact ⟨0, first, Nat.zero_le _, rfl, .inr ⟨w, rfl, inside⟩⟩
      · rw [terminated, List.flatMap_cons, List.prefix_append_right_inj] at cut
        obtain ⟨n, last, small, same, next⟩ := ih cut
        refine ⟨n + 1, last, Nat.succ_le_succ small, ?_, next⟩
        rw [same, List.take_succ_cons]
        simp [terminated]

theorem readLines_terminated_append {words : List (List γ)} {last : List γ}
    (solid : ∀ w ∈ words, sep ∉ w) (ends : sep ∉ last) :
    readLines sep decode (terminated sep words ++ last) =
      words.filterMap decode ++ (decode last).toList := by
  rw [readLines, splitOn_terminated_append solid ends, List.filterMap_append]
  apply congrArg
  cases found : decode last <;> simp [found]

/-- **Whole streams.** -/
theorem readLines_terminated (blank : decode [] = none) {words : List (List γ)}
    (solid : ∀ w ∈ words, sep ∉ w) :
    readLines sep decode (terminated sep words) = words.filterMap decode := by
  have read : readLines sep decode (terminated sep words ++ []) =
      words.filterMap decode ++ (decode []).toList :=
    readLines_terminated_append solid List.not_mem_nil
  rw [List.append_nil, blank] at read
  rw [read]
  exact List.append_nil _

/-- **Streams that end anywhere.** What is read is the first words, those that were ended and at
most one more. -/
theorem readLines_of_prefix (blank : decode [] = none) {words : List (List γ)}
    (lines : ∀ w ∈ words, IsLine sep decode w) {first : List γ}
    (cut : first <+: terminated sep words) :
    ∃ n, readLines sep decode first = (words.take n).filterMap decode ∧
      first.count sep ≤ n ∧ n ≤ first.count sep + 1 := by
  obtain ⟨n, last, small, rfl, next⟩ := prefix_terminated cut
  have solid : ∀ w ∈ words.take n, sep ∉ w := fun w member =>
    (lines w (List.mem_of_mem_take member)).solid
  have ends : sep ∉ last := by
    rcases next with rfl | ⟨w, found, inside⟩
    · exact List.not_mem_nil
    · exact fun member => (lines w (List.mem_of_getElem? found)).solid (inside.subset member)
  have counted : (terminated sep (words.take n) ++ last).count sep = n := by
    rw [List.count_append, count_terminated solid, List.count_eq_zero.mpr ends, List.length_take,
      Nat.add_zero, Nat.min_eq_left small]
  rw [readLines_terminated_append solid ends, counted]
  have unread : decode last = none → ∃ m, (words.take n).filterMap decode ++ (decode last).toList =
      (words.take m).filterMap decode ∧ n ≤ m ∧ m ≤ n + 1 := by
    intro nothing
    exact ⟨n, by rw [nothing]; exact List.append_nil _, le_rfl, Nat.le_succ n⟩
  rcases next with rfl | ⟨w, found, rest, rfl⟩
  · exact unread blank
  · by_cases complete : rest = []
    · subst complete
      refine ⟨n + 1, ?_, Nat.le_succ n, le_rfl⟩
      rw [List.append_nil] at found
      rw [List.take_add_one, found, List.filterMap_append]
      apply congrArg
      cases decoded : decode last <;> simp [decoded]
    · exact unread ((lines _ (List.mem_of_getElem? found)).whole rfl complete)

end AgentServe.Lib
