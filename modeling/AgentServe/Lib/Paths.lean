import Mathlib.Data.List.Basic
import Mathlib.Tactic.Common

/-!
# Names of a hierarchy and their texts

A place in a hierarchy is the list of names that lead to it, and its text is the
names with a separator before each. A name does not contain the separator, so the
text tells the names apart.

The text of one place is a prefix of the text of another exactly if the place is
above the other, or the other is at or below a sibling of the place whose name is
longer than its own and begins with it (`text_prefix_iff`). Only the first is a
relation of the hierarchy (`not_prefix_of_longerSibling`).
-/

set_option autoImplicit false

namespace AgentServe.Lib.Path

universe u

variable {α : Type u}

/-- The parts of a text between its separators. -/
def split [DecidableEq α] (sep : α) : List α → List (List α)
  | [] => [[]]
  | a :: rest =>
    if a = sep then [] :: split sep rest
    else
      match split sep rest with
      | [] => [[a]]
      | part :: parts => (a :: part) :: parts

theorem notMem_of_mem_split [DecidableEq α] {sep : α} {l part : List α}
    (member : part ∈ split sep l) : sep ∉ part := by
  induction l generalizing part with
  | nil =>
      obtain rfl := List.mem_singleton.mp member
      exact List.not_mem_nil
  | cons a rest ih =>
      unfold split at member
      split at member
      · rcases List.mem_cons.mp member with rfl | later
        · exact List.not_mem_nil
        · exact ih later
      · rename_i differ
        have other : sep ≠ a := fun same => differ same.symm
        split at member
        · obtain rfl := List.mem_singleton.mp member
          simpa using other
        · rename_i first parts whole
          rw [whole] at ih
          rcases List.mem_cons.mp member with rfl | later
          · simpa using ⟨other, ih List.mem_cons_self⟩
          · exact ih (List.mem_cons_of_mem _ later)

/-- The text of a place: a separator before each of its names. -/
def text (sep : α) (names : List (List α)) : List α := names.flatMap fun name => sep :: name

theorem text_cons (sep : α) (name : List α) (names : List (List α)) :
    text sep (name :: names) = sep :: (name ++ text sep names) := by
  simp [text]

/-- The second place is at or below a sibling of the first whose name is longer than that of the
first and begins with it. -/
def LongerSibling (place other : List (List α)) : Prop :=
  ∃ above last suffix below, suffix ≠ [] ∧ place = above ++ [last] ∧
    other = above ++ (last ++ suffix) :: below

/-- A place is not above its longer siblings. -/
theorem not_prefix_of_longerSibling {place other : List (List α)}
    (sibling : LongerSibling place other) : ¬ place <+: other := by
  obtain ⟨above, last, suffix, below, longer, rfl, rfl⟩ := sibling
  intro inside
  rw [List.prefix_append_right_inj] at inside
  obtain ⟨same, _⟩ := List.cons_prefix_cons.mp inside
  exact longer (List.self_eq_append_right.mp same)

theorem not_longerSibling_nil (place : List (List α)) : ¬ LongerSibling place [] := by
  rintro ⟨above, last, suffix, below, _, _, none⟩
  simp at none

/-- A single name begins another place, or is shorter than its first name, exactly if it begins that
name. -/
theorem prefix_or_longerSibling_singleton (name other : List α) (rest : List (List α)) :
    [name] <+: other :: rest ∨ LongerSibling [name] (other :: rest) ↔ name <+: other := by
  constructor
  · rintro (inside | ⟨above, last, suffix, below, _, first, second⟩)
    · obtain ⟨rfl, _⟩ := List.cons_prefix_cons.mp inside
      exact List.prefix_rfl
    · cases above with
      | nil =>
          obtain ⟨rfl, _⟩ := List.cons.inj first
          obtain ⟨rfl, _⟩ := List.cons.inj second
          exact List.prefix_append _ _
      | cons head tail => simp at first
  · rintro ⟨suffix, rfl⟩
    by_cases longer : suffix = []
    · subst longer
      exact .inl (by simp)
    · exact .inr ⟨[], name, suffix, rest, longer, rfl, rfl⟩

theorem longerSibling_cons_iff {name other : List α} {names rest : List (List α)}
    (below : names ≠ []) :
    LongerSibling (name :: names) (other :: rest) ↔ name = other ∧ LongerSibling names rest := by
  constructor
  · rintro ⟨above, last, suffix, later, longer, first, second⟩
    cases above with
    | nil => exact absurd (List.cons.inj first).2 below
    | cons head tail =>
        obtain ⟨rfl, names_eq⟩ := List.cons.inj first
        obtain ⟨rfl, rest_eq⟩ := List.cons.inj second
        exact ⟨rfl, tail, last, suffix, later, longer, names_eq, rest_eq⟩
  · rintro ⟨rfl, above, last, suffix, later, longer, rfl, rfl⟩
    exact ⟨name :: above, last, suffix, later, longer, rfl, rfl⟩

variable {sep : α} {name other : List α}

/-- What is not the separator is not at the beginning of a text. -/
theorem not_cons_prefix_text {a : α} (differ : a ≠ sep) (l : List α) (names : List (List α)) :
    ¬ a :: l <+: text sep names := by
  intro inside
  cases names with
  | nil => simp [text] at inside
  | cons first rest =>
      rw [text_cons] at inside
      exact differ (List.cons_prefix_cons.mp inside).1

/-- A name at the beginning of a text is at the beginning of its first name. -/
theorem prefix_append_text_iff (plain : sep ∉ name) (names : List (List α)) :
    name <+: other ++ text sep names ↔ name <+: other := by
  constructor
  · intro inside
    induction name generalizing other with
    | nil => exact List.nil_prefix
    | cons a rest ih =>
        have differ : a ≠ sep := fun same => plain (same ▸ List.mem_cons_self)
        cases other with
        | nil => exact absurd inside (not_cons_prefix_text differ rest names)
        | cons b others =>
            obtain ⟨rfl, later⟩ := List.cons_prefix_cons.mp inside
            exact List.cons_prefix_cons.mpr
              ⟨rfl, ih (fun member => plain (List.mem_cons_of_mem _ member)) later⟩
  · exact fun inside => inside.trans (List.prefix_append _ _)

/-- A name with more behind it is the whole first name of the other text. -/
theorem append_text_prefix_iff (plain : sep ∉ name) (plainly : sep ∉ other)
    {names others : List (List α)} (more : names ≠ []) :
    name ++ text sep names <+: other ++ text sep others ↔
      name = other ∧ text sep names <+: text sep others := by
  constructor
  · intro inside
    induction name generalizing other with
    | nil =>
        cases other with
        | nil => exact ⟨rfl, inside⟩
        | cons b rest =>
            obtain ⟨first, tail, rfl⟩ := List.exists_cons_of_ne_nil more
            rw [List.nil_append, text_cons, List.cons_append, List.cons_prefix_cons] at inside
            exact absurd (inside.1 ▸ List.mem_cons_self) plainly
    | cons a rest ih =>
        have differ : a ≠ sep := fun same => plain (same ▸ List.mem_cons_self)
        cases other with
        | nil => exact absurd inside (not_cons_prefix_text differ _ others)
        | cons b tail =>
            obtain ⟨rfl, later⟩ := List.cons_prefix_cons.mp inside
            obtain ⟨rfl, below⟩ := ih (fun member => plain (List.mem_cons_of_mem _ member))
              (fun member => plainly (List.mem_cons_of_mem _ member)) later
            exact ⟨rfl, below⟩
  · rintro ⟨rfl, inside⟩
    exact (List.prefix_append_right_inj name).mpr inside

/-- **Prefixes of texts.** The text of a place begins that of another one exactly if the place is
above it, or the other one is at or below a sibling with a longer name. -/
theorem text_prefix_iff {place others : List (List α)} (plain : ∀ n ∈ place, sep ∉ n)
    (plainly : ∀ n ∈ others, sep ∉ n) :
    text sep place <+: text sep others ↔ place <+: others ∨ LongerSibling place others := by
  induction place generalizing others with
  | nil => simp [text]
  | cons name names ih =>
      cases others with
      | nil => exact iff_of_false (by simp [text]) (by simp [not_longerSibling_nil])
      | cons other rest =>
          have here := plain name List.mem_cons_self
          have there := plainly other List.mem_cons_self
          rw [text_cons, text_cons, List.cons_prefix_cons, and_iff_right rfl]
          by_cases last : names = []
          · subst last
            have alone : name ++ text sep [] = name := by simp [text]
            rw [alone, prefix_append_text_iff here, prefix_or_longerSibling_singleton]
          · have below := ih (fun n member => plain n (List.mem_cons_of_mem _ member))
              fun n member => plainly n (List.mem_cons_of_mem _ member)
            rw [append_text_prefix_iff here there last, below, List.cons_prefix_cons,
              longerSibling_cons_iff last, ← and_or_left]

end AgentServe.Lib.Path
