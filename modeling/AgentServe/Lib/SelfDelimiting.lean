import Mathlib.Logic.Function.Basic
import Mathlib.Data.List.Basic

/-!
# Self-delimiting codes

A code is self-delimiting when a code word at the front of a text tells where it
ends: no other word, and no other rest, gives the same text. Such codes can be put
one after the other (`SelfDelimiting.append`), into a fixed frame
(`SelfDelimiting.frame`), and in sequence up to a stop that no word begins with
(`SelfDelimiting.sequence`), and they are injective.
-/

set_option autoImplicit false

namespace AgentServe.Lib

universe u v w

variable {α : Type u} {β : Type v} {γ : Type w}

/-- A word at the front of a text is determined by the text, and so is what follows it. -/
def SelfDelimiting (f : α → List γ) : Prop :=
  ∀ a b r s, f a ++ r = f b ++ s → a = b ∧ r = s

/-- The words of a list, and a stop. -/
def sequence (f : α → List γ) (stop : List γ) : List α → List γ
  | [] => stop
  | a :: rest => f a ++ sequence f stop rest

namespace SelfDelimiting

variable {f : α → List γ} {g : β → List γ}

theorem injective (self : SelfDelimiting f) : Function.Injective f := by
  intro a b same
  exact (self a b [] [] (by rw [same])).1

/-- A code that can be read back is self-delimiting. -/
theorem of_read {read : List γ → Option (α × List γ)}
    (reads : ∀ a r, read (f a ++ r) = some (a, r)) : SelfDelimiting f := by
  intro a b r s same
  have both : some (a, r) = some (b, s) := by rw [← reads a r, same, reads b s]
  exact Prod.mk.inj (Option.some.inj both)

/-- Two words, one after the other. -/
theorem append (first : SelfDelimiting f) (second : SelfDelimiting g) :
    SelfDelimiting fun p : α × β => f p.1 ++ g p.2 := by
  rintro ⟨a, x⟩ ⟨b, y⟩ r s same
  simp only [List.append_assoc] at same
  obtain ⟨rfl, rest⟩ := first a b _ _ same
  obtain ⟨rfl, rfl⟩ := second x y _ _ rest
  exact ⟨rfl, rfl⟩

/-- A word in a fixed frame. -/
theorem frame (self : SelfDelimiting f) (before after : List γ) :
    SelfDelimiting fun a => before ++ f a ++ after := by
  intro a b r s same
  simp only [List.append_assoc, List.append_cancel_left_eq] at same
  obtain ⟨rfl, rest⟩ := self a b _ _ same
  exact ⟨rfl, List.append_cancel_left rest⟩

/-- A code of other things, which names them injectively. -/
theorem comp (self : SelfDelimiting f) {name : β → α} (injective : Function.Injective name) :
    SelfDelimiting fun b => f (name b) := by
  intro x y r s same
  obtain ⟨named, rest⟩ := self _ _ r s same
  exact ⟨injective named, rest⟩

/-- Words in sequence, up to a stop that cannot be taken for the beginning of a word. -/
theorem sequence (self : SelfDelimiting f) {stop : List γ}
    (stops : ∀ a r s, f a ++ r ≠ stop ++ s) : SelfDelimiting (sequence f stop) := by
  intro l m
  induction l generalizing m with
  | nil =>
      intro r s same
      cases m with
      | nil => exact ⟨rfl, List.append_cancel_left same⟩
      | cons b rest =>
          rw [Lib.sequence, Lib.sequence, List.append_assoc] at same
          exact absurd same.symm (stops b _ _)
  | cons a tail ih =>
      intro r s same
      cases m with
      | nil =>
          rw [Lib.sequence, Lib.sequence, List.append_assoc] at same
          exact absurd same (stops a _ _)
      | cons b rest =>
          simp only [Lib.sequence, List.append_assoc] at same
          obtain ⟨rfl, remaining⟩ := self a b _ _ same
          obtain ⟨rfl, rfl⟩ := ih rest r s remaining
          exact ⟨rfl, rfl⟩

end SelfDelimiting

end AgentServe.Lib
