import Mathlib.Algebra.BigOperators.Group.List.Basic
import Mathlib.Algebra.Order.Archimedean.Basic
import Mathlib.Order.Interval.Set.Basic

/-!
# Ledgers of amounts in time

A ledger is a list of amounts, each with the time it was entered. What counts at a
reading is the sum of the amounts from some time on (`since`). Dropping entries
that are too old for one reading changes no reading that looks less far back
(`since_filter`), and from some time on there is nothing to read
(`exists_since_eq_zero`).

Reading a ledger with a clock that is off shifts every reading by the same amount
of time. The readings from a time on are then all right only if the clock is right
or there is nothing to read in either case (`since_shift_iff`).
-/

set_option autoImplicit false

namespace AgentServe.Lib

universe u v

section Order

variable {τ : Type u} {M : Type v} [LinearOrder τ] [AddCommMonoid M]

/-- The amounts entered from a time on, together. -/
def since (entries : List (τ × M)) (start : τ) : M :=
  ((entries.filter fun e => start ≤ e.1).map Prod.snd).sum

@[simp] theorem since_nil (start : τ) : since ([] : List (τ × M)) start = 0 := rfl

theorem since_append (entries more : List (τ × M)) (start : τ) :
    since (entries ++ more) start = since entries start + since more start := by
  simp [since]

theorem since_singleton (e : τ × M) (start : τ) :
    since [e] start = if start ≤ e.1 then e.2 else 0 := by
  by_cases counts : start ≤ e.1
  · simp [since, counts]
  · simp [since, counts]

/-- Of the entries from one time on, those from another time on count: both bounds apply. -/
theorem since_filter_max (entries : List (τ × M)) (first second : τ) :
    since (entries.filter fun e => first ≤ e.1) second = since entries (max second first) := by
  unfold since
  rw [List.filter_filter]
  apply congrArg fun kept => (List.map Prod.snd kept).sum
  apply List.filter_congr
  intro e _
  simp

/-- Entries before an earlier time do not count from a later time on. -/
theorem since_filter (entries : List (τ × M)) {earlier later : τ} (order : earlier ≤ later) :
    since (entries.filter fun e => earlier ≤ e.1) later = since entries later := by
  rw [since_filter_max, max_eq_left order]

/-- From some time on, there is nothing to read. -/
theorem exists_since_eq_zero [Nonempty τ] [NoMaxOrder τ] (entries : List (τ × M)) :
    ∃ bound, ∀ start, bound ≤ start → since entries start = 0 := by
  have later : ∃ bound, ∀ e ∈ entries, e.1 < bound := by
    induction entries with
    | nil => exact ⟨Classical.arbitrary τ, fun _ member => absurd member List.not_mem_nil⟩
    | cons head tail ih =>
        obtain ⟨bound, older⟩ := ih
        obtain ⟨above, larger⟩ := exists_gt (max head.1 bound)
        refine ⟨above, fun e member => ?_⟩
        rcases List.mem_cons.mp member with rfl | inside
        · exact (le_max_left _ _).trans_lt larger
        · exact (older e inside).trans ((le_max_right _ _).trans_lt larger)
  obtain ⟨bound, older⟩ := later
  refine ⟨bound, fun start order => ?_⟩
  have none : (entries.filter fun e => start ≤ e.1) = [] := by
    apply List.filter_eq_nil_iff.mpr
    intro e member
    simpa using (older e member).trans_le order
  rw [since, none]
  rfl

end Order

section Shift

variable {τ : Type u} {M : Type v} [AddCommGroup τ] [LinearOrder τ] [IsOrderedAddMonoid τ]
  [Archimedean τ] [AddCommMonoid M]

/-- A ledger whose readings repeat at a distance from some time on has nothing to read from then
on: following the repetitions leads to where there is nothing. -/
theorem since_eq_zero_of_shift {entries : List (τ × M)} {start distance : τ} (pos : 0 < distance)
    (repeats : ∀ x, start ≤ x → since entries (x + distance) = since entries x) {x : τ}
    (late : start ≤ x) : since entries x = 0 := by
  have along : ∀ n : ℕ, since entries (x + n • distance) = since entries x := by
    intro n
    induction n with
    | zero => rw [zero_nsmul, add_zero]
    | succ n ih =>
        have later : start ≤ x + n • distance :=
          late.trans (le_add_of_nonneg_right (nsmul_nonneg pos.le n))
        rw [succ_nsmul, ← add_assoc, repeats _ later, ih]
  have : Nontrivial τ := ⟨0, distance, pos.ne⟩
  obtain ⟨bound, nothing⟩ := exists_since_eq_zero entries
  obtain ⟨n, far⟩ := Archimedean.arch (bound - x) pos
  rw [← along n]
  exact nothing _ (sub_le_iff_le_add'.mp far)

private theorem since_eq_zero_of_lt {entries : List (τ × M)} {a b : τ} (less : a < b)
    (agree : ∀ e, 0 ≤ e → since entries (a + e) = since entries (b + e)) {x : τ} (late : a ≤ x) :
    since entries x = 0 := by
  apply since_eq_zero_of_shift (sub_pos.mpr less) _ late
  intro y later
  have same := agree (y - a) (sub_nonneg.mpr later)
  rw [add_sub_cancel] at same
  rw [same]
  apply congrArg (since entries)
  abel

/-- **Clocks that are off.** Two clocks read the same amounts for ever after exactly if they agree,
or there is nothing to read from the earlier of their starts on. -/
theorem since_shift_iff (entries : List (τ × M)) (a b : τ) :
    (∀ e, 0 ≤ e → since entries (a + e) = since entries (b + e)) ↔
      a = b ∨ ∀ x, min a b ≤ x → since entries x = 0 := by
  constructor
  · intro agree
    rcases lt_trichotomy a b with less | same | more
    · right
      rw [min_eq_left less.le]
      exact fun x late => since_eq_zero_of_lt less agree late
    · exact .inl same
    · right
      rw [min_eq_right more.le]
      exact fun x late => since_eq_zero_of_lt more (fun e later => (agree e later).symm) late
  · rintro (rfl | nothing) e later
    · rfl
    · rw [nothing _ ((min_le_left a b).trans (le_add_of_nonneg_right later)),
        nothing _ ((min_le_right a b).trans (le_add_of_nonneg_right later))]

end Shift

end AgentServe.Lib
