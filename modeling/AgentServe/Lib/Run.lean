import Mathlib.Algebra.BigOperators.Group.List.Basic
import Mathlib.Algebra.Ring.Int.Defs
import Mathlib.Data.List.Infix

/-!
# Runs of event-driven systems

Two shapes of system occur. In the first an event may not be enabled: a step is
a partial function, and a run is a list of events all of which fire. In the
second every operation succeeds and gives an answer, and a run leaves a history
of operations with their answers.

For partial systems, a property of every state of a run follows from a property
of every step (`everyState_of_everyStep`), and the property of a state may speak
of the events so far (`past_invariant`). When one step keeps the property exactly if
it meets a condition, the property holds along the run exactly if every step of it
meets the condition (`everyState_iff_everyStep`, and `everyStepAfter_iff` for
properties of steps). A run is matched by the run of some of its events
(`run_filter`), or by a run of a part of the system (`run_project`), and it is no longer
than a measure that every step makes smaller (`length_add_le_of_decreasing`). What the steps
of a run put out is collected along it (`collect`), and what steps of a kind change
of a measure adds up to their net effect (`netEffect`). For total systems, a relation
between the history and the present state that every operation maintains holds at
the end of every run (`history_invariant`). Two total systems whose states can be related
as the events come have the same histories (`history_eq_of_simulation`).
-/

set_option autoImplicit false

namespace AgentServe.Lib

universe u v w x

/-! ## Partial steps -/

section Partial

variable {σ : Type u} {α : Type v} (step : σ → α → Option σ)

/-- Fire the events in order. The run fails at the first event that is not enabled. -/
def run : σ → List α → Option σ
  | s, [] => some s
  | s, e :: rest => (step s e).bind fun t => run t rest

variable {step}

@[simp] theorem run_nil (s : σ) : run step s [] = some s := rfl

theorem run_cons (s : σ) (e : α) (rest : List α) :
    run step s (e :: rest) = (step s e).bind fun t => run step t rest := rfl

theorem run_append (s : σ) (first second : List α) :
    run step s (first ++ second) = (run step s first).bind fun t => run step t second := by
  induction first generalizing s with
  | nil => rfl
  | cons e rest ih =>
      simp only [List.cons_append, run_cons]
      cases step s e with
      | none => rfl
      | some t => exact ih t

theorem run_concat (s : σ) (first : List α) (e : α) :
    run step s (first ++ [e]) = (run step s first).bind fun t => step t e := by
  rw [run_append]
  cases run step s first with
  | none => rfl
  | some t => cases fired : step t e <;> simp [run_cons, fired]

/-- A run through a middle point is a run to it and a run from it. -/
theorem run_append_eq_some {s t : σ} {first second : List α} :
    run step s (first ++ second) = some t ↔
      ∃ m, run step s first = some m ∧ run step m second = some t := by
  rw [run_append, Option.bind_eq_some_iff]

theorem run_concat_eq_some {s t : σ} {first : List α} {e : α} :
    run step s (first ++ [e]) = some t ↔ ∃ m, run step s first = some m ∧ step m e = some t := by
  rw [run_concat, Option.bind_eq_some_iff]

variable (step)

/-- Every state a run passes through, its two ends included, has the property. -/
def EveryState (s : σ) (events : List α) (P : σ → Prop) : Prop :=
  ∀ first second t, events = first ++ second → run step s first = some t → P t

/-- Every step of a run meets the condition, a relation between the state before the step
and its event. -/
def EveryStep (s : σ) (events : List α) (C : σ → α → Prop) : Prop :=
  ∀ first e second t, events = first ++ e :: second → run step s first = some t → C t e

/-- Every step of a run meets the condition, which may look at the events before the step. -/
def EveryStepAfter (s : σ) (events : List α) (C : List α → σ → α → Prop) : Prop :=
  ∀ first e second t, events = first ++ e :: second → run step s first = some t → C first t e

variable {step}

theorem EveryStep.mono {s : σ} {events : List α} {C D : σ → α → Prop}
    (every : EveryStep step s events C) (weaker : ∀ t e, C t e → D t e) :
    EveryStep step s events D := by
  intro first e second t split fired
  exact weaker t e (every first e second t split fired)

/-- A condition is met by every step of a run if it is met by the first one and by those that
follow. -/
theorem EveryStep.cons {s : σ} {e : α} {rest : List α} {C : σ → α → Prop} (here : C s e)
    (later : ∀ t, step s e = some t → EveryStep step t rest C) :
    EveryStep step s (e :: rest) C := by
  intro first f second t split fired
  cases first with
  | nil =>
      cases split
      cases fired
      exact here
  | cons head tail =>
      obtain ⟨rfl, remaining⟩ := List.cons_eq_cons.mp split
      obtain ⟨m, stepped, followed⟩ := Option.bind_eq_some_iff.mp fired
      exact later m stepped tail f second t remaining followed

theorem EveryStep.nil {s : σ} {C : σ → α → Prop} : EveryStep step s [] C := by
  intro first e second t split
  simp at split

theorem EveryState.prefix {s : σ} {first second : List α} {P : σ → Prop}
    (every : EveryState step s (first ++ second) P) : EveryState step s first P := by
  intro front back t split fired
  exact every front (back ++ second) t (by rw [split, List.append_assoc]) fired

theorem EveryStep.prefix {s : σ} {first second : List α} {C : σ → α → Prop}
    (every : EveryStep step s (first ++ second) C) : EveryStep step s first C := by
  intro front e back t split fired
  exact every front e (back ++ second) t
    (by rw [split, List.append_assoc, List.cons_append]) fired

/-- **Runs and their past.** A relation between the events so far and the present state that
holds at the start, and that every step of the run, under its condition, maintains, holds at the
end of the run. -/
theorem past_invariant_of_everyStep {P : List α → σ → Prop} {C : σ → α → Prop}
    (maintains : ∀ past s e t, P past s → C s e → step s e = some t → P (past ++ [e]) t) {s : σ}
    (start : P [] s) {events : List α} (every : EveryStep step s events C) {t : σ}
    (fired : run step s events = some t) : P events t := by
  induction events using List.reverseRecOn generalizing t with
  | nil =>
      cases fired
      exact start
  | append_singleton first e ih =>
      obtain ⟨m, before, last⟩ := run_concat_eq_some.mp fired
      exact maintains first m e t (ih every.prefix before) (every first e [] m rfl before) last

/-- A relation between the events so far and the present state that holds at the start, and that
every step maintains, holds at the end of every run. -/
theorem past_invariant {P : List α → σ → Prop}
    (maintains : ∀ past s e t, P past s → step s e = some t → P (past ++ [e]) t) {s : σ}
    (start : P [] s) {events : List α} {t : σ} (fired : run step s events = some t) :
    P events t :=
  past_invariant_of_everyStep (C := fun _ _ => True)
    (fun past s e t holds _ => maintains past s e t holds) start (fun _ _ _ _ _ _ => trivial) fired

/-- The same for relations that may also use that the past was a run to the state. -/
theorem past_invariant_of_run {P : List α → σ → Prop} {s : σ}
    (maintains : ∀ past m e t, run step s past = some m → P past m → step m e = some t →
      P (past ++ [e]) t)
    (start : P [] s) {events : List α} {t : σ} (fired : run step s events = some t) :
    P events t := by
  have both : run step s events = some t ∧ P events t :=
    past_invariant (P := fun past m => run step s past = some m ∧ P past m)
      (fun past m e t ⟨ran, holds⟩ stepped =>
        ⟨run_concat_eq_some.mpr ⟨m, ran, stepped⟩, maintains past m e t ran holds stepped⟩)
      ⟨rfl, start⟩ fired
  exact both.2

/-- The last state of a run has a property that holds at the start and that every step of
the run, under its condition, preserves. -/
theorem invariant_of_everyStep {P : σ → Prop} {C : σ → α → Prop}
    (preserves : ∀ s e t, P s → C s e → step s e = some t → P t) {s : σ} (start : P s)
    {events : List α} (every : EveryStep step s events C) {t : σ}
    (fired : run step s events = some t) : P t :=
  past_invariant_of_everyStep (P := fun _ => P) (fun _ => preserves) start every fired

/-- A property that every step preserves holds at the end of every run. -/
theorem invariant_of_step {P : σ → Prop}
    (preserves : ∀ s e t, P s → step s e = some t → P t) {s : σ} (start : P s)
    {events : List α} {t : σ} (fired : run step s events = some t) : P t :=
  past_invariant (P := fun _ => P) (fun _ => preserves) start fired

/-- **Step lemma to run lemma.** A property that holds at the start and that every step
preserves under its condition holds in every state of a run whose steps meet the condition. -/
theorem everyState_of_everyStep {P : σ → Prop} {C : σ → α → Prop}
    (preserves : ∀ s e t, P s → C s e → step s e = some t → P t) {s : σ} (start : P s)
    {events : List α} (every : EveryStep step s events C) : EveryState step s events P := by
  intro first second t split fired
  subst split
  exact invariant_of_everyStep preserves start every.prefix fired

/-- **The condition is exact.** Let the invariant be kept by every step. When a step from a
state with the property keeps it exactly if the condition is met, a complete run has the
property throughout exactly if all its steps meet the condition. -/
theorem everyState_iff_everyStep {I P : σ → Prop} {C : σ → α → Prop}
    (keeps : ∀ s e t, I s → step s e = some t → I t)
    (exact_step : ∀ s e t, I s → P s → step s e = some t → (P t ↔ C s e)) {s : σ}
    (invariant : I s) (start : P s) {events : List α} {final : σ}
    (complete : run step s events = some final) :
    EveryState step s events P ↔ EveryStep step s events C := by
  constructor
  · intro every first e second t split fired
    subst split
    have kept : I t := invariant_of_step keeps invariant fired
    have here : P t := every first (e :: second) t rfl fired
    obtain ⟨m, before, rest⟩ := run_append_eq_some.mp complete
    obtain rfl : t = m := Option.some.inj (fired.symm.trans before)
    obtain ⟨next, stepped, _⟩ := Option.bind_eq_some_iff.mp rest
    have after : P next := every (first ++ [e]) second next (by simp)
      (run_concat_eq_some.mpr ⟨t, fired, stepped⟩)
    exact (exact_step t e next kept here stepped).mp after
  · intro every
    have both : EveryState step s events fun t => I t ∧ P t :=
      everyState_of_everyStep
        (fun s e t ⟨kept, holds⟩ met stepped =>
          ⟨keeps s e t kept stepped, (exact_step s e t kept holds stepped).mpr met⟩)
        ⟨invariant, start⟩ every
    exact fun first second t split fired => (both first second t split fired).2

/-- **Steps judged one by one.** Let the invariant relate the past and the present state of
every run. When a step from such a state meets one condition exactly if it meets another, a
complete run meets the one throughout exactly if it meets the other throughout. -/
theorem everyStepAfter_iff {I : List α → σ → Prop} {P C : List α → σ → α → Prop}
    (maintains : ∀ past s e t, I past s → step s e = some t → I (past ++ [e]) t)
    (same : ∀ past s e t, I past s → step s e = some t → (P past s e ↔ C past s e)) {s : σ}
    (start : I [] s) {events : List α} {final : σ} (complete : run step s events = some final) :
    EveryStepAfter step s events P ↔ EveryStepAfter step s events C := by
  have at_step : ∀ first e second t, events = first ++ e :: second → run step s first = some t →
      (P first t e ↔ C first t e) := by
    intro first e second t split fired
    subst split
    obtain ⟨m, before, rest⟩ := run_append_eq_some.mp complete
    obtain rfl : t = m := Option.some.inj (fired.symm.trans before)
    obtain ⟨next, stepped, _⟩ := Option.bind_eq_some_iff.mp rest
    have kept : I first t := past_invariant maintains start fired
    exact same first t e next kept stepped
  constructor
  · intro every first e second t split fired
    exact (at_step first e second t split fired).mp (every first e second t split fired)
  · intro every first e second t split fired
    exact (at_step first e second t split fired).mpr (every first e second t split fired)

/-- The same for conditions that do not look at the past. -/
theorem everyStep_iff {I : σ → Prop} {P C : σ → α → Prop}
    (keeps : ∀ s e t, I s → step s e = some t → I t)
    (same : ∀ s e t, I s → step s e = some t → (P s e ↔ C s e)) {s : σ} (start : I s)
    {events : List α} {final : σ} (complete : run step s events = some final) :
    EveryStep step s events P ↔ EveryStep step s events C :=
  everyStepAfter_iff (I := fun _ => I) (P := fun _ => P) (C := fun _ => C)
    (fun _ => keeps) (fun _ => same) start complete

/-- A condition on the events alone is met by every step of a complete run exactly if every event
meets it. -/
theorem everyStep_iff_forall_mem {C : α → Prop} {s : σ} {events : List α} {final : σ}
    (complete : run step s events = some final) :
    EveryStep step s events (fun _ => C) ↔ ∀ e ∈ events, C e := by
  constructor
  · intro every e member
    obtain ⟨first, second, rfl⟩ := List.mem_iff_append.mp member
    obtain ⟨m, before, _⟩ := run_append_eq_some.mp complete
    exact every first e second m rfl before
  · intro all first e second t split _
    exact all e (by simp [split])

/-- **Leaving events out.** Let two states be related. When every event that is kept fires on
both sides, and every event that is left out is not seen by the other side, a run is matched by
the run of the events that are kept. -/
theorem run_filter {R : σ → σ → Prop} {keep : α → Bool}
    (kept : ∀ s s' e t, R s s' → keep e = true → step s e = some t →
      ∃ t', step s' e = some t' ∧ R t t')
    (unseen : ∀ s s' e t, R s s' → keep e = false → step s e = some t → R t s') {s s' : σ}
    (related : R s s') {events : List α} {t : σ} (fired : run step s events = some t) :
    ∃ t', run step s' (events.filter keep) = some t' ∧ R t t' := by
  induction events generalizing s s' with
  | nil =>
      cases fired
      exact ⟨s', rfl, related⟩
  | cons e rest ih =>
      obtain ⟨m, first, later⟩ := Option.bind_eq_some_iff.mp fired
      by_cases own : keep e = true
      · obtain ⟨m', also, still⟩ := kept s s' e m related own first
        obtain ⟨t', ran, last⟩ := ih still later
        refine ⟨t', ?_, last⟩
        rw [List.filter_cons_of_pos own, run_cons, also]
        exact ran
      · have other : keep e = false := by simpa using own
        rw [List.filter_cons_of_neg own]
        exact ih (unseen s s' e m related other first) later

/-- **Parts of a system.** When every step of a system is a step of a part of it, or leaves the
part as it was, the part has had a run of its own. -/
theorem run_project {τ : Type w} {β : Type x} {inner : τ → β → Option τ} (part : σ → τ)
    (projects : ∀ s e t, step s e = some t →
      part t = part s ∨ ∃ f, inner (part s) f = some (part t))
    {s : σ} {events : List α} {t : σ} (fired : run step s events = some t) :
    ∃ steps, run inner (part s) steps = some (part t) := by
  apply invariant_of_step (P := fun t => ∃ steps, run inner (part s) steps = some (part t))
    _ ⟨[], rfl⟩ fired
  rintro m e t ⟨steps, earlier⟩ stepped
  rcases projects m e t stepped with same | ⟨f, inside⟩
  · exact ⟨steps, same ▸ earlier⟩
  · exact ⟨steps ++ [f], run_concat_eq_some.mpr ⟨part m, earlier, inside⟩⟩

/-- A run is no longer than a measure that every step makes smaller. -/
theorem length_add_le_of_decreasing {I : σ → Prop} (measure : σ → ℕ)
    (keeps : ∀ s e t, I s → step s e = some t → I t)
    (decreases : ∀ s e t, I s → step s e = some t → measure t < measure s) {s : σ} (start : I s)
    {events : List α} {t : σ} (fired : run step s events = some t) :
    events.length + measure t ≤ measure s := by
  induction events generalizing s with
  | nil =>
      cases fired
      simp
  | cons e rest ih =>
      obtain ⟨m, first, later⟩ := Option.bind_eq_some_iff.mp fired
      have less := decreases s e m start first
      have rest_short := ih (keeps s e m start first) later
      rw [List.length_cons]
      omega

/-! ### What steps put out -/

section Collect

variable {β : Type w} (step)

/-- What the steps of a run put out, in order. -/
def collect (out : σ → α → σ → List β) : σ → List α → List β
  | _, [] => []
  | s, e :: rest =>
    match step s e with
    | none => []
    | some t => out s e t ++ collect out t rest

/-- What the steps of a kind, together, add to a measure. -/
def netEffect (own : σ → α → Bool) (measure : σ → ℤ) (s : σ) (events : List α) : ℤ :=
  (collect step (fun s e t => if own s e then [measure t - measure s] else []) s events).sum

variable {step} {out : σ → α → σ → List β} {own : σ → α → Bool} {measure : σ → ℤ} {s m t : σ}
  {first : List α} {e : α}

theorem collect_concat (before : run step s first = some m) (fired : step m e = some t) :
    collect step out s (first ++ [e]) = collect step out s first ++ out m e t := by
  induction first generalizing s with
  | nil =>
      cases before
      simp [collect, fired]
  | cons head tail ih =>
      obtain ⟨n, here, rest⟩ := Option.bind_eq_some_iff.mp before
      simp only [List.cons_append, collect, here, ih rest, List.append_assoc]

theorem netEffect_concat_own (before : run step s first = some m) (fired : step m e = some t)
    (mine : own m e = true) :
    netEffect step own measure s (first ++ [e]) =
      netEffect step own measure s first + (measure t - measure m) := by
  rw [netEffect, collect_concat before fired, List.sum_append, if_pos mine, List.sum_singleton]
  rfl

theorem netEffect_concat_other (before : run step s first = some m) (fired : step m e = some t)
    (other : own m e = false) :
    netEffect step own measure s (first ++ [e]) = netEffect step own measure s first := by
  rw [netEffect, collect_concat before fired, List.sum_append, if_neg (by simp [other]),
    List.sum_nil, add_zero]
  rfl

end Collect

end Partial

/-! ## Total steps with answers -/

section Total

variable {σ : Type u} {α : Type v} {β : Type w} (step : σ → α → σ × β)

/-- The state a list of operations leads to. -/
def final : σ → List α → σ
  | s, [] => s
  | s, e :: rest => final (step s e).1 rest

/-- The operations with their answers. -/
def history : σ → List α → List (α × β)
  | _, [] => []
  | s, e :: rest => (e, (step s e).2) :: history (step s e).1 rest

variable {step}

theorem final_append (s : σ) (first second : List α) :
    final step s (first ++ second) = final step (final step s first) second := by
  induction first generalizing s with
  | nil => rfl
  | cons e rest ih => exact ih (step s e).1

theorem history_append (s : σ) (first second : List α) :
    history step s (first ++ second) =
      history step s first ++ history step (final step s first) second := by
  induction first generalizing s with
  | nil => rfl
  | cons e rest ih => exact congrArg _ (ih (step s e).1)

theorem final_concat (s : σ) (first : List α) (e : α) :
    final step s (first ++ [e]) = (step (final step s first) e).1 :=
  final_append s first [e]

theorem history_concat (s : σ) (first : List α) (e : α) :
    history step s (first ++ [e]) =
      history step s first ++ [(e, (step (final step s first) e).2)] :=
  history_append s first [e]

/-- **Histories and states.** A relation between history and state that holds at the start
and that every operation of a kind maintains holds at the end of every run of operations of
that kind. -/
theorem history_invariant_of_forall {P : List (α × β) → σ → Prop} {C : α → Prop}
    (maintains : ∀ h s e, C e → P h s → P (h ++ [(e, (step s e).2)]) (step s e).1) {s : σ}
    (start : P [] s) {events : List α} (all : ∀ e ∈ events, C e) :
    P (history step s events) (final step s events) := by
  induction events using List.reverseRecOn with
  | nil => exact start
  | append_singleton first e ih =>
      rw [history_concat, final_concat]
      exact maintains _ _ e (all e (by simp)) (ih fun e' member => all e' (by simp [member]))

/-- A relation between history and state that holds at the start and that every operation
maintains holds at the end of every run. -/
theorem history_invariant {P : List (α × β) → σ → Prop}
    (maintains : ∀ h s e, P h s → P (h ++ [(e, (step s e).2)]) (step s e).1) {s : σ}
    (start : P [] s) (events : List α) : P (history step s events) (final step s events) :=
  history_invariant_of_forall (C := fun _ => True) (fun h s e _ => maintains h s e) start
    fun _ _ => trivial

/-- **Simulation.** Two systems answer alike, if related states answer every next event alike and
stay related. The relation may depend on the place an event has in an order, and events come in
that order. -/
theorem history_eq_of_simulation {τ : Type w} {κ : Type x} [LE κ] {other : τ → α → τ × β}
    {key : α → κ} {R : κ → σ → τ → Prop} {C : α → Prop}
    (keeps : ∀ k s t e, C e → k ≤ key e → R k s t →
      (step s e).2 = (other t e).2 ∧ R (key e) (step s e).1 (other t e).1)
    {events : List α} (all : ∀ e ∈ events, C e) {k : κ}
    (ordered : (k :: events.map key).IsChain (· ≤ ·)) {s : σ} {t : τ} (start : R k s t) :
    history step s events = history other t events := by
  induction events generalizing k s t with
  | nil => rfl
  | cons e rest ih =>
      obtain ⟨order, later⟩ := List.isChain_cons_cons.mp ordered
      obtain ⟨answer, related⟩ := keeps k s t e (all e List.mem_cons_self) order start
      rw [history, history, answer,
        ih (fun e' member => all e' (List.mem_cons_of_mem _ member)) later related]

end Total

end AgentServe.Lib
