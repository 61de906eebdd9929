import AgentServe.Admission.NoTrace
import Mathlib.Algebra.Order.BigOperators.Group.List

/-!
# Budgets and requests that overlap

`gate` compares the estimate of a request with what its agent has used so far, and the request is
debited when it is done. In between, other requests of the agent pass the same comparison. Here
every admitted request is debited at most once, with no more than the estimate it was admitted
with, nobody is debited otherwise, and the clock never goes back.

What an agent can come to is its usage together with the estimates of its admitted requests that
are not debited yet. A debit never adds to it (`within_debit`), and nothing but an admission does
(`within_call`, `within_owe`). So no agent runs over its budget as long as every admission
leaves room for all of it (`usage_within_budget`). `gate` does not see to that, and two requests at
once are enough to run over (`overlap_overruns`).
-/

set_option autoImplicit false

namespace AgentServe

open Lib

/-- The clock readings of a call are in order. Readings that are not taken may be any. -/
def GateClock.Ordered (clock : GateClock) : Prop :=
  clock.check ≤ clock.report ∧ clock.report ≤ clock.start ∧ clock.start ≤ clock.finish

instance (clock : GateClock) : Decidable clock.Ordered := by
  unfold GateClock.Ordered
  infer_instance

namespace TokenAccountant

/-- The usage of an agent after a debit. -/
theorem usage_debit (a : TokenAccountant) (agentId other : String) (input output : ℤ)
    {time now : Time} (later : time ≤ now) :
    (((a.debit other input output time).stateOf agentId).currentUsage now).2 ≤
      ((a.stateOf agentId).currentUsage now).2 +
        if other = agentId then max (input + output) 0 else 0 := by
  rw [debit, stateOf_setState]
  by_cases own : agentId = other
  · subst own
    rw [if_pos rfl, if_pos rfl]
    have kept : since ((a.stateOf agentId).evictExpired time).entries
        (now - (a.stateOf agentId).windowSeconds) =
          since (a.stateOf agentId).entries (now - (a.stateOf agentId).windowSeconds) :=
      since_filter _ (sub_le_sub_right later _)
    have added : since (((a.stateOf agentId).evictExpired time).entries ++ [(time, input + output)])
        (now - (a.stateOf agentId).windowSeconds) ≤
          since (a.stateOf agentId).entries (now - (a.stateOf agentId).windowSeconds) +
            max (input + output) 0 := by
      rw [since_append, kept, since_singleton]
      split <;> omega
    exact added
  · have differ : ¬ other = agentId := fun same => own same.symm
    rw [if_neg own, if_neg differ, add_zero]

theorem budget_debit (a : TokenAccountant) (agentId other : String) (input output : ℤ)
    (time : Time) :
    ((a.debit other input output time).stateOf agentId).budget = (a.stateOf agentId).budget := by
  rw [debit, stateOf_setState]
  split
  · rename_i own
    rw [own]
    rfl
  · rfl

end TokenAccountant

/-- Requests at the controller, with their estimates, the admitted ones that are not debited, each
with its agent and its estimate, and the time. -/
structure Spending (ρ : Type) where
  admission : AdmissionSystem ρ
  estimates : Dict ρ ℤ
  owed : Dict ρ (String × ℤ)
  clock : Time

/-- A step of a request at the controller, or the debit of an admitted request. -/
inductive SpendingEvent (ρ : Type) where
  | call (e : AdmissionEvent ρ)
  | debit (k : ρ) (input output : ℤ) (now : Time)

namespace Spending

variable {ρ : Type}

def new (config : AdmissionConfig) (registry : BackendRegistry) (start : Time) : Spending ρ where
  admission := .new config (.new config) registry
  estimates := .empty
  owed := .empty
  clock := start

/-- The usage of an agent that a reading of the clock would find. -/
def usage (s : Spending ρ) (agentId : String) (now : Time) : ℤ :=
  ((s.admission.controller.accountant.stateOf agentId).currentUsage now).2

def budget (s : Spending ρ) (agentId : String) : ℤ :=
  (s.admission.controller.accountant.stateOf agentId).budget

/-- The most that the admitted requests of an agent can still be debited with. -/
def outstanding (s : Spending ρ) (agentId : String) : ℤ :=
  s.owed.sum fun _ x => if x.1 = agentId then max x.2 0 else 0

variable [DecidableEq ρ]

/-- A request that got its slot owes its estimate. -/
def owe (s : Spending ρ) (k : ρ) : Spending ρ :=
  match s.admission.tickets.get? k, s.estimates.get? k with
  | some ⟨session, _, .holding _⟩, some estimated =>
    { s with owed := s.owed.set k (session.agentId, estimated) }
  | _, _ => s

/-- One step. Nobody is debited but by the debit of an admitted request. -/
def step (s : Spending ρ) : SpendingEvent ρ → Option (Spending ρ)
  | .call (.gate k session tier estimated clock) =>
    if s.clock ≤ clock.check ∧ clock.Ordered then
      (s.admission.step (.gate k session tier estimated clock)).map fun admission =>
        owe ⟨admission, s.estimates.set k estimated, s.owed, clock.finish⟩ k
    else none
  | .call (.resume k finish) =>
    if s.clock ≤ finish then
      (s.admission.step (.resume k finish)).map fun admission =>
        owe ⟨admission, s.estimates, s.owed, finish⟩ k
    else none
  | .call (.debit _ _ _ _) => none
  | .call e => (s.admission.step e).map fun admission => { s with admission }
  | .debit k input output now =>
    match s.owed.get? k with
    | some (agentId, estimated) =>
      if s.clock ≤ now ∧ input + output ≤ estimated then
        (s.admission.step (.debit agentId input output now)).map fun admission =>
          ⟨admission, s.estimates, s.owed.erase k, now⟩
      else none
    | none => none

/-- A step lets a request of an agent in, at a time and with an estimate. -/
inductive LetsIn (s : Spending ρ) : SpendingEvent ρ → Time → String → ℤ → Prop where
  | atOnce {k : ρ} {session : SessionContext} {tier : Tier} {estimated : ℤ} {clock : GateClock}
      {wait : Time}
      (got : (s.admission.controller.gate k session tier estimated clock).2 = .holding wait) :
      LetsIn s (.call (.gate k session tier estimated clock)) clock.finish session.agentId estimated
  | afterWait {k : ρ} {session : SessionContext} {tier : Tier} {estimated : ℤ}
      {start finish wait : Time} {interrupted : Option Interrupt} {d : AdmissionController ρ}
      (inside : s.admission.tickets.get? k = some ⟨session, tier, .inside start interrupted⟩)
      (asked : s.estimates.get? k = some estimated)
      (got : s.admission.controller.resume k session tier start interrupted finish =
        some (d, .holding wait)) :
      LetsIn s (.call (.resume k finish)) finish session.agentId estimated

/-- A request is let in only when its estimate fits in the budget, on top of the usage, then or
later, and of the estimates of the agent's admitted requests that are not debited. -/
def LeavesRoom (s : Spending ρ) (e : SpendingEvent ρ) : Prop :=
  ∀ time agentId estimated, s.LetsIn e time agentId estimated → ∀ now, time ≤ now →
    s.usage agentId now + s.outstanding agentId + max estimated 0 ≤ s.budget agentId

/-- No agent has used more than its budget, at the time or later. -/
def WithinBudget (s : Spending ρ) : Prop :=
  ∀ agentId now, s.clock ≤ now → s.usage agentId now ≤ s.budget agentId

/-! ## What holds of every reachable state -/

/-- Only admitted requests owe, and what every agent can come to fits in its budget. -/
structure Within (s : Spending ρ) : Prop where
  sound : s.admission.Sound
  admitted : ∀ k x, s.owed.get? k = some x → ¬ s.admission.Unadmitted k
  fits : ∀ agentId now, s.clock ≤ now →
    s.usage agentId now + s.outstanding agentId ≤ s.budget agentId

section Steps

variable {s t : Spending ρ}

/-- A step that debits nobody keeps what the agents have used and what they can come to. -/
theorem within_call (within : s.Within) {e : AdmissionEvent ρ}
    (undebited : ∀ agentId input output now, e ≠ .debit agentId input output now)
    (stepped : s.admission.step e = some t.admission) (order : s.clock ≤ t.clock)
    (past : ∀ time ∈ s.admission.readings (.call e), time ≤ t.clock) (owed : t.owed = s.owed) :
    t.Within ∧ ∀ agentId now, t.clock ≤ now →
      t.usage agentId now = s.usage agentId now ∧ t.budget agentId = s.budget agentId := by
  have same : ∀ agentId now, t.clock ≤ now →
      t.usage agentId now = s.usage agentId now ∧ t.budget agentId = s.budget agentId := by
    intro agentId now later
    have alike := AdmissionSystem.alike_of_does (AdmissionSystem.does_of_step stepped) undebited
      fun time member => (past time member).trans later
    exact ⟨(alike agentId).usage, (alike agentId).budget⟩
  refine ⟨⟨AdmissionSystem.sound_step within.sound stepped, ?_, ?_⟩, same⟩
  · intro k x found unadmitted
    rw [owed] at found
    exact within.admitted k x found
      (AdmissionSystem.unadmitted_of_step (e := .call e) within.sound stepped unadmitted)
  · intro agentId now later
    obtain ⟨usage, budget⟩ := same agentId now later
    rw [usage, budget, outstanding, owed]
    exact within.fits agentId now (order.trans later)

/-- A request that got its slot may owe its estimate if there is room for it. -/
theorem within_owe (within : s.Within) {k : ρ} (free : s.owed.get? k = none)
    (room : ∀ session tier wait estimated,
      s.admission.tickets.get? k = some ⟨session, tier, .holding wait⟩ →
      s.estimates.get? k = some estimated → ∀ now, s.clock ≤ now →
        s.usage session.agentId now + s.outstanding session.agentId + max estimated 0 ≤
          s.budget session.agentId) : (s.owe k).Within := by
  unfold owe
  split
  · rename_i session tier wait estimated ticket asked
    refine ⟨within.sound, ?_, ?_⟩
    · intro j x found unadmitted
      rw [Dict.get?_set] at found
      split at found
      · rename_i same
        subst same
        cases unadmitted _ ticket
      · exact within.admitted j x found unadmitted
    · intro agentId now later
      have grown := Dict.sum_set_of_get?_none
        (fun _ x => if x.1 = agentId then max x.2 (0 : ℤ) else 0) (session.agentId, estimated) free
      have before := within.fits agentId now later
      rw [outstanding, grown]
      by_cases own : session.agentId = agentId
      · subst own
        have fits := room session tier wait estimated ticket asked now later
        rw [if_pos rfl, ← add_assoc]
        exact fits
      · rw [if_neg own, add_zero]
        exact before
  · exact within

/-- A debit takes what it debits from what the agent still owes. -/
theorem within_debit (within : s.Within) {k : ρ} {agentId : String} {estimated : ℤ}
    (owes : s.owed.get? k = some (agentId, estimated)) {input output : ℤ}
    (order : s.clock ≤ t.clock) (bounded : input + output ≤ estimated)
    (debited : s.admission.step (.debit agentId input output t.clock) = some t.admission)
    (owed : t.owed = s.owed.erase k) : t.Within := by
  have accountant : t.admission.controller.accountant =
      s.admission.controller.accountant.debit agentId input output t.clock := by
    rw [← Option.some.inj debited]
  refine ⟨AdmissionSystem.sound_step within.sound debited, ?_, ?_⟩
  · intro j x found unadmitted
    rw [owed] at found
    exact within.admitted j x (Dict.get?_of_get?_erase found)
      (AdmissionSystem.unadmitted_of_step (e := .call (.debit agentId input output t.clock))
        within.sound debited unadmitted)
  · intro other now later
    have shrunk := Dict.sum_erase_of_get?_some
      (fun _ x => if x.1 = other then max x.2 (0 : ℤ) else 0) owes
    have before := within.fits other now (order.trans later)
    have after := TokenAccountant.usage_debit s.admission.controller.accountant other agentId input
      output later
    rw [usage, budget, outstanding, accountant, owed, TokenAccountant.budget_debit]
    simp only [outstanding, usage, budget] at before
    split at shrunk
    · rename_i own
      rw [if_pos own] at after
      omega
    · rename_i differ
      rw [if_neg differ] at after
      omega

/-- A request that is not admitted owes nothing. -/
theorem Within.free (within : s.Within) {k : ρ} (unadmitted : s.admission.Unadmitted k) :
    s.owed.get? k = none := by
  by_contra owes
  obtain ⟨x, found⟩ := Option.ne_none_iff_exists'.mp owes
  exact within.admitted k x found unadmitted

/-- A call of `gate` that leaves room. -/
theorem within_gate (within : s.Within) {k : ρ} {session : SessionContext} {tier : Tier}
    {estimated : ℤ} {clock : GateClock}
    (room : s.LeavesRoom (.call (.gate k session tier estimated clock)))
    (order : s.clock ≤ clock.check) (ordered : clock.Ordered) {admission : AdmissionSystem ρ}
    (stepped : s.admission.step (.gate k session tier estimated clock) = some admission) :
    (owe ⟨admission, s.estimates.set k estimated, s.owed, clock.finish⟩ k).Within := by
  obtain ⟨reported, started, finished⟩ := ordered
  have last : clock.report ≤ clock.finish := started.trans finished
  obtain ⟨kept, same⟩ := within_call
    (t := ⟨admission, s.estimates.set k estimated, s.owed, clock.finish⟩) within (by simp) stepped
    (order.trans (reported.trans last)) (by
      intro time member
      simp only [AdmissionSystem.readings, AdmissionController.readings] at member
      split at member
      · obtain rfl := List.mem_singleton.mp member
        exact reported.trans last
      · rcases List.mem_pair.mp member with rfl | rfl
        · exact reported.trans last
        · exact last) rfl
  cases AdmissionSystem.does_of_step stepped with
  | gate fresh gated =>
      refine within_owe kept (within.free fun x found => by cases fresh.symm.trans found) ?_
      intro other given wait amount ticket asked now later
      cases (Dict.get?_set_self _ _ _).symm.trans ticket
      cases (Dict.get?_set_self _ _ _).symm.trans asked
      obtain ⟨usage, budget⟩ := same session.agentId now later
      rw [usage, budget]
      exact room _ _ _ (.atOnce (by rw [gated])) now later

/-- A wake-up in `gate` that leaves room. -/
theorem within_resume (within : s.Within) {k : ρ} {finish : Time}
    (room : s.LeavesRoom (.call (.resume k finish))) (order : s.clock ≤ finish)
    {admission : AdmissionSystem ρ}
    (stepped : s.admission.step (.resume k finish) = some admission) :
    (owe ⟨admission, s.estimates, s.owed, finish⟩ k).Within := by
  obtain ⟨kept, same⟩ := within_call (t := ⟨admission, s.estimates, s.owed, finish⟩) within
    (by simp) stepped order (fun _ member => by cases member) rfl
  cases AdmissionSystem.does_of_step stepped with
  | @resume _ _ session _ _ _ _ _ inside woke =>
      have unadmitted : s.admission.Unadmitted k := by
        intro x found
        cases inside.symm.trans found
        rfl
      refine within_owe kept (within.free unadmitted) ?_
      intro other given wait amount ticket asked now later
      cases (Dict.get?_set_self _ _ _).symm.trans ticket
      obtain ⟨usage, budget⟩ := same session.agentId now later
      rw [usage, budget]
      exact room _ _ _ (.afterWait inside asked woke) now later

/-- A step that looks into no window and lets nobody in. -/
theorem within_quiet (within : s.Within) {e : AdmissionEvent ρ}
    (undebited : ∀ agentId input output now, e ≠ .debit agentId input output now)
    (unread : s.admission.readings (.call e) = [])
    (stepped : (s.admission.step e).map (fun admission => { s with admission }) = some t) :
    t.Within := by
  obtain ⟨admission, fired, rfl⟩ := Option.map_eq_some_iff.mp stepped
  have unread' : ∀ time ∈ s.admission.readings (.call e), time ≤ s.clock := by
    intro time member
    rw [unread] at member
    cases member
  exact (within_call (t := ⟨admission, s.estimates, s.owed, s.clock⟩) within undebited fired le_rfl
    unread' rfl).1

/-- Step lemma: a step that leaves room keeps what the agents can come to within their budgets. -/
theorem within_step {e : SpendingEvent ρ} (within : s.Within) (room : s.LeavesRoom e)
    (stepped : s.step e = some t) : t.Within := by
  cases e with
  | debit k input output now =>
      simp only [step] at stepped
      split at stepped
      · rename_i agentId estimated owes
        split at stepped
        · rename_i allowed
          obtain ⟨admission, debited, rfl⟩ := Option.map_eq_some_iff.mp stepped
          exact within_debit within owes allowed.1 allowed.2 debited rfl
        · cases stepped
      · cases stepped
  | call e =>
      cases e with
      | gate k session tier estimated clock =>
          simp only [step] at stepped
          split at stepped
          · rename_i allowed
            obtain ⟨order, reported, started, finished⟩ := allowed
            obtain ⟨admission, gated, rfl⟩ := Option.map_eq_some_iff.mp stepped
            exact within_gate within room order ⟨reported, started, finished⟩ gated
          · cases stepped
      | resume k finish =>
          simp only [step] at stepped
          split at stepped
          · rename_i order
            obtain ⟨admission, woke, rfl⟩ := Option.map_eq_some_iff.mp stepped
            exact within_resume within room order woke
          · cases stepped
      | debit => cases stepped
      | interrupt k i => exact within_quiet within (by simp) rfl stepped
      | release k => exact within_quiet within (by simp) rfl stepped
      | markStatus backendId status =>
          exact within_quiet (e := .markStatus backendId status) within (by simp) rfl stepped

end Steps

/-! ## Runs -/

section Start

variable (config : AdmissionConfig) (registry : BackendRegistry) (start : Time)

theorem within_new (nonnegative : 0 ≤ config.defaultTokenBudget) :
    (new config registry start : Spending ρ).Within where
  sound := AdmissionSystem.sound_new config _ registry
  admitted := fun _ _ found => by cases found
  fits := fun _ _ _ => nonnegative

/-- **When requests stay within the budget.** With a budget that is not negative, in every run in
which whoever is let in leaves room, no agent uses more than its budget in any state. -/
theorem usage_within_budget (nonnegative : 0 ≤ config.defaultTokenBudget)
    (events : List (SpendingEvent ρ))
    (room : EveryStep step (new config registry start) events LeavesRoom) :
    EveryState step (new config registry start) events WithinBudget := by
  have all : EveryState step (new config registry start) events Within :=
    everyState_of_everyStep (fun _ _ _ within room stepped => within_step within room stepped)
      (within_new config registry start nonnegative) room
  intro first second s split ran agentId now later
  have fits := (all first second s split ran).fits agentId now later
  have owed : 0 ≤ s.outstanding agentId := by
    apply List.sum_nonneg
    intro amount member
    obtain ⟨x, _, rfl⟩ := List.mem_map.mp member
    dsimp only
    split
    · exact le_max_right _ _
    · exact le_rfl
  omega

end Start

/-! ## Two requests at once -/

def byAgent : SessionContext := { sessionId := "s", agentId := "a" }

/-- Two requests of an agent are let in one after the other, and both are debited when they are
done. -/
def twoAtOnce : List (SpendingEvent ℕ) := [
  .call (.gate 0 byAgent .big 60000 ⟨0, 0, 0, 0⟩),
  .call (.gate 1 byAgent .small 60000 ⟨1, 1, 1, 1⟩),
  .call (.release 0), .debit 0 10000 50000 2, .call (.release 1), .debit 1 10000 50000 3]

/-- Two requests at once run over the budget. -/
theorem overlap_overruns :
    ¬ ∀ (config : AdmissionConfig) (registry : BackendRegistry) (start : Time)
      (events : List (SpendingEvent ℕ)), 0 ≤ config.defaultTokenBudget →
      EveryState step (new config registry start) events WithinBudget := by
  intro always
  have used : ((run step (new shippedConfig.admission (.new shippedConfig) 0) twoAtOnce).map
      fun s => (s.usage "a" 3, s.budget "a", decide (s.clock ≤ 3))) =
        some (120000, 100000, true) := by
    decide +kernel
  obtain ⟨s, ran, shown⟩ := Option.map_eq_some_iff.mp used
  obtain ⟨usage, rest⟩ := Prod.mk.inj shown
  obtain ⟨budget, order⟩ := Prod.mk.inj rest
  have kept := always shippedConfig.admission (.new shippedConfig) 0 twoAtOnce (by decide) twoAtOnce
    [] s (List.append_nil _).symm ran "a" 3 (of_decide_eq_true order)
  rw [usage, budget] at kept
  omega

/-- A request with room for its estimate. -/
def oneRequest : List (SpendingEvent ℕ) := [
  .call (.gate 0 byAgent .big 60000 ⟨0, 0, 0, 0⟩), .call (.release 0), .debit 0 10000 50000 2]

/-- The request that leaves room. -/
theorem usage_within_budget_of_one_request :
    EveryState step (new shippedConfig.admission (.new shippedConfig) 0) oneRequest
      WithinBudget := by
  apply usage_within_budget shippedConfig.admission (.new shippedConfig) 0 (by decide) oneRequest
  refine .cons ?_ fun _ _ => .cons ?_ fun _ _ => .cons ?_ fun _ _ => .nil
  · intro time agentId estimated lets now _
    cases lets with
    | atOnce =>
        change (0 : ℤ) + 0 + max 60000 0 ≤ 100000
        decide
  · intro time agentId estimated lets
    cases lets
  · intro time agentId estimated lets
    cases lets

end Spending

end AgentServe
