import AgentServe.Gateway.Slots
import Mathlib.Algebra.Order.BigOperators.Group.List

/-!
# The capacity of a tier

The slots of a tier are the slots of its backends taken together. A request is
bound to its backend before it is admitted, and admitting it looks at its tier
alone. So the backends of a tier together never have more requests than slots, and
neither does a backend that is alone in its tier (`tier_cap`). One of several
backends can have more (`one_backend_over_its_cap`).

The sessions of requests in flight are distinct here. Then every request gives back
a slot of its own tier, and the slots of the tiers are conserved
(`admission_of_bounded`).
-/

set_option autoImplicit false

namespace AgentServe

open Lib

namespace Gateway

variable {ρ : Type} [DecidableEq ρ]

/-- The admitted, unreleased requests that are forwarded to the backends of a kind. -/
def forwarding (g : Gateway ρ) (p : BackendInfo → Bool) : ℕ :=
  g.admission.tickets.count fun k x =>
    x.caller.isHolding && (g.requests.get? k).any fun r => r.backend.any p

/-- What holds of every reachable state when no two requests in flight are of one session. -/
structure Bounded (config : GatewayConfig) (past : List (GatewayEvent ρ)) (g : Gateway ρ) :
    Prop where
  linked : g.Linked
  tracked : ∀ k, Tracked k past g
  sound : g.admission.Sound
  conserved : g.admission.Conserved (totalInflight (.new config))
  grounded : BackendRegistry.Grounded (.new config) g.registry
  bound : ∀ k r b, g.requests.get? k = some r → r.backend = some b →
    (BackendRegistry.new config).getBackend b.id = some b

/-- A request gives back the slot of its own tier. -/
theorem admission_of_bounded {config : GatewayConfig} {g h : Gateway ρ} {e : GatewayEvent ρ} {past}
    (tracked : ∀ k, Tracked k past g) (sound : g.admission.Sound)
    (conserved : g.admission.Conserved (totalInflight (.new config))) (does : g.Does e h) :
    h.admission.Sound ∧ h.admission.Conserved (totalInflight (.new config)) := by
  have moves : ∀ {a t}, g.admission.step a = some t → g.admission.ReleasesOwn a →
      t.Sound ∧ t.Conserved (totalInflight (.new config)) := fun stepped own =>
    ⟨AdmissionSystem.sound_step sound stepped,
      (AdmissionSystem.conserved_step_iff sound conserved stepped).mpr own⟩
  cases does with
  | refused => exact ⟨sound, conserved⟩
  | arrived _ _ gated => exact moves gated trivial
  | interrupted _ _ _ interrupted => exact moves interrupted trivial
  | resumed _ _ _ _ resumed => exact moves resumed trivial
  | moved => exact ⟨sound, conserved⟩
  | ended found ends _ released =>
      apply moves released
      apply (tracked _).recorded
      intro r at_k
      cases found.symm.trans at_k
      exact ends.running
  | status marked => exact moves marked trivial

/-- Step lemma: the bounds hold on while sessions are distinct. -/
theorem bounded_step {config : GatewayConfig} {past} {g h : Gateway ρ} {e : GatewayEvent ρ}
    (bounded : Bounded config past g) (alone : ∀ k, g.Alone k e) (stepped : g.step e = some h) :
    Bounded config (past ++ [e]) h := by
  have does : g.Does e h := does_of_step stepped
  obtain ⟨sound, conserved⟩ :=
    admission_of_bounded bounded.tracked bounded.sound bounded.conserved does
  refine ⟨linked_of_does bounded.linked does,
    fun k => tracked_step (bounded.tracked k) (alone k) stepped, sound, conserved,
    grounded_of_does bounded.grounded does, ?_⟩
  intro k r b found bound
  rcases origin_of_does does found with ⟨q, before, _, same⟩ | ⟨_, _, _, _, _, _, _, healthy⟩
  · exact bounded.bound k q b before (same.symm.trans bound)
  · obtain ⟨at_id, _, up⟩ := BackendRegistry.mem_getHealthyBackends.mp (healthy b bound)
    rw [bounded.grounded b.id b at_id, ← up]

theorem bounded_new (config : GatewayConfig) : Bounded config [] (new config : Gateway ρ) where
  linked := by
    intro k x ticket
    cases ticket
  tracked := tracked_new config
  sound := AdmissionSystem.sound_new ..
  conserved := AdmissionSystem.conserved_new _ _ _
  grounded := BackendRegistry.grounded_new config
  bound := by
    intro k r b found
    cases found

/-! ## The bounds -/

section Bounds

variable {config : GatewayConfig} {past : List (GatewayEvent ρ)} {g : Gateway ρ}

/-- An admitted request on a tier has one of the tier's backends, as they were at the start. -/
theorem Bounded.backend_of_ticket (bounded : Bounded config past g) {k : ρ} {x : Ticket}
    (ticket : g.admission.tickets.get? k = some x) {p : BackendInfo → Bool}
    (passes : ((g.requests.get? k).any fun r => r.backend.any p) = true) :
    ∃ b, p b = true ∧ b.tier = x.tier ∧
      (BackendRegistry.new config).getBackend b.id = some b := by
  obtain ⟨r, b, found, _, bound, on_tier⟩ := bounded.linked k x ticket
  refine ⟨b, ?_, on_tier, bounded.bound k r b found bound⟩
  simpa [found, bound] using passes

theorem Bounded.forwarding_le_admitted (bounded : Bounded config past g) (t : Tier) :
    g.forwarding (fun b => b.tier = t) ≤ g.admission.admitted t := by
  apply Dict.count_le_of_get?
  intro k x ticket counted
  obtain ⟨holds, passes⟩ := Bool.and_eq_true_iff.mp counted
  obtain ⟨b, at_t, on_tier, _⟩ := bounded.backend_of_ticket ticket passes
  have tier : x.tier = t := on_tier.symm.trans (by simpa using at_t)
  rw [Ticket.on, if_pos tier]
  exact holds

/-- The backends of a tier together are within their slots. -/
theorem Bounded.forwarding_le (bounded : Bounded config past g)
    (positive : ∀ b ∈ config.backends, 0 < b.maxInflight) (t : Tier) :
    (g.forwarding (fun b => b.tier = t) : ℤ) ≤
      (((BackendRegistry.new config).getHealthyBackends t).map BackendInfo.maxInflight).sum := by
  have nonneg : ∀ n ∈ ((BackendRegistry.new config).getHealthyBackends t).map
      BackendInfo.maxInflight, 0 < n := by
    intro n member
    obtain ⟨b, inside, rfl⟩ := List.mem_map.mp member
    exact BackendRegistry.forall_new (P := fun b => 0 < b.maxInflight) positive
      (BackendRegistry.mem_getHealthyBackends.mp inside).1
  rcases Nat.eq_zero_or_pos (g.forwarding fun b => b.tier = t) with nobody | somebody
  · rw [nobody]
    exact List.sum_nonneg fun n member => (nonneg n member).le
  · -- Somebody is admitted on the tier, so the tier has a queue and at least one slot.
    obtain ⟨k, x, ticket, counted⟩ := Dict.exists_of_count_pos somebody
    obtain ⟨holds, passes⟩ := Bool.and_eq_true_iff.mp counted
    obtain ⟨b, at_t, on_tier, at_id⟩ := bounded.backend_of_ticket ticket passes
    have tier : b.tier = t := by simpa using at_t
    have member : b ∈ (BackendRegistry.new config).getHealthyBackends t :=
      BackendRegistry.mem_getHealthyBackends.mpr ⟨at_id, tier, BackendRegistry.status_new at_id⟩
    obtain ⟨q, found⟩ := bounded.sound.served k x ticket holds
    have slots := bounded.conserved x.tier q found
    rw [← on_tier, tier] at slots
    have below := bounded.forwarding_le_admitted t
    have one : 1 ≤ (((BackendRegistry.new config).getHealthyBackends t).map
        BackendInfo.maxInflight).sum :=
      (nonneg _ (List.mem_map_of_mem member)).trans_le
        (List.single_le_sum (fun n inside => (nonneg n inside).le) _ (List.mem_map_of_mem member))
    rw [totalInflight, max_eq_left one] at slots
    omega

/-- The requests of one backend are among those of its tier. -/
theorem Bounded.forwarding_one_le (bounded : Bounded config past g) {b : BackendInfo}
    (known : (BackendRegistry.new config).getBackend b.id = some b) :
    g.forwarding (fun c => c.id = b.id) ≤ g.forwarding (fun c => c.tier = b.tier) := by
  apply Dict.count_le_of_get?
  intro k x ticket counted
  obtain ⟨holds, passes⟩ := Bool.and_eq_true_iff.mp counted
  obtain ⟨r, c, found, _, bound, _⟩ := bounded.linked k x ticket
  have at_id : c.id = b.id := by simpa [found, bound] using passes
  have same : some b = some c := known.symm.trans (at_id ▸ bounded.bound k r c found bound)
  simp [holds, found, bound, Option.some.inj same]

end Bounds

/-- **The cap of a tier.** While requests in flight have distinct sessions, the admitted requests
that are forwarded to the backends of a tier are together no more than the slots of these
backends. A backend that is alone in its tier never has more requests than slots. -/
theorem tier_cap (config : GatewayConfig) (positive : ∀ b ∈ config.backends, 0 < b.maxInflight)
    (events : List (GatewayEvent ρ)) (g : Gateway ρ)
    (ran : run step (new config) events = some g)
    (distinct : EveryStep step (new config) events fun g e => ∀ k, g.Alone k e) :
    (∀ t, (g.forwarding (fun b => b.tier = t) : ℤ) ≤
        (((BackendRegistry.new config).getHealthyBackends t).map BackendInfo.maxInflight).sum) ∧
      ∀ b, (BackendRegistry.new config).getHealthyBackends b.tier = [b] →
        (g.forwarding (fun c => c.id = b.id) : ℤ) ≤ b.maxInflight := by
  have bounded : Bounded config events g :=
    past_invariant_of_everyStep (fun _ _ _ _ bounded alone stepped =>
      bounded_step bounded alone stepped) (bounded_new config) distinct ran
  refine ⟨bounded.forwarding_le positive, ?_⟩
  intro b lone
  have known := (BackendRegistry.mem_getHealthyBackends (r := .new config)).mp
    (lone ▸ List.mem_singleton_self b)
  have tier := bounded.forwarding_le positive b.tier
  have one := bounded.forwarding_one_le known.1
  rw [lone, List.map_singleton, List.sum_singleton] at tier
  omega

/-! ## One of several backends -/

/-- Requests that arrive with different sessions are alone in their sessions. -/
theorem alone_of_sessions {config : GatewayConfig} {events : List (GatewayEvent ρ)}
    (name : ρ → String) (distinct : ∀ j k, name j = name k → j = k)
    (named : ∀ k input decision now made clock,
      .arrive k input decision now made clock ∈ events → (buildSession input).sessionId = name k) :
    EveryStep step (new config) events fun g e => ∀ k, g.Alone k e := by
  intro first e second g split before k r found _ j sid acts differ same
  have known : ∀ k r, g.requests.get? k = some r → r.session.sessionId = name k := by
    refine invariant_of_everyStep
      (P := fun g : Gateway ρ => ∀ k r, g.requests.get? k = some r → r.session.sessionId = name k)
      (C := fun _ e => e ∈ events) ?_
      (fun _ _ found => by cases found) ?_ before
    · intro g e h known member stepped k r found
      rcases origin_of_does (does_of_step stepped) found with
        ⟨q, at_k, session, _⟩ | ⟨input, decision, now, made, clock, rfl, session, _⟩
      · rw [session]
        exact known k q at_k
      · rw [session]
        exact named k input decision now made clock member
    · intro front e' back _ cut _
      simp [split, cut]
  apply differ
  apply distinct j k
  rw [← known k r found, ← same]
  rcases actor_cases acts with ⟨input, decision, now, made, clock, rfl, own⟩ | ⟨q, at_j, own⟩
  · rw [own, named j input decision now made clock (by simp [split])]
  · rw [own, known j q at_j]

/-- Two backends of one tier, with one slot each. -/
def twoSmall : GatewayConfig where
  backends := [
    { id := "small-0", tier := .small, baseUrl := "http://vllm-small-0:8002", gpu := 0,
      maxInflight := 1 },
    { id := "small-1", tier := .small, baseUrl := "http://vllm-small-1:8003", gpu := 0,
      maxInflight := 1 }]

def sessionOf (second : Bool) : String := if second then "b" else "a"

/-- The first turns of two sessions that hash to the same backend. -/
def twoSessions : List (GatewayEvent Bool) := [
  .arrive false (hello (sessionOf false) false) (greeted .small "small-0") 0 0
    AdmissionSystem.atStart,
  .arrive true (hello (sessionOf true) false) (greeted .small "small-0") 0 0
    AdmissionSystem.atStart]

theorem twoSessions_alone :
    EveryStep step (new twoSmall) twoSessions fun g e => ∀ k, g.Alone k e := by
  apply alone_of_sessions sessionOf (by decide)
  intro k input decision now made clock member
  simp only [twoSessions, List.mem_cons, List.not_mem_nil, or_false] at member
  rcases member with arrival | arrival
  · cases arrival
    rfl
  · cases arrival
    rfl

/-- Two sessions are forwarded to the same backend at once, which has one slot. -/
theorem one_backend_over_its_cap :
    ¬ ∀ (config : GatewayConfig), (∀ b ∈ config.backends, 0 < b.maxInflight) →
      ∀ (events : List (GatewayEvent Bool)) (g : Gateway Bool),
        run step (new config) events = some g →
        (EveryStep step (new config) events fun g e => ∀ k, g.Alone k e) →
        (∀ id status, .markStatus id status ∉ events) →
        ∀ b ∈ config.backends, (g.forwarding (fun c => c.id = b.id) : ℤ) ≤ b.maxInflight := by
  intro always
  have two : ((run step (new twoSmall) twoSessions).map fun g =>
      g.forwarding fun c => c.id = "small-1") = some 2 := by
    decide +kernel
  obtain ⟨g, ran, count⟩ := Option.map_eq_some_iff.mp two
  have within := always twoSmall (by simp [twoSmall]) twoSessions g ran twoSessions_alone
    (by simp [twoSessions]) _ (List.mem_cons_of_mem _ List.mem_cons_self)
  rw [count] at within
  exact absurd within (by decide)

/-- The two sessions together are within the slots of the tier. -/
theorem tier_cap_for_two_sessions :
    ∃ g : Gateway Bool, run step (new twoSmall) twoSessions = some g ∧
      (g.forwarding fun b => b.tier = .small : ℤ) ≤
        (((BackendRegistry.new twoSmall).getHealthyBackends .small).map
          BackendInfo.maxInflight).sum := by
  obtain ⟨g, ran⟩ : ∃ g, run step (new twoSmall) twoSessions = some g :=
    Option.isSome_iff_exists.mp (by decide +kernel)
  exact ⟨g, ran, (tier_cap twoSmall (by simp [twoSmall]) twoSessions g ran
    twoSessions_alone).1 .small⟩

end Gateway

end AgentServe
