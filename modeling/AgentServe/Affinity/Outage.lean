import AgentServe.Affinity.Scheduler
import AgentServe.Lib.Run

/-!
# A backend that goes down

Turns take their candidates from the pool of their tier. So every binding of the table is
to a backend of the tier it was made on (`typed_final`), and a migration by backend and
tier finds all bindings to the backend: none is left, each is moved or evicted, and no
other one changes (`backend_down_reassigns`).

A migration is not needed for the next turn to find a healthy backend. A session whose
backend has left the pool is bound again on its next turn, to the backend the migration
would have moved it to (`eager_is_lazy`).
-/

set_option autoImplicit false

namespace AgentServe

open Lib

/-- The registry and the scheduler that looks at it. -/
structure Fleet where
  registry : BackendRegistry
  affinity : AffinityScheduler

inductive FleetEvent where
  | turn (session : SessionContext) (tier : Tier) (now made : Time)
  | invalidate (sessionId : String)
  | backendDown (backendId : String) (tier : Tier)
  | markStatus (backendId : String) (status : BackendStatus)

namespace Fleet

def new (config : GatewayConfig) (ttl : ℤ) : Fleet := ⟨.new config, .new ttl⟩

/-- The turn of a session, with the pool of its tier as candidates. -/
def turn (f : Fleet) (session : SessionContext) (tier : Tier) (now made : Time) :
    AffinityScheduler × Except GatewayException (BackendInfo × Bool) :=
  f.affinity.selectBackend session tier (f.registry.getHealthyBackends tier) now made

/-- One event, with the answer to a turn. -/
def step (f : Fleet) : FleetEvent → Fleet × Option (Except GatewayException (BackendInfo × Bool))
  | .turn session tier now made =>
    let (affinity, answer) := f.turn session tier now made
    ({ f with affinity }, some answer)
  | .invalidate sessionId => ({ f with affinity := f.affinity.invalidate sessionId }, none)
  | .backendDown backendId tier =>
    ({ f with affinity := (f.affinity.onBackendDown f.registry backendId tier).1 }, none)
  | .markStatus backendId status =>
    ({ f with registry := f.registry.markStatus backendId status }, none)

/-! ## Bindings and tiers -/

/-- Every binding is to a backend of the tier it was made on. -/
def Typed (f : Fleet) : Prop :=
  ∀ sid entry, f.affinity.sticky.get? sid = some entry →
    ∃ b, f.registry.getBackend entry.backendId = some b ∧ b.tier = entry.tier

theorem typed_new (config : GatewayConfig) (ttl : ℤ) : (new config ttl).Typed := by
  intro sid entry found
  cases found

/-- Step lemma: bindings are made and moved within a tier. -/
theorem typed_step {f : Fleet} (typed : f.Typed) (e : FleetEvent) : (f.step e).1.Typed := by
  have pooled : ∀ {tier : Tier} {b : BackendInfo}, b ∈ f.registry.getHealthyBackends tier →
      ∃ c, f.registry.getBackend b.id = some c ∧ c.tier = tier := fun member =>
    have listed := BackendRegistry.mem_getHealthyBackends.mp member
    ⟨_, listed.1, listed.2.1⟩
  intro sid entry found
  cases e with
  | turn session tier now made =>
      simp only [step, turn] at found ⊢
      rcases AffinityScheduler.selectBackend_cases f.affinity session tier
        (f.registry.getHealthyBackends tier) now made with
        ⟨_, outcome⟩ | ⟨b, _, outcome⟩ | ⟨b, _, chosen, outcome⟩
      · rw [outcome] at found
        exact typed sid entry found
      · rw [outcome, AffinityScheduler.get?_slide] at found
        split at found
        · obtain ⟨old, at_sid, rfl⟩ := Option.map_eq_some_iff.mp found
          exact typed sid old at_sid
        · exact typed sid entry found
      · rw [outcome, AffinityScheduler.get?_bind] at found
        split at found
        · cases found
          exact pooled (mem_of_selectByHrw chosen)
        · exact typed sid entry found
  | invalidate sessionId =>
      simp only [step, AffinityScheduler.get?_invalidate] at found
      split at found
      · cases found
      · exact typed sid entry found
  | backendDown backendId tier =>
      simp only [step, AffinityScheduler.get?_onBackendDown] at found ⊢
      obtain ⟨old, at_sid, moves⟩ := Option.bind_eq_some_iff.mp found
      split at moves
      · rename_i hit
        obtain ⟨b, chosen, rfl⟩ := Option.map_eq_some_iff.mp moves
        have own : old.tier = tier := (AffinityScheduler.isAffected_iff.mp hit).2
        have survivor := List.mem_filter.mp (mem_of_selectByHrw chosen)
        exact own ▸ pooled survivor.1
      · cases moves
        exact typed sid entry at_sid
  | markStatus backendId status =>
      obtain ⟨b, listed, tier⟩ := typed sid entry found
      simp only [step, BackendRegistry.getBackend_markStatus]
      split
      · exact ⟨{ b with status }, by rw [listed]; rfl, tier⟩
      · exact ⟨b, listed, tier⟩

/-- Run lemma: in every reachable table bindings are typed. -/
theorem typed_final (config : GatewayConfig) (ttl : ℤ) (events : List FleetEvent) :
    (final step (new config ttl) events).Typed :=
  history_invariant (P := fun _ (f : Fleet) => f.Typed) (fun _ _ e typed => typed_step typed e)
    (typed_new config ttl) events

/-! ## Migrations -/

/-- What a migration away from a backend does to the bindings: none to the backend is left, each
of them is moved to the survivor of highest weight, with its expiry, or evicted when there is no
survivor, and no other binding changes. -/
structure Reassigned (s t : AffinityScheduler) (backendId : String)
    (survivors : List BackendInfo) : Prop where
  vacated : ∀ sid entry, t.sticky.get? sid = some entry → entry.backendId ≠ backendId
  moved : ∀ sid entry winner, s.sticky.get? sid = some entry → entry.backendId = backendId →
    selectByHrw sid survivors = some winner →
    t.sticky.get? sid = some { entry with backendId := winner.id }
  evicted : survivors = [] → ∀ sid entry, s.sticky.get? sid = some entry →
    entry.backendId = backendId → t.sticky.get? sid = none
  kept : ∀ sid, (∀ entry, s.sticky.get? sid = some entry → entry.backendId ≠ backendId) →
    t.sticky.get? sid = s.sticky.get? sid

/-- In a typed table the bindings to a backend are those a migration on its tier looks for. -/
theorem Typed.isAffected_iff {f : Fleet} (typed : f.Typed) {b : BackendInfo}
    (listed : f.registry.getBackend b.id = some b) {sid : String} {entry : StickyEntry}
    (found : f.affinity.sticky.get? sid = some entry) :
    AffinityScheduler.isAffected b.id b.tier entry = true ↔ entry.backendId = b.id := by
  rw [AffinityScheduler.isAffected_iff]
  refine and_iff_left_of_imp fun named => ?_
  obtain ⟨c, at_entry, tier⟩ := typed sid entry found
  rw [named, listed] at at_entry
  cases at_entry
  exact tier.symm

theorem reassigned_of_typed {f : Fleet} (typed : f.Typed) {b : BackendInfo}
    (listed : f.registry.getBackend b.id = some b) :
    Reassigned f.affinity (f.affinity.onBackendDown f.registry b.id b.tier).1 b.id
      (AffinityScheduler.survivors f.registry b.id b.tier) := by
  have moves : ∀ {sid entry}, f.affinity.sticky.get? sid = some entry →
      entry.backendId = b.id →
      (f.affinity.onBackendDown f.registry b.id b.tier).1.sticky.get? sid =
        AffinityScheduler.migrated (AffinityScheduler.survivors f.registry b.id b.tier) sid
          entry := by
    intro sid entry found named
    rw [AffinityScheduler.get?_onBackendDown, found, Option.bind_some,
      if_pos ((typed.isAffected_iff listed found).mpr named)]
  refine ⟨?_, ?_, ?_, ?_⟩
  · intro sid entry found
    rw [AffinityScheduler.get?_onBackendDown] at found
    obtain ⟨old, at_sid, after⟩ := Option.bind_eq_some_iff.mp found
    split at after
    · obtain ⟨winner, chosen, rfl⟩ := Option.map_eq_some_iff.mp after
      have survivor := List.mem_filter.mp (mem_of_selectByHrw chosen)
      simpa using survivor.2
    · rename_i spared
      cases after
      exact fun named => spared ((typed.isAffected_iff listed at_sid).mpr named)
  · intro sid entry winner found named chosen
    rw [moves found named, AffinityScheduler.migrated, chosen]
    rfl
  · intro nobody sid entry found named
    rw [moves found named, AffinityScheduler.migrated, nobody]
    rfl
  · intro sid elsewhere
    rw [AffinityScheduler.get?_onBackendDown]
    cases found : f.affinity.sticky.get? sid with
    | none => rfl
    | some entry =>
        have spared := (typed.isAffected_iff listed found).not.mpr (elsewhere entry found)
        rw [Option.bind_some, if_neg spared]

/-- A migration that finds no binding changes nothing. -/
theorem onBackendDown_of_vacated {s : AffinityScheduler} {backendId : String}
    (vacated : ∀ sid entry, s.sticky.get? sid = some entry → entry.backendId ≠ backendId)
    (registry : BackendRegistry) (tier : Tier) :
    (s.onBackendDown registry backendId tier).1 = s := by
  have nobody : s.affected backendId tier = [] := by
    apply List.eq_nil_iff_forall_not_mem.mpr
    intro sid member
    obtain ⟨entry, found, hit⟩ := AffinityScheduler.mem_affected_iff.mp member
    exact vacated sid entry found (AffinityScheduler.isAffected_iff.mp hit).1
  simp only [AffinityScheduler.onBackendDown, nobody, List.foldl_nil, List.length_nil, add_zero,
    ite_self]

/-- **Exactly the affected sessions move.** In every reachable table, taking a backend out by its
own tier reassigns its bindings to the healthy backends of the tier other than it, and taking it
out a second time changes nothing. -/
theorem backend_down_reassigns (config : GatewayConfig) (ttl : ℤ) (events : List FleetEvent)
    (f : Fleet) (reached : final step (new config ttl) events = f) (b : BackendInfo)
    (listed : f.registry.getBackend b.id = some b) (s : AffinityScheduler)
    (down : (f.affinity.onBackendDown f.registry b.id b.tier).1 = s) :
    Reassigned f.affinity s b.id ((f.registry.getHealthyBackends b.tier).filter (·.id ≠ b.id)) ∧
      (s.onBackendDown f.registry b.id b.tier).1.sticky = s.sticky ∧
      (s.onBackendDown f.registry b.id b.tier).1.broken = s.broken := by
  subst reached
  subst down
  have reassigned := reassigned_of_typed (typed_final config ttl events) listed
  have again := onBackendDown_of_vacated reassigned.vacated
    (final step (new config ttl) events).registry b.tier
  exact ⟨reassigned, congrArg _ again, congrArg _ again⟩

/-! ## The next turn -/

/-- The backend a turn answers with. -/
def backendOf (answer : Except GatewayException (BackendInfo × Bool)) :
    Except GatewayException BackendInfo :=
  answer.map Prod.fst

/-- A turn answers with the backend its session is bound to, or else with the one of highest
weight. -/
theorem backendOf_selectBackend (s : AffinityScheduler) (session : SessionContext) (tier : Tier)
    (candidates : List BackendInfo) (now made : Time) :
    backendOf (s.selectBackend session tier candidates now made).2 =
      match (s.pinned session.sessionId candidates now).or
        (selectByHrw session.sessionId candidates) with
      | some b => .ok b
      | none => .error (.backendUnavailable tier) := by
  rcases AffinityScheduler.selectBackend_cases s session tier candidates now made with
    ⟨rfl, outcome⟩ | ⟨b, found, outcome⟩ | ⟨b, missing, chosen, outcome⟩
  · have unbound : s.pinned session.sessionId [] now = none := by
      apply Option.eq_none_iff_forall_ne_some.mpr
      intro b found
      cases AffinityScheduler.pinned_mem found
    rw [outcome, unbound]
    rfl
  · rw [outcome, found]
    rfl
  · rw [outcome, missing, chosen]
    rfl

/-- The binding of a session is the same in two tables, or in the first it is to a backend that
left the pool of the tier, and in the second it was moved over the pool. -/
def Rebound (pool : List BackendInfo) (tier : Tier) (sid : String) (s t : AffinityScheduler) :
    Prop :=
  t.sticky.get? sid = s.sticky.get? sid ∨
    ∃ entry, s.sticky.get? sid = some entry ∧ entry.tier = tier ∧
      (∀ c ∈ pool, c.id ≠ entry.backendId) ∧
      t.sticky.get? sid = AffinityScheduler.migrated pool sid entry

/-- Whether a binding was moved or is only out of the pool, the next turn finds the same
backend. -/
theorem Rebound.choice {pool : List BackendInfo} {tier : Tier} {sid : String}
    {s t : AffinityScheduler} (rebound : Rebound pool tier sid s t)
    (distinct : (pool.map BackendInfo.id).Nodup) (now : Time) :
    (t.pinned sid pool now).or (selectByHrw sid pool) =
      (s.pinned sid pool now).or (selectByHrw sid pool) := by
  rcases rebound with same | ⟨entry, found, _, gone, moved⟩
  · rw [AffinityScheduler.pinned, same, ← AffinityScheduler.pinned]
  · have missing : s.pinned sid pool now = none := by
      apply Option.eq_none_iff_forall_ne_some.mpr
      intro b hit
      obtain ⟨old, at_sid, _, search⟩ := AffinityScheduler.pinned_eq_some_iff.mp hit
      cases found.symm.trans at_sid
      exact gone b (List.mem_of_find?_eq_some search) (by simpa using List.find?_some search)
    rw [missing, Option.none_or]
    cases pinned : t.pinned sid pool now with
    | none => rfl
    | some b =>
        obtain ⟨new, at_sid, _, search⟩ := AffinityScheduler.pinned_eq_some_iff.mp pinned
        obtain ⟨winner, chosen, rfl⟩ := Option.map_eq_some_iff.mp (moved.symm.trans at_sid)
        have named : b.id = winner.id := by simpa using List.find?_some search
        rw [Option.some_or, chosen,
          List.inj_on_of_nodup_map distinct (List.mem_of_find?_eq_some search)
            (mem_of_selectByHrw chosen) named]

/-- A backend that is not healthy has left the pools. -/
def OutOfPool (registry : BackendRegistry) (backendId : String) : Prop :=
  ∀ b, registry.getBackend backendId = some b → b.status ≠ .healthy

theorem OutOfPool.ne_of_mem {registry : BackendRegistry} {backendId : String}
    (out : OutOfPool registry backendId) {tier : Tier} {c : BackendInfo}
    (member : c ∈ registry.getHealthyBackends tier) : c.id ≠ backendId := by
  rintro rfl
  obtain ⟨listed, _, healthy⟩ := BackendRegistry.mem_getHealthyBackends.mp member
  exact out c listed healthy

/-- The survivors of a backend that has left the pool are the pool. -/
theorem OutOfPool.survivors {registry : BackendRegistry} {backendId : String}
    (out : OutOfPool registry backendId) (tier : Tier) :
    AffinityScheduler.survivors registry backendId tier = registry.getHealthyBackends tier := by
  apply List.filter_eq_self.mpr
  intro c member
  simpa using out.ne_of_mem member

/-- A migration away from a backend out of the pool moves the bindings to it, or leaves them. -/
theorem rebound_onBackendDown {registry : BackendRegistry} {backendId : String}
    (out : OutOfPool registry backendId) (s : AffinityScheduler) (tier : Tier) (sid : String) :
    Rebound (registry.getHealthyBackends tier) tier sid s
      (s.onBackendDown registry backendId tier).1 := by
  unfold Rebound
  rw [AffinityScheduler.get?_onBackendDown, out.survivors]
  cases found : s.sticky.get? sid with
  | none => exact .inl rfl
  | some entry =>
      rw [Option.bind_some]
      split
      · rename_i hit
        obtain ⟨named, own⟩ := AffinityScheduler.isAffected_iff.mp hit
        exact .inr ⟨entry, rfl, own, fun c member => named ▸ out.ne_of_mem member, rfl⟩
      · exact .inl rfl

/-- An event that is no turn of a session, changes no status, and takes out only backends that are
not healthy. -/
def QuietFor (registry : BackendRegistry) (sid : String) : FleetEvent → Prop
  | .turn session _ _ _ => session.sessionId ≠ sid
  | .invalidate _ => True
  | .backendDown backendId _ => OutOfPool registry backendId
  | .markStatus _ _ => False

/-- A second migration treats a binding that was moved and one that was not alike. -/
theorem Rebound.onBackendDown {registry : BackendRegistry} {tier : Tier} {sid : String}
    {s t : AffinityScheduler} (rebound : Rebound (registry.getHealthyBackends tier) tier sid s t)
    {backendId : String} (out : OutOfPool registry backendId) (other : Tier) :
    Rebound (registry.getHealthyBackends tier) tier sid (s.onBackendDown registry backendId other).1
      (t.onBackendDown registry backendId other).1 := by
  unfold Rebound at rebound ⊢
  rw [AffinityScheduler.get?_onBackendDown, AffinityScheduler.get?_onBackendDown, out.survivors]
  rcases rebound with same | ⟨entry, found, own, gone, moved⟩
  · rw [same]
    exact .inl rfl
  · -- What was moved is bound to the pool now, so the second migration leaves it.
    have still : ((AffinityScheduler.migrated (registry.getHealthyBackends tier) sid entry).bind
        fun entry => if AffinityScheduler.isAffected backendId other entry then
          AffinityScheduler.migrated (registry.getHealthyBackends other) sid entry
        else some entry) =
        AffinityScheduler.migrated (registry.getHealthyBackends tier) sid entry := by
      unfold AffinityScheduler.migrated
      cases chosen : selectByHrw sid (registry.getHealthyBackends tier) with
      | none => rfl
      | some winner =>
          have differ : winner.id ≠ backendId := out.ne_of_mem (mem_of_selectByHrw chosen)
          simp [AffinityScheduler.isAffected, differ]
    rw [found, moved, Option.bind_some, still]
    split
    · rename_i hit
      rw [← (AffinityScheduler.isAffected_iff.mp hit).2, own]
      exact .inl rfl
    · exact .inr ⟨entry, rfl, own, gone, rfl⟩

/-- Step lemma: quiet events keep the tables related. -/
theorem rebound_step {f g : Fleet} {tier : Tier} {sid : String}
    (registry : g.registry = f.registry)
    (rebound : Rebound (f.registry.getHealthyBackends tier) tier sid f.affinity g.affinity)
    {e : FleetEvent} (quiet : QuietFor f.registry sid e) :
    (g.step e).1.registry = (f.step e).1.registry ∧ (f.step e).1.registry = f.registry ∧
      Rebound (f.registry.getHealthyBackends tier) tier sid (f.step e).1.affinity
        (g.step e).1.affinity := by
  cases e with
  | turn session other now made =>
      refine ⟨registry, rfl, ?_⟩
      have differ : sid ≠ session.sessionId := fun same => quiet same.symm
      simp only [step, turn, Rebound, AffinityScheduler.get?_selectBackend_of_ne differ]
      exact rebound
  | invalidate sessionId =>
      refine ⟨registry, rfl, ?_⟩
      simp only [step, Rebound, AffinityScheduler.get?_invalidate]
      split
      · exact .inl rfl
      · exact rebound
  | backendDown backendId other =>
      refine ⟨registry, rfl, ?_⟩
      simp only [step, registry]
      exact rebound.onBackendDown quiet other
  | markStatus => exact absurd quiet id

/-- Run lemma: through quiet events the tables stay related. -/
theorem rebound_final {f g : Fleet} {tier : Tier} {sid : String}
    (registry : g.registry = f.registry)
    (rebound : Rebound (f.registry.getHealthyBackends tier) tier sid f.affinity g.affinity)
    {events : List FleetEvent} (quiet : ∀ e ∈ events, QuietFor f.registry sid e) :
    (final step g events).registry = f.registry ∧ (final step f events).registry = f.registry ∧
      Rebound (f.registry.getHealthyBackends tier) tier sid (final step f events).affinity
        (final step g events).affinity := by
  induction events generalizing f g with
  | nil => exact ⟨registry, rfl, rebound⟩
  | cons e rest ih =>
      obtain ⟨same, kept, still⟩ := rebound_step registry rebound (quiet e List.mem_cons_self)
      have later : ∀ e' ∈ rest, QuietFor (f.step e).1.registry sid e' := fun e' member =>
        kept.symm ▸ quiet e' (List.mem_cons_of_mem _ member)
      have after := ih same (kept.symm ▸ still) later
      rwa [kept] at after

/-- **Migrating early or late.** In any state, let a backend of a tier be out of the pool, and let
no status change until the next turn of a session on the tier. Whether the backend's bindings were
migrated at once or not, the turn finds the same backend, or raises the same exception. -/
theorem eager_is_lazy (f : Fleet) (between : List FleetEvent) (b : BackendInfo)
    (listed : f.registry.getBackend b.id = some b) (unhealthy : b.status ≠ .healthy)
    (session : SessionContext)
    (quiet : ∀ e ∈ between, QuietFor f.registry session.sessionId e) (now made made' : Time) :
    backendOf ((final step (f.step (.backendDown b.id b.tier)).1 between).turn session b.tier now
        made').2 =
      backendOf ((final step f between).turn session b.tier now made).2 := by
  have out : OutOfPool f.registry b.id := by
    intro c found
    cases listed.symm.trans found
    exact unhealthy
  obtain ⟨eager, lazy, rebound⟩ :=
    rebound_final (f := f) (g := (f.step (.backendDown b.id b.tier)).1) rfl
      (rebound_onBackendDown out f.affinity b.tier session.sessionId) quiet
  rw [turn, turn, backendOf_selectBackend, backendOf_selectBackend, eager, lazy,
    rebound.choice (f.registry.nodup_getHealthyBackends b.tier)]

/-! ## The shipped backends -/

/-- A session is bound to the winner of the small backends, which then goes down. -/
def downAfterTurn : List FleetEvent := [
  .turn { sessionId := "s", agentId := "a" } .small 0 0, .markStatus "small-0" .down,
  .markStatus "small-1" .degraded]

/-- The shipped backends after the outage. -/
def fleetAfterOutage : Fleet := final step (new shippedConfig 1800) downAfterTurn

/-- A backend of the shipped configuration that is down. -/
theorem listed_after_outage :
    ∃ b, fleetAfterOutage.registry.getBackend "small-0" = some b ∧ b.id = "small-0" ∧
      b.tier = .small ∧ b.status = .down := by
  have shown : (fleetAfterOutage.registry.getBackend "small-0").map (fun b =>
      (b.id, b.tier, b.status)) = some ("small-0", .small, .down) := by
    decide +kernel
  obtain ⟨b, listed, same⟩ := Option.map_eq_some_iff.mp shown
  obtain ⟨named, tier, status⟩ := by simpa using same
  exact ⟨b, listed, named, tier, status⟩

theorem backend_down_reassigns_small :
    ∃ b s, fleetAfterOutage.registry.getBackend b.id = some b ∧
      Reassigned fleetAfterOutage.affinity s b.id
        ((fleetAfterOutage.registry.getHealthyBackends b.tier).filter (·.id ≠ b.id)) := by
  obtain ⟨b, listed, named, _⟩ := listed_after_outage
  rw [← named] at listed
  exact ⟨b, _, listed, (backend_down_reassigns shippedConfig 1800 downAfterTurn _ rfl b listed _
    rfl).1⟩

theorem eager_is_lazy_after_outage :
    ∃ b, fleetAfterOutage.registry.getBackend b.id = some b ∧
      backendOf ((final step (fleetAfterOutage.step (.backendDown b.id b.tier)).1 []).turn
          { sessionId := "s", agentId := "a" } b.tier 1 1).2 =
        backendOf ((final step fleetAfterOutage []).turn
          { sessionId := "s", agentId := "a" } b.tier 1 1).2 := by
  obtain ⟨b, listed, named, _, status⟩ := listed_after_outage
  rw [← named] at listed
  exact ⟨b, listed, eager_is_lazy fleetAfterOutage [] b listed (by rw [status]; decide)
    { sessionId := "s", agentId := "a" } (by simp) 1 1 1⟩

end Fleet

end AgentServe
