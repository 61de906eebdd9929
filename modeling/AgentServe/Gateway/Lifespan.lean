import AgentServe.Affinity.Scheduler
import AgentServe.Backends.Probes

/-!
# The singletons of the gateway

At start-up the gateway makes one registry, one affinity scheduler and one health
checker, starts the probe loop, and sets the gauge of every backend to one. Probe
tasks then change statuses in the registry, and turns of sessions read the pools
and write the sticky table.

Nothing connects a status that changes to the sticky table or to the gauge. So the
sessions of a backend that goes down stay bound to it unless there are none, and
the gauge is right as long as every backend stays healthy, which takes successful
probes only and a threshold of one (`outage_reaches_iff`).
-/

set_option autoImplicit false

namespace AgentServe

open Lib

/-- What `lifespan` wires together: the probe loop with the registry, the scheduler, and the
gauge by the labels of a backend. -/
structure Singletons where
  probes : ProbeLoop
  affinity : AffinityScheduler
  backendUp : Dict (String × String) ℤ

/-- What can happen next: a step of the probe loop or of its tasks, or a turn of a session over
the pool of a tier. -/
inductive SingletonEvent where
  | probe (e : ProbeEvent)
  | select (session : SessionContext) (tier : Tier) (now made : Time)

namespace Singletons

/-- The labels of a backend. -/
def labels (b : BackendInfo) : String × String := (b.id, b.tier.value)

/-- The gauge at start-up. -/
def initialGauge (r : BackendRegistry) : Dict (String × String) ℤ :=
  r.allBackends.foldl (fun gauge b => gauge.set (labels b) 1) .empty

/-- The gateway at start-up. -/
def lifespan (config : GatewayConfig) : Singletons where
  probes := .new config
  affinity := .new config.affinity.stickyTtlSeconds
  backendUp := initialGauge (.new config)

def registry (s : Singletons) : BackendRegistry := s.probes.registry

/-- One step. -/
def step (s : Singletons) : SingletonEvent → Option Singletons
  | .probe e => (s.probes.step e).map fun probes => { s with probes }
  | .select session tier now made =>
    let (affinity, _) := s.affinity.selectBackend session tier
      (s.registry.getHealthyBackends tier) now made
    some { s with affinity }

/-- The steps of the probe loop in a run. -/
def probeEvents (events : List SingletonEvent) : List ProbeEvent :=
  events.filterMap fun
    | .probe e => some e
    | .select .. => none

/-! ## What depends on health -/

/-- The task that finishes sets a backend to down. -/
def SetsDown (health : HealthConfig) (past : List ProbeEvent) (s : ProbeLoop) (id : String) :
    ProbeEvent → Prop
  | .finish n j result => j = id ∧ ∃ b, s.tasks.get? (n, id) = some ⟨b, .probing⟩ ∧
      b.status ≠ .down ∧ statusAfter health (ProbeLoop.completed id past ++ [result]) = .down
  | _ => False

/-- No session is bound to a backend. -/
def NonePinned (s : Singletons) (id : String) : Prop :=
  ∀ sid entry, s.affinity.sticky.get? sid = some entry → entry.backendId ≠ id

/-- After a task has set a backend to down, no session is bound to it. -/
def OutageReaches (health : HealthConfig) (past : List SingletonEvent) (s : Singletons) :
    SingletonEvent → Prop
  | .probe e => ∀ id, SetsDown health (probeEvents past) s.probes id e →
    ∀ t, s.step (.probe e) = some t → t.NonePinned id
  | .select .. => True

/-- The gauge is one for the healthy backends, and zero for the others. -/
def GaugeShows (s : Singletons) : Prop :=
  ∀ id b, s.registry.getBackend id = some b →
    s.backendUp.get? (labels b) = some (if b.status = .healthy then 1 else 0)

/-- A task that finishes has a success, and one success is enough to be healthy. -/
def StaysHealthy (health : HealthConfig) : SingletonEvent → Prop
  | .probe (.finish _ _ result) => result = .ok ∧ health.successesToMarkUp ≤ 1
  | _ => True

/-! ## The gauge -/

/-- A gauge in which all labels are set to one. -/
theorem get?_initialGauge {r : BackendRegistry} {id : String} {b : BackendInfo}
    (found : r.getBackend id = some b) : (initialGauge r).get? (labels b) = some 1 := by
  have set_all : ∀ (l : List BackendInfo) (gauge : Dict (String × String) ℤ),
      (b ∈ l ∨ gauge.get? (labels b) = some 1) →
        (l.foldl (fun gauge b => gauge.set (labels b) 1) gauge).get? (labels b) = some 1 := by
    intro l
    induction l with
    | nil =>
        rintro gauge (inside | set)
        · cases inside
        · exact set
    | cons head tail ih =>
        intro gauge inside
        apply ih
        rw [Dict.get?_set]
        by_cases same : labels b = labels head
        · exact .inr (if_pos same)
        · rw [if_neg same]
          rcases inside with here | set
          · rcases List.mem_cons.mp here with rfl | later
            · exact absurd rfl same
            · exact .inl later
          · exact .inr set
  have member : b ∈ r.allBackends := by
    rw [BackendRegistry.mem_allBackends, BackendRegistry.getBackend_id found]
    exact found
  exact set_all _ _ (.inl member)

/-- The parts of the gateway stay wired as they were at start-up: the counters follow the
completions, the backends are the configured ones, and nothing sets the gauge. -/
structure Wired (config : GatewayConfig) (past : List SingletonEvent) (s : Singletons) : Prop where
  tracked : ProbeLoop.Tracked config (probeEvents past) s.probes
  grounded : BackendRegistry.Grounded (.new config) s.registry
  gauge : s.backendUp = initialGauge (.new config)

theorem wired_lifespan (config : GatewayConfig) : Wired config [] (lifespan config) where
  tracked := ProbeLoop.tracked_new config
  grounded := BackendRegistry.grounded_new config
  gauge := rfl

/-- Step lemma: every step leaves the wiring. -/
theorem wired_step {config : GatewayConfig} {past : List SingletonEvent} {s t : Singletons}
    {e : SingletonEvent} (wired : Wired config past s) (stepped : s.step e = some t) :
    Wired config (past ++ [e]) t := by
  cases e with
  | probe e =>
      obtain ⟨probes, fired, rfl⟩ := Option.map_eq_some_iff.mp stepped
      refine ⟨?_, ?_, wired.gauge⟩
      · simpa [probeEvents] using ProbeLoop.tracked_step wired.tracked fired
      · have does := ProbeLoop.does_of_step fired
        cases does with
        | pass => exact wired.grounded
        | start created =>
            simp only [registry, ProbeLoop.registry, HealthChecker.registry_startProbe]
            exact wired.grounded
        | finish probing => exact HealthChecker.grounded_finishProbe wired.grounded _ _
  | select session tier now made =>
      cases stepped
      exact ⟨by simpa [probeEvents] using wired.tracked, wired.grounded, wired.gauge⟩

/-- The gauge is right exactly while every backend is healthy. -/
theorem Wired.gaugeShows_iff {config : GatewayConfig} {past : List SingletonEvent} {s : Singletons}
    (wired : Wired config past s) :
    s.GaugeShows ↔ ∀ id b, s.registry.getBackend id = some b → b.status = .healthy := by
  have one : ∀ id b, s.registry.getBackend id = some b → s.backendUp.get? (labels b) = some 1 := by
    intro id b found
    have initial := get?_initialGauge (wired.grounded id b found)
    rw [wired.gauge]
    exact initial
  constructor
  · intro shows id b found
    have shown := (one id b found).symm.trans (shows id b found)
    by_contra unhealthy
    rw [if_neg unhealthy] at shown
    cases shown
  · intro healthy id b found
    rw [one id b found, if_pos (healthy id b found)]

/-! ## Staying healthy -/

/-- Every backend is healthy, and so is every record a task was created with. If a probe was
completed, then one success is enough to be healthy. -/
structure AllHealthy (config : GatewayConfig) (past : List SingletonEvent) (s : Singletons) :
    Prop where
  wired : Wired config past s
  backends : ∀ id b, s.registry.getBackend id = some b → b.status = .healthy
  records : ∀ n id task, s.probes.tasks.get? (n, id) = some task → task.backend.status = .healthy
  enough : ∀ id, ProbeLoop.completed id (probeEvents past) ≠ [] →
    config.health.successesToMarkUp ≤ 1

theorem allHealthy_lifespan (config : GatewayConfig) : AllHealthy config [] (lifespan config) where
  wired := wired_lifespan config
  backends := fun _ _ found => BackendRegistry.status_new found
  records := by
    intro n id task found
    cases found
  enough := fun _ some_result => absurd rfl some_result

section Step

variable {config : GatewayConfig} {past : List SingletonEvent} {s t : Singletons}
  {e : SingletonEvent}

/-- While every backend is healthy, no task is created with a record of another status. -/
theorem AllHealthy.records_step (healthy : AllHealthy config past s)
    (stepped : s.step e = some t) {m : ℕ} {id : String} {task : ProbeTask}
    (found : t.probes.tasks.get? (m, id) = some task) : task.backend.status = .healthy := by
  cases e with
  | probe e =>
      obtain ⟨probes, fired, rfl⟩ := Option.map_eq_some_iff.mp stepped
      have does := ProbeLoop.does_of_step fired
      cases does with
      | pass =>
          simp only [ProbeLoop.get?_createTasks_allBackends] at found
          split at found
          · split at found
            · rename_i b known
              cases found
              exact healthy.backends id b known
            · exact healthy.records m id task found
          · exact healthy.records m id task found
      | @start n j b created =>
          simp only [Dict.get?_set] at found
          split at found
          · cases found
            exact healthy.records n j ⟨b, .created⟩ created
          · exact healthy.records m id task found
      | @finish n j result b probing =>
          simp only [Dict.get?_set] at found
          split at found
          · cases found
            exact healthy.records n j ⟨b, .probing⟩ probing
          · exact healthy.records m id task found
  | select session tier now made =>
      cases stepped
      exact healthy.records m id task found

/-- The status that a first result leads to, or a later one where one success is enough. -/
theorem statusAfter_concat_eq_healthy_iff {health : HealthConfig}
    {results : List HealthProbeResult} (enough : results ≠ [] → health.successesToMarkUp ≤ 1)
    (result : HealthProbeResult) :
    statusAfter health (results ++ [result]) = .healthy ↔
      result = .ok ∧ health.successesToMarkUp ≤ 1 := by
  rw [statusAfter_eq_healthy_iff]
  simp only [List.concat_ne_nil, false_or, List.append_singleton_inj]
  constructor
  · rintro ⟨front, ⟨rfl, rfl⟩, long⟩
    refine ⟨rfl, ?_⟩
    by_cases first : results = []
    · subst first
      exact long
    · exact enough first
  · rintro ⟨rfl, one⟩
    refine ⟨results, ⟨rfl, rfl⟩, ?_⟩
    rw [streak_concat, if_pos (show isOk .ok = true from rfl)]
    omega

/-- Step lemma: with healthy records, every backend stays healthy exactly if the task that
finishes, if any, has a success and one success is enough. -/
theorem AllHealthy.step_iff (healthy : AllHealthy config past s) (stepped : s.step e = some t) :
    (∀ id b, t.registry.getBackend id = some b → b.status = .healthy) ↔
      StaysHealthy config.health e := by
  cases e with
  | select session tier now made =>
      cases stepped
      exact iff_of_true healthy.backends trivial
  | probe e =>
      obtain ⟨probes, fired, rfl⟩ := Option.map_eq_some_iff.mp stepped
      have does := ProbeLoop.does_of_step fired
      cases does with
      | pass => exact iff_of_true healthy.backends trivial
      | start created =>
          refine iff_of_true ?_ trivial
          simp only [registry, ProbeLoop.registry, HealthChecker.registry_startProbe]
          exact healthy.backends
      | @finish n j result b probing =>
          obtain ⟨rfl, present, known⟩ := healthy.wired.tracked.filed n j _ probing
          have record : b.status = .healthy := healthy.records n b.id ⟨b, .probing⟩ probing
          have given := healthy.wired.tracked.returned_eq b.id result
          have reached := statusAfter_concat_eq_healthy_iff (healthy.enough b.id) result
          rw [← given] at reached
          rw [StaysHealthy, ← reached]
          simp only [registry, ProbeLoop.registry, HealthChecker.getBackend_finishProbe, record]
          constructor
          · intro all
            by_contra unhealthy
            apply unhealthy
            apply all b.id { present with status := s.probes.returned b.id result }
            exact (if_pos ⟨rfl, unhealthy⟩).trans (congrArg _ known)
          · intro returned id c found
            rw [if_neg fun both => both.2 returned] at found
            exact healthy.backends id c found

/-- A step that stays healthy keeps everything healthy. -/
theorem AllHealthy.step (healthy : AllHealthy config past s) (stays : StaysHealthy config.health e)
    (stepped : s.step e = some t) : AllHealthy config (past ++ [e]) t where
  wired := wired_step healthy.wired stepped
  backends := (healthy.step_iff stepped).mpr stays
  records := fun _ _ _ found => healthy.records_step stepped found
  enough := by
    intro id some_result
    cases e with
    | select session tier now made =>
        exact healthy.enough id (by simpa [probeEvents] using some_result)
    | probe e =>
        cases e with
        | pass =>
            exact healthy.enough id (by simpa [probeEvents, ProbeLoop.completed] using some_result)
        | start n j =>
            exact healthy.enough id (by simpa [probeEvents, ProbeLoop.completed] using some_result)
        | finish n j result => exact stays.2

end Step

section Run

variable {config : GatewayConfig} {events : List SingletonEvent} {s : Singletons}

/-- Run lemma: successes that are enough keep every backend healthy. -/
theorem allHealthy_of_stays (stays : ∀ e ∈ events, StaysHealthy config.health e)
    (ran : run step (lifespan config) events = some s) : AllHealthy config events s :=
  past_invariant_of_everyStep (C := fun _ => StaysHealthy config.health)
    (fun _ _ _ _ healthy stays stepped => healthy.step stays stepped) (allHealthy_lifespan config)
    ((everyStep_iff_forall_mem ran).mpr stays) ran

/-- If every backend is healthy throughout a run, all its results were successes that were
enough. -/
theorem stays_of_healthy
    (healthy : EveryState step (lifespan config) events fun s =>
      ∀ id b, s.registry.getBackend id = some b → b.status = .healthy)
    (ran : run step (lifespan config) events = some s) :
    ∀ e ∈ events, StaysHealthy config.health e := by
  induction events using List.reverseRecOn generalizing s with
  | nil => simp
  | append_singleton first e ih =>
      obtain ⟨m, before, stepped⟩ := run_concat_eq_some.mp ran
      have earlier := ih healthy.prefix before
      have last : StaysHealthy config.health e :=
        ((allHealthy_of_stays earlier before).step_iff stepped).mp
          (healthy (first ++ [e]) [] s (by simp) ran)
      intro e' member
      rcases List.mem_append.mp member with inside | here
      · exact earlier e' inside
      · exact List.mem_singleton.mp here ▸ last

theorem wired_run (ran : run step (lifespan config) events = some s) : Wired config events s :=
  past_invariant (fun _ _ _ _ wired stepped => wired_step wired stepped)
    (wired_lifespan config) ran

end Run

/-! ## Outages -/

/-- When a task sets a backend to down, no session is bound to it. -/
def UnboundOutage (health : HealthConfig) (past : List SingletonEvent) (s : Singletons) :
    SingletonEvent → Prop
  | .probe e => ∀ id, SetsDown health (probeEvents past) s.probes id e → s.NonePinned id
  | .select .. => True

/-- A step of the probe loop leaves the sticky table. -/
theorem outageReaches_iff_unbound {health : HealthConfig} {past : List SingletonEvent}
    {s t : Singletons} {e : SingletonEvent} (stepped : s.step e = some t) :
    OutageReaches health past s e ↔ UnboundOutage health past s e := by
  cases e with
  | select session tier now made => exact Iff.rfl
  | probe e =>
      have ⟨probes, _, same⟩ := Option.map_eq_some_iff.mp stepped
      have table : t.affinity = s.affinity := by rw [← same]
      constructor
      · intro reaches id down
        have after := reaches id down t stepped
        rwa [NonePinned, table] at after
      · intro unbound id down t' stepped'
        obtain rfl : t = t' := Option.some.inj (stepped.symm.trans stepped')
        rw [NonePinned, table]
        exact unbound id down

/-- A task that finishes with a success sets no backend to down. -/
theorem not_setsDown_of_stays {health : HealthConfig} {past : List ProbeEvent} {s : ProbeLoop}
    {id : String} {e : ProbeEvent} (stays : StaysHealthy health (.probe e)) :
    ¬ SetsDown health past s id e := by
  cases e with
  | pass => exact not_false
  | start n j => exact not_false
  | finish n j result =>
      rintro ⟨_, b, _, _, down⟩
      simp only [statusAfter, List.getLast?_concat, stays.1, if_true] at down
      split at down <;> cases down

/-- **When an outage reaches everything.** In a run of probes and turns, no session is bound to a
backend after it was set to down and the gauge shows throughout which backends are healthy, exactly
if every completed probe is a success and one success is enough to be healthy. The sessions alone
are right exactly if none is bound to a backend when it is set to down. -/
theorem outage_reaches_iff (config : GatewayConfig) (events : List SingletonEvent) (s : Singletons)
    (ran : run step (lifespan config) events = some s) :
    ((EveryStepAfter step (lifespan config) events (OutageReaches config.health) ∧
        EveryState step (lifespan config) events GaugeShows) ↔
      ∀ e ∈ events, StaysHealthy config.health e) ∧
    (EveryStepAfter step (lifespan config) events (OutageReaches config.health) ↔
      EveryStepAfter step (lifespan config) events (UnboundOutage config.health)) := by
  refine ⟨⟨?_, ?_⟩, ?_⟩
  · rintro ⟨_, shows⟩
    apply stays_of_healthy _ ran
    intro first second m split fired
    exact (wired_run fired).gaugeShows_iff.mp (shows first second m split fired)
  · intro stays
    constructor
    · intro first e second m split fired
      have here : StaysHealthy config.health e := stays e (by simp [split])
      cases e with
      | select session tier now made => trivial
      | probe e => exact fun id down => absurd down (not_setsDown_of_stays here)
    · intro first second m split fired
      have earlier : ∀ e ∈ first, StaysHealthy config.health e :=
        fun e member => stays e (by simp [split, member])
      exact (wired_run fired).gaugeShows_iff.mpr (allHealthy_of_stays earlier fired).backends
  · apply everyStepAfter_iff (I := fun _ _ => True) _ _ trivial ran
    · intros
      trivial
    · intro past m e t _ stepped
      exact outageReaches_iff_unbound stepped

/-! ## A session bound to a backend that goes down -/

/-- A turn of a session, and one failed probe of its backend on each of three passes. -/
def boundOutage : List SingletonEvent := [
  .select { sessionId := "s", agentId := "a" } .big 0 0,
  .probe .pass, .probe (.start 0 "big-0"), .probe (.finish 0 "big-0" .error),
  .probe .pass, .probe (.start 1 "big-0"), .probe (.finish 1 "big-0" .error),
  .probe .pass, .probe (.start 2 "big-0"), .probe (.finish 2 "big-0" .timeout)]

/-- The backend is down, the session is still bound to it, and its gauge is still one. -/
theorem outage_reaches_nothing :
    ¬ ∀ (config : GatewayConfig) (events : List SingletonEvent) (s : Singletons),
      run step (lifespan config) events = some s →
        EveryStepAfter step (lifespan config) events (OutageReaches config.health) ∧
          EveryState step (lifespan config) events GaugeShows := by
  intro always
  have bound : ((run step (lifespan shippedConfig) boundOutage).map fun s =>
      (s.affinity.sticky.get? "s").map StickyEntry.backendId) = some (some "big-0") := by
    decide +kernel
  obtain ⟨s, ran, pinned⟩ := Option.map_eq_some_iff.mp bound
  obtain ⟨entry, found, named⟩ := Option.map_eq_some_iff.mp pinned
  obtain ⟨m, before, last⟩ := run_concat_eq_some.mp
    (show run step (lifespan shippedConfig)
      (boundOutage.take 9 ++ [.probe (.finish 2 "big-0" .timeout)]) = some s from ran)
  have probing : ((run step (lifespan shippedConfig) (boundOutage.take 9)).map fun m =>
      (m.probes.tasks.get? (2, "big-0")).map fun task => (task.backend.status, task.stage)) =
      some (some (.degraded, .probing)) := by
    decide +kernel
  rw [before, Option.map_some, Option.some.injEq] at probing
  obtain ⟨⟨b, stage⟩, task, shown⟩ := Option.map_eq_some_iff.mp probing
  obtain ⟨degraded, rfl⟩ := Prod.mk.inj shown
  have down : SetsDown shippedConfig.health (probeEvents (boundOutage.take 9)) m.probes "big-0"
      (.finish 2 "big-0" .timeout) := by
    refine ⟨rfl, b, task, ?_, by decide +kernel⟩
    rw [degraded]
    decide
  exact (always shippedConfig boundOutage s ran).1 (boundOutage.take 9) _ [] m rfl before "big-0"
    down s last "s" entry found named

/-- The condition in the run of the outage. -/
theorem outage_reaches_iff_for_bound_session :
    ∃ s, run step (lifespan shippedConfig) boundOutage = some s ∧
      ((EveryStepAfter step (lifespan shippedConfig) boundOutage
            (OutageReaches shippedConfig.health) ∧
          EveryState step (lifespan shippedConfig) boundOutage GaugeShows) ↔
        ∀ e ∈ boundOutage, StaysHealthy shippedConfig.health e) ∧
      (EveryStepAfter step (lifespan shippedConfig) boundOutage
          (OutageReaches shippedConfig.health) ↔
        EveryStepAfter step (lifespan shippedConfig) boundOutage
          (UnboundOutage shippedConfig.health)) := by
  obtain ⟨s, ran⟩ : ∃ s, run step (lifespan shippedConfig) boundOutage = some s :=
    Option.isSome_iff_exists.mp (by decide +kernel)
  exact ⟨s, ran, outage_reaches_iff shippedConfig boundOutage s ran⟩

end Singletons

end AgentServe
