import AgentServe.Backends.Hysteresis

/-!
# Overlapping probes

On every pass the probe loop creates one task for each backend, with the record
the backend has then, and it does not wait for the tasks of earlier passes. The
tasks of a backend share its counters. Each compares the status the counters give
with the status in its own record, and writes only if they differ.

The counters do not care about the overlap: they are the streaks of the results
in the order of completion (`tracked_step`). The registry does. A task whose record
is out of date may take a status for unchanged that another task has written over,
and then the registry keeps the other task's status. A run loses no status exactly
when no task that finishes does so (`probes_keep_status_iff`).
-/

set_option autoImplicit false

namespace AgentServe

open Lib

/-- A task that was created, that waits for the answer to its probe, or that is finished. -/
inductive ProbeStage where
  | created
  | probing
  | finished
deriving DecidableEq, Repr

/-- A probe task, with the record of its backend it was created with. -/
structure ProbeTask where
  backend : BackendInfo
  stage : ProbeStage
deriving DecidableEq, Repr

/-- The health checker and its probe tasks. A task is named by the pass of the loop it was
created on and by its backend. -/
structure ProbeLoop where
  checker : HealthChecker
  passes : ℕ
  tasks : Dict (ℕ × String) ProbeTask

/-- What can happen next: a pass of the loop, the first stretch of a task, or the answer to the
probe of a task. -/
inductive ProbeEvent where
  | pass
  | start (n : ℕ) (backendId : String)
  | finish (n : ℕ) (backendId : String) (result : HealthProbeResult)
deriving DecidableEq, Repr

namespace ProbeLoop

/-- The checker at start-up. -/
def new (config : GatewayConfig) : ProbeLoop where
  checker := .new (.new config) config.health
  passes := 0
  tasks := .empty

/-- The registry all tasks write to. -/
def registry (s : ProbeLoop) : BackendRegistry := s.checker.registry

/-- One task for each of the backends. -/
def createTasks (n : ℕ) (backends : List BackendInfo) (tasks : Dict (ℕ × String) ProbeTask) :
    Dict (ℕ × String) ProbeTask :=
  backends.foldl (fun tasks b => tasks.set (n, b.id) ⟨b, .created⟩) tasks

/-- One step. -/
def step (s : ProbeLoop) : ProbeEvent → Option ProbeLoop
  | .pass =>
    some { s with
      passes := s.passes + 1
      tasks := createTasks s.passes s.registry.allBackends s.tasks }
  | .start n id =>
    match s.tasks.get? (n, id) with
    | some ⟨b, .created⟩ =>
      some { s with checker := s.checker.startProbe b, tasks := s.tasks.set (n, id) ⟨b, .probing⟩ }
    | _ => none
  | .finish n id result =>
    match s.tasks.get? (n, id) with
    | some ⟨b, .probing⟩ =>
      some { s with
        checker := s.checker.finishProbe b result
        tasks := s.tasks.set (n, id) ⟨b, .finished⟩ }
    | _ => none

theorem step_start {s : ProbeLoop} {n : ℕ} {id : String} {b : BackendInfo}
    (created : s.tasks.get? (n, id) = some ⟨b, .created⟩) :
    s.step (.start n id) = some { s with
      checker := s.checker.startProbe b
      tasks := s.tasks.set (n, id) ⟨b, .probing⟩ } := by
  simp only [step, created]

theorem step_finish {s : ProbeLoop} {n : ℕ} {id : String} {b : BackendInfo}
    (probing : s.tasks.get? (n, id) = some ⟨b, .probing⟩) (result : HealthProbeResult) :
    s.step (.finish n id result) = some { s with
      checker := s.checker.finishProbe b result
      tasks := s.tasks.set (n, id) ⟨b, .finished⟩ } := by
  simp only [step, probing]

/-- What `record_success` or `record_failure` returns for a result. -/
def returned (s : ProbeLoop) (id : String) (result : HealthProbeResult) : BackendStatus :=
  ((s.checker.stateOf id).record result).2

/-! ## What a step does -/

/-- The cases of `step` in which it fires. -/
inductive Does (s : ProbeLoop) : ProbeEvent → ProbeLoop → Prop where
  | pass : Does s .pass { s with
      passes := s.passes + 1
      tasks := createTasks s.passes s.registry.allBackends s.tasks }
  | start {n : ℕ} {id : String} {b : BackendInfo}
      (created : s.tasks.get? (n, id) = some ⟨b, .created⟩) :
      Does s (.start n id)
        { s with checker := s.checker.startProbe b, tasks := s.tasks.set (n, id) ⟨b, .probing⟩ }
  | finish {n : ℕ} {id : String} {result : HealthProbeResult} {b : BackendInfo}
      (probing : s.tasks.get? (n, id) = some ⟨b, .probing⟩) :
      Does s (.finish n id result) { s with
        checker := s.checker.finishProbe b result
        tasks := s.tasks.set (n, id) ⟨b, .finished⟩ }

theorem does_of_step {s t : ProbeLoop} {e : ProbeEvent} (stepped : s.step e = some t) :
    Does s e t := by
  cases e with
  | pass =>
      cases stepped
      exact .pass
  | start n id =>
      simp only [step] at stepped
      split at stepped
      · rename_i created
        cases stepped
        exact .start created
      · cases stepped
  | finish n id result =>
      simp only [step] at stepped
      split at stepped
      · rename_i probing
        cases stepped
        exact .finish probing
      · cases stepped

/-- The tasks after a pass: those of the pass, for each backend, and the older ones. -/
theorem get?_createTasks (n : ℕ) {backends : List BackendInfo}
    (distinct : (backends.map BackendInfo.id).Nodup) (tasks : Dict (ℕ × String) ProbeTask) (m : ℕ)
    (id : String) :
    (createTasks n backends tasks).get? (m, id) =
      if m = n then
        match backends.find? fun b => b.id = id with
        | some b => some ⟨b, .created⟩
        | none => tasks.get? (m, id)
      else tasks.get? (m, id) := by
  unfold createTasks
  induction backends generalizing tasks with
  | nil => simp
  | cons head tail ih =>
      obtain ⟨fresh, others⟩ := List.nodup_cons.mp distinct
      rw [List.foldl_cons, ih others, Dict.get?_set]
      by_cases now : m = n
      · subst now
        by_cases own : head.id = id
        · have missing : (tail.find? fun b => b.id = id) = none := by
            apply List.find?_eq_none.mpr
            intro b member same
            have named : b.id = head.id := by simpa [own] using same
            exact fresh (List.mem_map.mpr ⟨b, member, named⟩)
          simp [own, missing]
        · have other : id ≠ head.id := fun same => own same.symm
          simp [own, other]
      · simp [now]

/-- The tasks of a backend after a pass over the registry. -/
theorem get?_createTasks_allBackends (r : BackendRegistry) (n : ℕ)
    (tasks : Dict (ℕ × String) ProbeTask) (m : ℕ) (id : String) :
    (createTasks n r.allBackends tasks).get? (m, id) =
      if m = n then
        match r.getBackend id with
        | some b => some ⟨b, .created⟩
        | none => tasks.get? (m, id)
      else tasks.get? (m, id) := by
  rw [get?_createTasks n r.nodup_allBackends, r.find?_allBackends]

/-! ## Counters and completions -/

/-- The results of the completed probes of a backend, in the order of completion. -/
def completed (id : String) (events : List ProbeEvent) : List HealthProbeResult :=
  events.filterMap fun
    | .finish _ j result => if j = id then some result else none
    | _ => none

theorem completed_concat_finish (id : String) (events : List ProbeEvent) (n : ℕ) (j : String)
    (result : HealthProbeResult) :
    completed id (events ++ [.finish n j result]) =
      if j = id then completed id events ++ [result] else completed id events := by
  by_cases own : j = id
  · simp [completed, own]
  · simp [completed, own]

/-- The counters are those the completions lead to, and every task is of a known backend. -/
structure Tracked (config : GatewayConfig) (past : List ProbeEvent) (s : ProbeLoop) : Prop where
  config_eq : s.checker.config = config.health
  counters : ∀ id, s.checker.stateOf id = countersAfter config.health (completed id past)
  filed : ∀ n id task, s.tasks.get? (n, id) = some task →
    task.backend.id = id ∧ ∃ b, s.registry.getBackend id = some b

/-- A status written to the registry makes no backend unknown. -/
theorem known_finishProbe {c : HealthChecker} {id : String}
    (known : ∃ b, c.registry.getBackend id = some b) (backend : BackendInfo)
    (result : HealthProbeResult) :
    ∃ b, (c.finishProbe backend result).registry.getBackend id = some b := by
  obtain ⟨b, found⟩ := known
  rw [HealthChecker.getBackend_finishProbe, found]
  split
  · exact ⟨_, rfl⟩
  · exact ⟨b, rfl⟩

/-- Step lemma: every step keeps the counters on track. -/
theorem tracked_step {config : GatewayConfig} {past : List ProbeEvent} {s t : ProbeLoop}
    {e : ProbeEvent} (tracked : Tracked config past s) (stepped : s.step e = some t) :
    Tracked config (past ++ [e]) t := by
  have does : s.Does e t := does_of_step stepped
  cases does with
  | pass =>
      refine ⟨tracked.config_eq, fun id => ?_, fun m id task found => ?_⟩
      · simpa [completed] using tracked.counters id
      · simp only [get?_createTasks_allBackends] at found
        split at found
        · split at found
          · rename_i b known
            cases found
            exact ⟨BackendRegistry.getBackend_id known, b, known⟩
          · exact tracked.filed m id task found
        · exact tracked.filed m id task found
  | @start n j b created =>
      refine ⟨?_, fun id => ?_, fun m id task found => ?_⟩
      · exact (HealthChecker.config_startProbe ..).trans tracked.config_eq
      · rw [HealthChecker.stateOf_startProbe]
        simpa [completed] using tracked.counters id
      · rw [registry, HealthChecker.registry_startProbe]
        rw [Dict.get?_set] at found
        split at found
        · rename_i same
          cases same
          cases found
          exact tracked.filed n j ⟨b, .created⟩ created
        · exact tracked.filed m id task found
  | @finish n j result b probing =>
      obtain ⟨rfl, _⟩ := tracked.filed n j _ probing
      refine ⟨?_, fun id => ?_, fun m id task found => ?_⟩
      · exact (HealthChecker.config_finishProbe ..).trans tracked.config_eq
      · rw [HealthChecker.stateOf_finishProbe, completed_concat_finish]
        by_cases own : id = b.id
        · rw [if_pos own, if_pos own.symm, tracked.counters, record_countersAfter]
        · rw [if_neg own, if_neg fun same => own same.symm]
          exact tracked.counters id
      · rw [Dict.get?_set] at found
        split at found
        · rename_i same
          cases same
          cases found
          exact ⟨rfl, known_finishProbe (tracked.filed n _ _ probing).2 b result⟩
        · obtain ⟨named, known⟩ := tracked.filed m id task found
          exact ⟨named, known_finishProbe known b result⟩

theorem tracked_new (config : GatewayConfig) : Tracked config [] (new config) where
  config_eq := rfl
  counters := fun _ => rfl
  filed := by
    intro n id task found
    cases found

/-- **A run of overlapping probes is its completions**, as far as the counters go. -/
theorem tracked_run {config : GatewayConfig} {events : List ProbeEvent} {s : ProbeLoop}
    (ran : run step (new config) events = some s) : Tracked config events s :=
  past_invariant (fun _ _ _ _ tracked stepped => tracked_step tracked stepped)
    (tracked_new config) ran

/-- The status returned for a result is the one the completions with it lead to. -/
theorem Tracked.returned_eq {config : GatewayConfig} {past : List ProbeEvent} {s : ProbeLoop}
    (tracked : Tracked config past s) (id : String) (result : HealthProbeResult) :
    s.returned id result = statusAfter config.health (completed id past ++ [result]) := by
  rw [returned, tracked.counters, record_countersAfter]

/-! ## Lost statuses -/

/-- The registry shows the status a task was returned when the task is finished. -/
def Recorded (s : ProbeLoop) : ProbeEvent → Prop
  | .finish n id result => ∀ t, s.step (.finish n id result) = some t →
    t.registry.status? id = some (s.returned id result)
  | _ => True

/-- A task that finishes has a record with the status in the registry, or its result, with those
before it, leads to another status than the one in its record. -/
def UpToDate (health : HealthConfig) (past : List ProbeEvent) (s : ProbeLoop) : ProbeEvent → Prop
  | .finish n id result => ∀ task, s.tasks.get? (n, id) = some task →
    s.registry.status? id = some task.backend.status ∨
      statusAfter health (completed id past ++ [result]) ≠ task.backend.status
  | _ => True

/-- Step lemma: a task loses its status exactly when its record is out of date and the status it
is returned is the one in its record. -/
theorem recorded_iff_upToDate {config : GatewayConfig} {past : List ProbeEvent} {s t : ProbeLoop}
    {e : ProbeEvent} (tracked : Tracked config past s) (stepped : s.step e = some t) :
    s.Recorded e ↔ UpToDate config.health past s e := by
  have does : s.Does e t := does_of_step stepped
  cases does with
  | pass => exact Iff.rfl
  | start created => exact Iff.rfl
  | @finish n id result b probing =>
      obtain ⟨rfl, present, known⟩ := tracked.filed n id _ probing
      have before : s.registry.status? b.id = some present.status :=
        congrArg (Option.map BackendInfo.status) known
      have after := HealthChecker.status?_finishProbe before result
      have verdict : ((s.checker.stateOf b.id).record result).2 = s.returned b.id result := rfl
      rw [verdict] at after
      simp only [Recorded, stepped, Option.some.injEq, forall_eq', UpToDate, probing, before,
        ← tracked.returned_eq]
      rw [registry, after, Option.some.injEq]
      by_cases unchanged : s.returned b.id result = b.status
      · simp [unchanged]
      · simp [unchanged]

/-- **When no status is lost.** In a run of overlapping probes every task that finishes leaves
the registry with the status it was returned, exactly if every task that finishes has a record
with the status in the registry or is returned another status than the one in its record. -/
theorem probes_keep_status_iff (config : GatewayConfig) (events : List ProbeEvent) (s : ProbeLoop)
    (ran : run step (new config) events = some s) :
    EveryStep step (new config) events Recorded ↔
      EveryStepAfter step (new config) events (UpToDate config.health) :=
  everyStepAfter_iff (I := Tracked config) (P := fun _ => Recorded)
    (fun _ _ _ _ tracked stepped => tracked_step tracked stepped)
    (fun _ _ _ _ tracked stepped => recorded_iff_upToDate tracked stepped)
    (tracked_new config) ran

/-- Two passes of the loop, and the probes of one backend on both passes. -/
def twoPasses : List ProbeEvent := [
  .pass, .start 0 "small-0", .pass, .start 1 "small-0", .finish 0 "small-0" .ok,
  .finish 1 "small-0" .ok]

/-- Two successful probes overlap. The first takes the backend for degraded, and the second is
returned the healthy status and does not write it. -/
theorem overlap_loses_status :
    ¬ ∀ (config : GatewayConfig) (events : List ProbeEvent) (s : ProbeLoop),
      run step (new config) events = some s →
      EveryStep step (new config) events Recorded := by
  intro always
  have lost : ((run step (new shippedConfig) twoPasses).map fun s =>
      s.registry.status? "small-0") = some (some .degraded) := by
    decide +kernel
  obtain ⟨s, ran, shown⟩ := Option.map_eq_some_iff.mp lost
  obtain ⟨m, before, last⟩ := run_concat_eq_some.mp
    (show run step (new shippedConfig) (twoPasses.take 5 ++ [.finish 1 "small-0" .ok]) = some s
      from ran)
  have returned : ((run step (new shippedConfig) (twoPasses.take 5)).map fun s =>
      s.returned "small-0" .ok) = some .healthy := by
    decide +kernel
  rw [before, Option.map_some, Option.some.injEq] at returned
  have recorded := always shippedConfig twoPasses s ran (twoPasses.take 5) _ [] m rfl before s last
  rw [shown, returned] at recorded
  cases recorded

/-- The condition in the run that loses a status. -/
theorem probes_keep_status_iff_for_two_passes :
    ∃ s, run step (new shippedConfig) twoPasses = some s ∧
      (EveryStep step (new shippedConfig) twoPasses Recorded ↔
        EveryStepAfter step (new shippedConfig) twoPasses (UpToDate shippedConfig.health)) := by
  obtain ⟨s, ran⟩ : ∃ s, run step (new shippedConfig) twoPasses = some s :=
    Option.isSome_iff_exists.mp (by decide +kernel)
  exact ⟨s, ran, probes_keep_status_iff shippedConfig twoPasses s ran⟩

end ProbeLoop

end AgentServe
