import AgentServe.Backends.Probes

/-!
# Re-entry into the pool

A status is written when a probe task finishes, so a backend becomes healthy only
by a successful probe that ends a streak of the required length, whatever tasks
overlap it (`finish_of_change`, `lastSucceeded_of_streak`). The probes of other
backends have no part in it: the run of the passes and of the backend's own probes
alone makes the same change (`own_run`). Both facts together are
`reentry_needs_streak`.
-/

set_option autoImplicit false

namespace AgentServe

open Lib

/-- The last `n` results exist and are successes. -/
def LastSucceeded (n : ℤ) (results : List HealthProbeResult) : Prop :=
  n ≤ (results.length : ℤ) ∧ ∀ r ∈ results.reverse.take n.toNat, r = .ok

instance (n : ℤ) (results : List HealthProbeResult) : Decidable (LastSucceeded n results) :=
  inferInstanceAs (Decidable (_ ∧ _))

/-- A streak of successes is the last results. -/
theorem lastSucceeded_of_streak {n : ℤ} {results : List HealthProbeResult}
    (long : n ≤ streak isOk results) : LastSucceeded n results := by
  have counted : streak isOk results = (results.reverse.takeWhile isOk).length := by
    rw [streak, List.rtakeWhile, List.length_reverse]
  have first : results.reverse.takeWhile isOk <+: results.reverse := List.takeWhile_prefix _
  have bounded := first.length_le
  rw [List.length_reverse] at bounded
  refine ⟨by omega, fun r member => ?_⟩
  have short : n.toNat ≤ (results.reverse.takeWhile isOk).length := by omega
  obtain ⟨older, split⟩ := first
  rw [← split, List.take_append_of_le_length short] at member
  simpa [isOk] using List.mem_takeWhile_imp (List.mem_of_mem_take member)

namespace ProbeLoop

/-! ## Changes of status -/

/-- Only a task that finishes changes a status, and it writes the status it was returned. -/
theorem finish_of_change {config : GatewayConfig} {past : List ProbeEvent} {s t : ProbeLoop}
    {e : ProbeEvent} (tracked : Tracked config past s) (stepped : s.step e = some t) {id : String}
    {before after : BackendStatus} (was : s.registry.status? id = some before)
    (is_now : t.registry.status? id = some after) (changed : before ≠ after) :
    ∃ n result, e = .finish n id result ∧ after = s.returned id result := by
  have does : s.Does e t := does_of_step stepped
  cases does with
  | pass => exact absurd (Option.some.inj (was.symm.trans is_now)) changed
  | start created =>
      rw [registry, HealthChecker.registry_startProbe] at is_now
      exact absurd (Option.some.inj (was.symm.trans is_now)) changed
  | @finish n j result b probing =>
      obtain ⟨rfl, _⟩ := tracked.filed n j _ probing
      by_cases own : id = b.id
      · subst own
        rw [registry, HealthChecker.status?_finishProbe was, Option.some.injEq] at is_now
        split at is_now
        · exact ⟨n, result, rfl, is_now.symm⟩
        · exact absurd is_now changed
      · have kept : (s.checker.finishProbe b result).registry.status? id =
            s.registry.status? id := by
          rw [BackendRegistry.status?, HealthChecker.getBackend_finishProbe,
            if_neg fun both => own both.1]
          rfl
        rw [registry, kept] at is_now
        exact absurd (Option.some.inj (was.symm.trans is_now)) changed

/-! ## The probes of one backend -/

/-- A pass of the loop, or a step of a task of the backend. -/
def concerns (id : String) : ProbeEvent → Bool
  | .pass => true
  | .start _ j | .finish _ j _ => j = id

/-- Two states that agree on everything about one backend. -/
structure SameFor (id : String) (s s' : ProbeLoop) : Prop where
  passes : s'.passes = s.passes
  counters : s'.checker.stateOf id = s.checker.stateOf id
  backend : s'.registry.getBackend id = s.registry.getBackend id
  tasks : ∀ n, s'.tasks.get? (n, id) = s.tasks.get? (n, id)

/-- A step that concerns the backend is made on both sides alike. -/
theorem SameFor.step_own {config : GatewayConfig} {past : List ProbeEvent} {id : String}
    {s s' t : ProbeLoop} {e : ProbeEvent} (tracked : Tracked config past s)
    (same : SameFor id s s') (own : concerns id e = true) (stepped : s.step e = some t) :
    ∃ t', s'.step e = some t' ∧ SameFor id t t' := by
  have does : s.Does e t := does_of_step stepped
  cases does with
  | pass =>
      refine ⟨_, rfl, congrArg Nat.succ same.passes, same.counters, same.backend, fun n => ?_⟩
      simp only [get?_createTasks_allBackends, same.passes, same.backend, same.tasks]
  | @start n j b created =>
      obtain rfl : j = id := by simpa [concerns] using own
      refine ⟨_, step_start ((same.tasks n).trans created), same.passes, ?_, ?_, fun m => ?_⟩
      · rw [HealthChecker.stateOf_startProbe, HealthChecker.stateOf_startProbe, same.counters]
      · rw [registry, registry, HealthChecker.registry_startProbe,
          HealthChecker.registry_startProbe]
        exact same.backend
      · rw [Dict.get?_set, Dict.get?_set, same.tasks]
  | @finish n j result b probing =>
      obtain rfl : j = id := by simpa [concerns] using own
      obtain ⟨rfl, _⟩ := tracked.filed n j _ probing
      refine ⟨_, step_finish ((same.tasks n).trans probing) result, same.passes, ?_, ?_,
        fun m => ?_⟩
      · rw [HealthChecker.stateOf_finishProbe, HealthChecker.stateOf_finishProbe, same.counters]
      · have before : s'.checker.registry.getBackend b.id = s.checker.registry.getBackend b.id :=
          same.backend
        rw [registry, registry, HealthChecker.getBackend_finishProbe,
          HealthChecker.getBackend_finishProbe, same.counters, before]
      · rw [Dict.get?_set, Dict.get?_set, same.tasks]

/-- A step of another backend's task is not seen. -/
theorem SameFor.step_other {config : GatewayConfig} {past : List ProbeEvent} {id : String}
    {s s' t : ProbeLoop} {e : ProbeEvent} (tracked : Tracked config past s)
    (same : SameFor id s s') (other : concerns id e = false) (stepped : s.step e = some t) :
    SameFor id t s' := by
  have does : s.Does e t := does_of_step stepped
  cases does with
  | pass => cases other
  | @start n j b created =>
      have differ : id ≠ j := fun equal => by simp [concerns, equal] at other
      have unset : ∀ m task, (s.tasks.set (n, j) task).get? (m, id) = s.tasks.get? (m, id) :=
        fun m task => Dict.get?_set_of_ne _ _ fun equal => differ (congrArg Prod.snd equal)
      refine ⟨same.passes, ?_, ?_, fun m => ?_⟩
      · simp only [HealthChecker.stateOf_startProbe, same.counters]
      · simp only [registry, HealthChecker.registry_startProbe]
        exact same.backend
      · simp only [unset, same.tasks]
  | @finish n j result b probing =>
      obtain ⟨rfl, _⟩ := tracked.filed n j _ probing
      have differ : id ≠ b.id := fun equal => by simp [concerns, equal] at other
      have unset : ∀ m task, (s.tasks.set (n, b.id) task).get? (m, id) = s.tasks.get? (m, id) :=
        fun m task => Dict.get?_set_of_ne _ _ fun equal => differ (congrArg Prod.snd equal)
      refine ⟨same.passes, ?_, ?_, fun m => ?_⟩
      · simp only [HealthChecker.stateOf_finishProbe, if_neg differ, same.counters]
      · rw [registry, registry, HealthChecker.getBackend_finishProbe,
          if_neg fun both => differ both.1]
        exact same.backend
      · simp only [unset, same.tasks]

/-- **The probes of one backend stand alone.** The passes and the backend's own probes make a run
of their own, and it agrees with the whole run on everything about the backend. -/
theorem own_run {config : GatewayConfig} {events : List ProbeEvent} {s : ProbeLoop}
    (ran : run step (new config) events = some s) (id : String) :
    ∃ s', run step (new config) (events.filter (concerns id)) = some s' ∧ SameFor id s s' := by
  obtain ⟨s', own, _, same⟩ := run_filter
    (R := fun s s' => (∃ past, Tracked config past s) ∧ SameFor id s s')
    (fun s s' e t ⟨⟨past, tracked⟩, same⟩ own stepped =>
      have ⟨t', also, after⟩ := same.step_own tracked own stepped
      ⟨t', also, ⟨past ++ [e], tracked_step tracked stepped⟩, after⟩)
    (fun s s' e t ⟨⟨past, tracked⟩, same⟩ other stepped =>
      ⟨⟨past ++ [e], tracked_step tracked stepped⟩, same.step_other tracked other stepped⟩)
    ⟨⟨[], tracked_new config⟩, rfl, rfl, rfl, fun _ => rfl⟩ ran
  exact ⟨s', own, same⟩

/-- **Re-entry takes a streak.** When a step makes a backend healthy that was not, a probe of the
backend finishes with a success, and the last results of its completed probes, as many as the
threshold asks for, are successes. The run in which no other backend is probed makes the same
change. -/
theorem reentry_needs_streak (config : GatewayConfig) (events : List ProbeEvent) (s t : ProbeLoop)
    (ran : run step (new config) events = some s) (e : ProbeEvent) (stepped : s.step e = some t)
    (id : String) (before : BackendStatus) (was : s.registry.status? id = some before)
    (out : before ≠ .healthy) (back : t.registry.status? id = some .healthy) :
    (∃ n, e = .finish n id .ok) ∧
      LastSucceeded config.health.successesToMarkUp (completed id (events ++ [e])) ∧
      ∃ s' t', run step (new config) (events.filter (concerns id)) = some s' ∧
        s'.step e = some t' ∧ s'.registry.status? id = some before ∧
        t'.registry.status? id = some .healthy := by
  have tracked := tracked_run ran
  obtain ⟨n, result, rfl, given⟩ := finish_of_change tracked stepped was back out
  have healthy : statusAfter config.health (completed id events ++ [result]) = .healthy :=
    (tracked.returned_eq id result).symm.trans given.symm
  rcases statusAfter_eq_healthy_iff.mp healthy with none | ⟨front, ending, long⟩
  · simp at none
  · obtain ⟨rfl, ok⟩ := List.append_singleton_inj.mp ending
    cases ok
    obtain ⟨s', own, same⟩ := own_run ran id
    obtain ⟨t', also, after⟩ := same.step_own tracked (by simp [concerns]) stepped
    refine ⟨⟨n, rfl⟩, ?_, s', t', own, also, ?_, ?_⟩
    · rw [completed_concat_finish, if_pos rfl]
      exact lastSucceeded_of_streak long
    · rw [BackendRegistry.status?, same.backend]
      exact was
    · rw [BackendRegistry.status?, after.backend]
      exact back

/-- Three passes of the loop: a failure of a backend, and then two successes that overlap a
failure of another. -/
def downAndBack : List ProbeEvent := [
  .pass, .start 0 "small-0", .start 0 "small-1", .finish 0 "small-0" .timeout, .pass,
  .start 1 "small-0", .pass, .start 2 "small-0", .finish 1 "small-0" .ok,
  .finish 0 "small-1" .error]

/-- Two successes in a row, the second of them in the present step, bring a backend back. -/
theorem reentry_needs_streak_after_failure :
    (∃ n, ProbeEvent.finish 2 "small-0" .ok = .finish n "small-0" .ok) ∧
      LastSucceeded shippedConfig.health.successesToMarkUp
        (completed "small-0" (downAndBack ++ [.finish 2 "small-0" .ok])) ∧
      ∃ s' t', run step (new shippedConfig) (downAndBack.filter (concerns "small-0")) = some s' ∧
        s'.step (.finish 2 "small-0" .ok) = some t' ∧
        s'.registry.status? "small-0" = some .degraded ∧
        t'.registry.status? "small-0" = some .healthy := by
  have first : ((run step (new shippedConfig) downAndBack).map fun s =>
      s.registry.status? "small-0") = some (some .degraded) := by
    decide +kernel
  obtain ⟨s, ran, was⟩ := Option.map_eq_some_iff.mp first
  have second : ((run step (new shippedConfig) (downAndBack ++ [.finish 2 "small-0" .ok])).map
      fun s => s.registry.status? "small-0") = some (some .healthy) := by
    decide +kernel
  obtain ⟨t, on, back⟩ := Option.map_eq_some_iff.mp second
  obtain ⟨m, before, stepped⟩ := run_concat_eq_some.mp on
  obtain rfl : s = m := Option.some.inj (ran.symm.trans before)
  exact reentry_needs_streak shippedConfig downAndBack s t ran _ stepped "small-0" .degraded was
    (by decide) back

end ProbeLoop

end AgentServe
