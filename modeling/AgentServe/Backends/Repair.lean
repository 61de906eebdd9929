import AgentServe.Backends.Reentry

/-!
# Probes that repair the registry

Probes that overlap can leave the registry with a status that is not the one the counters
give, since a task compares with the record it was created with. The counters go on in any
case. So a later task finds the status that is missing, if its record is the present one
when it ends, that is if no other probe of its backend ends between the pass that creates
it and its own end (`recent_step`).

After such a probe the pool is what the hysteresis asks for, whatever was lost before: the
backend is in it exactly if the last completed probes succeeded, as many as the one
threshold asks for, and it is down exactly if they failed, as many as the other asks for
(`probe_repairs`). For either it takes one probe, even if a threshold asks for none.
-/

set_option autoImplicit false

namespace AgentServe

open Lib

/-! ## Streaks and last results -/

/-- A streak has a length exactly if that many last results pass the test. -/
theorem le_streak_iff {p : HealthProbeResult → Bool} {n : ℤ} {results : List HealthProbeResult} :
    n ≤ streak p results ↔
      n ≤ (results.length : ℤ) ∧ ∀ r ∈ results.reverse.take n.toNat, p r = true := by
  have counted : streak p results = (results.reverse.takeWhile p).length := by
    rw [streak, List.rtakeWhile, List.length_reverse]
  have first : results.reverse.takeWhile p <+: results.reverse := List.takeWhile_prefix _
  have bounded := first.length_le
  rw [List.length_reverse] at bounded
  constructor
  · intro long
    refine ⟨by omega, fun r member => ?_⟩
    have short : n.toNat ≤ (results.reverse.takeWhile p).length := by omega
    obtain ⟨older, split⟩ := first
    rw [← split, List.take_append_of_le_length short] at member
    exact List.mem_takeWhile_imp (List.mem_of_mem_take member)
  · rintro ⟨enough, all⟩
    have whole : results.reverse.takeWhile p =
        results.reverse.take n.toNat ++ (results.reverse.drop n.toNat).takeWhile p := by
      rw [← List.takeWhile_append_of_pos all, List.take_append_drop]
    rw [counted, whole, List.length_append, List.length_take, List.length_reverse]
    omega

theorem le_streak_isOk_iff {n : ℤ} {results : List HealthProbeResult} :
    n ≤ streak isOk results ↔ LastSucceeded n results := by
  simp only [le_streak_iff, LastSucceeded, isOk, beq_iff_eq]

theorem le_streak_isFailure_iff {n : ℤ} {results : List HealthProbeResult} :
    n ≤ streak isFailure results ↔ LastFailed n results :=
  le_streak_iff

/-- A result makes a streak of at least one exactly if it passes the test. -/
theorem one_le_streak_concat_iff {p : HealthProbeResult → Bool} {results : List HealthProbeResult}
    {r : HealthProbeResult} : 1 ≤ (streak p (results ++ [r]) : ℤ) ↔ p r = true := by
  rw [streak_concat]
  cases p r with
  | true => exact iff_of_true (by rw [if_pos rfl]; omega) rfl
  | false => simp

/-- After a result the status is healthy exactly after a streak of successes. -/
theorem statusAfter_concat_eq_healthy_iff {health : HealthConfig}
    {results : List HealthProbeResult} {r : HealthProbeResult} :
    statusAfter health (results ++ [r]) = .healthy ↔
      LastSucceeded (max 1 health.successesToMarkUp) (results ++ [r]) := by
  rw [← le_streak_isOk_iff, Int.max_le, one_le_streak_concat_iff, statusAfter,
    List.getLast?_concat]
  by_cases ok : r = .ok
  · simp [ok, isOk]
  · have failed : isOk r = false := by simpa [isOk] using ok
    simp only [if_neg ok, failed, Bool.false_eq_true, false_and, iff_false]
    split <;> simp

/-- After a result the status is down exactly after a streak of failures. -/
theorem statusAfter_concat_eq_down_iff {health : HealthConfig}
    {results : List HealthProbeResult} {r : HealthProbeResult} :
    statusAfter health (results ++ [r]) = .down ↔
      LastFailed (max 1 health.failuresToMarkDown) (results ++ [r]) := by
  rw [← le_streak_isFailure_iff, Int.max_le, one_le_streak_concat_iff, statusAfter,
    List.getLast?_concat]
  by_cases ok : r = .ok
  · have passed : isFailure r = false := by simpa [isFailure] using ok
    simp only [if_pos ok, passed, Bool.false_eq_true, false_and, iff_false]
    split <;> simp
  · simp [ok, isFailure]

namespace ProbeLoop

/-! ## Recent records -/

/-- A pass of the loop was made, and the record of the task it created, if there is one, shows the
status in the registry. -/
structure Recent (n : ℕ) (id : String) (s : ProbeLoop) : Prop where
  made : n < s.passes
  shown : ∀ task, s.tasks.get? (n, id) = some task →
    s.registry.status? id = some task.backend.status

/-- A pass makes the records of its tasks. -/
theorem recent_pass {config : GatewayConfig} {past : List ProbeEvent} {s t : ProbeLoop}
    (tracked : Tracked config past s) (stepped : s.step .pass = some t) (id : String) :
    Recent s.passes id t := by
  cases stepped
  refine ⟨Nat.lt_succ_self _, fun task found => ?_⟩
  rw [get?_createTasks_allBackends, if_pos rfl] at found
  split at found
  · rename_i b known
    cases found
    exact congrArg (Option.map BackendInfo.status) known
  · rename_i unknown
    obtain ⟨_, b, known⟩ := tracked.filed _ _ _ found
    cases unknown.symm.trans known

/-- Step lemma: a record stays the present one until a task of its backend ends. -/
theorem recent_step {config : GatewayConfig} {past : List ProbeEvent} {s t : ProbeLoop}
    {e : ProbeEvent} {n : ℕ} {id : String} (tracked : Tracked config past s)
    (recent : Recent n id s) (alone : completed id [e] = []) (stepped : s.step e = some t) :
    Recent n id t := by
  obtain ⟨made, shown⟩ := recent
  have does : s.Does e t := does_of_step stepped
  cases does with
  | pass =>
      refine ⟨Nat.lt_succ_of_lt made, fun task found => ?_⟩
      rw [get?_createTasks_allBackends, if_neg (Nat.ne_of_lt made)] at found
      exact shown task found
  | @start m j b created =>
      refine ⟨made, fun task found => ?_⟩
      rw [registry, HealthChecker.registry_startProbe]
      rw [Dict.get?_set] at found
      split at found
      · rename_i same
        cases same
        cases found
        exact shown ⟨b, .created⟩ created
      · exact shown task found
  | @finish m j result b probing =>
      obtain ⟨rfl, _⟩ := tracked.filed m j _ probing
      have other : id ≠ b.id := by
        rintro rfl
        simp [completed] at alone
      refine ⟨made, fun task found => ?_⟩
      rw [Dict.get?_set_of_ne _ _ fun same => other (congrArg Prod.snd same)] at found
      rw [registry, BackendRegistry.status?, HealthChecker.getBackend_finishProbe,
        if_neg fun both => other both.1]
      exact shown task found

/-- The passes of a run are numbered. -/
theorem passes_step {s t : ProbeLoop} {e : ProbeEvent} (stepped : s.step e = some t) :
    t.passes = s.passes + [e].count .pass := by
  cases does_of_step stepped with
  | pass => rfl
  | start created => rfl
  | finish probing => rfl

theorem passes_run {config : GatewayConfig} {events : List ProbeEvent} {s : ProbeLoop}
    (ran : run step (new config) events = some s) : s.passes = events.count .pass :=
  past_invariant (P := fun past s => s.passes = past.count .pass)
    (fun past s e t counted stepped => by
      rw [passes_step stepped, counted, List.count_append]) rfl ran

/-- Between a pass and the end of a probe no other probe of the backend ends. -/
theorem recent_run {config : GatewayConfig} {past mid : List ProbeEvent} {s : ProbeLoop}
    {id : String} (ran : run step (new config) (past ++ .pass :: mid) = some s)
    (alone : completed id mid = []) : Recent (past.count .pass) id s := by
  induction mid using List.reverseRecOn generalizing s with
  | nil =>
      obtain ⟨m, before, stepped⟩ := run_concat_eq_some.mp ran
      rw [← passes_run before]
      exact recent_pass (tracked_run before) stepped id
  | append_singleton first e ih =>
      rw [completed, List.filterMap_append, List.append_eq_nil_iff] at alone
      rw [← List.cons_append, ← List.append_assoc] at ran
      obtain ⟨m, before, stepped⟩ := run_concat_eq_some.mp ran
      exact recent_step (tracked_run before) (ih before alone.1) alone.2 stepped

/-- **A probe repairs the registry.** Let a pass of the loop create a task, and let the probe of
the task end without another probe of its backend ending in between. Then the backend is in the
pool exactly if its last completed probes succeeded, as many as the one threshold asks for, and it
is down exactly if they failed, as many as the other asks for. What overlapping probes lost before
makes no difference. -/
theorem probe_repairs (config : GatewayConfig) (past mid : List ProbeEvent) (id : String)
    (r : HealthProbeResult) (s : ProbeLoop)
    (ran : run step (new config) (past ++ .pass :: mid ++ [.finish (past.count .pass) id r]) =
      some s)
    (alone : completed id mid = []) :
    (s.registry.InPool id ↔
        LastSucceeded (max 1 config.health.successesToMarkUp) (completed id past ++ [r])) ∧
      (s.registry.status? id = some .down ↔
        LastFailed (max 1 config.health.failuresToMarkDown) (completed id past ++ [r])) := by
  obtain ⟨m, before, stepped⟩ := run_concat_eq_some.mp ran
  have tracked := tracked_run before
  have recent := recent_run before alone
  have results : completed id (past ++ .pass :: mid) = completed id past := by
    have among : completed id (.pass :: mid) = completed id mid := rfl
    rw [completed, List.filterMap_append]
    exact (congrArg _ (among.trans alone)).trans (List.append_nil _)
  have status :
      s.registry.status? id = some (statusAfter config.health (completed id past ++ [r])) := by
    rw [← results, ← tracked.returned_eq]
    refine (recorded_iff_upToDate tracked stepped).mpr (fun task found => .inl ?_) s stepped
    exact recent.shown task found
  obtain ⟨b, found, shown⟩ := Option.map_eq_some_iff.mp status
  rw [BackendRegistry.inPool_iff_status found, status, shown, Option.some.injEq,
    statusAfter_concat_eq_healthy_iff, statusAfter_concat_eq_down_iff]
  exact ⟨Iff.rfl, Iff.rfl⟩

/-- The two overlapping successes of `twoPasses`, the second of them lost, and one more by
itself. -/
theorem probe_repairs_after_twoPasses :
    ∃ s, run step (new shippedConfig) (twoPasses ++ .pass :: [.start 2 "small-0"] ++
        [.finish 2 "small-0" .ok]) = some s ∧
      (s.registry.InPool "small-0" ↔ LastSucceeded (max 1 shippedConfig.health.successesToMarkUp)
        (completed "small-0" twoPasses ++ [.ok])) ∧
      (s.registry.status? "small-0" = some .down ↔
        LastFailed (max 1 shippedConfig.health.failuresToMarkDown)
          (completed "small-0" twoPasses ++ [.ok])) := by
  obtain ⟨s, ran⟩ : ∃ s, run step (new shippedConfig) (twoPasses ++ .pass ::
      [.start 2 "small-0"] ++ [.finish 2 "small-0" .ok]) = some s :=
    Option.isSome_iff_exists.mp (by decide +kernel)
  exact ⟨s, ran, probe_repairs shippedConfig twoPasses [.start 2 "small-0"] "small-0" .ok s ran rfl⟩

end ProbeLoop

end AgentServe
