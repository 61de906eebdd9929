import AgentServe.Backends.Health
import AgentServe.Lib.Run
import Mathlib.Data.List.DropRight

/-!
# Hysteresis

When the probes of a backend do not overlap, its counters are the lengths of
the last streaks of its results, and its status is a function of those results
alone (`statusAfter`, `probe_tracks`). So the pool after a run of probes is read
off the results: a backend is in the pool before its first probe, and
afterwards exactly when its results end in enough successes
(`Tracks.inPool_iff`).

Two consequences decide when traffic is cut. A success takes a backend that was
never probed out of the pool unless one success is enough to be healthy
(`success_keeps_pool_iff`). A failure always takes a backend out of the pool,
so the results before it are a streak of failures only if a streak of one is
enough (`failure_leaves_pool_iff`).
-/

set_option autoImplicit false

namespace AgentServe

open Lib

/-! ## Streaks of results -/

/-- The length of the last streak of results that pass a test. -/
def streak (p : HealthProbeResult → Bool) (results : List HealthProbeResult) : ℕ :=
  (results.rtakeWhile p).length

def isOk (r : HealthProbeResult) : Bool := r == .ok

def isFailure (r : HealthProbeResult) : Bool := r != .ok

theorem streak_concat (p : HealthProbeResult → Bool) (results : List HealthProbeResult)
    (r : HealthProbeResult) :
    streak p (results ++ [r]) = if p r then streak p results + 1 else 0 := by
  unfold streak
  split
  · rename_i passes
    rw [List.rtakeWhile_concat_pos p results r passes, List.length_append]
    rfl
  · rename_i fails
    rw [List.rtakeWhile_concat_neg p results r fails]
    rfl

/-- The counters that a list of results leads to. -/
def countersAfter (config : HealthConfig) (results : List HealthProbeResult) :
    BackendHealthState where
  failuresToDown := config.failuresToMarkDown
  successesToUp := config.successesToMarkUp
  consecutiveFailures := streak isFailure results
  consecutiveSuccesses := streak isOk results

/-- The status that a list of results leads to: healthy before the first one, then by the
last result and the length of its streak. -/
def statusAfter (config : HealthConfig) (results : List HealthProbeResult) : BackendStatus :=
  match results.getLast? with
  | none => .healthy
  | some r =>
    if r = .ok then
      if (streak isOk results : ℤ) ≥ config.successesToMarkUp then .healthy else .degraded
    else if (streak isFailure results : ℤ) ≥ config.failuresToMarkDown then .down else .degraded

/-- Recording a result is appending it. -/
theorem record_countersAfter (config : HealthConfig) (results : List HealthProbeResult)
    (r : HealthProbeResult) :
    (countersAfter config results).record r =
      (countersAfter config (results ++ [r]), statusAfter config (results ++ [r])) := by
  by_cases ok : r = .ok
  · subst ok
    simp only [BackendHealthState.record, BackendHealthState.recordSuccess, countersAfter,
      statusAfter, streak_concat, isOk, isFailure, List.getLast?_concat, if_true, beq_self_eq_true,
      bne_self_eq_false, Bool.false_eq_true, if_false, Int.natCast_add, Int.natCast_one,
      Int.natCast_zero]
    split
    · exact if_pos ‹_›
    · exact if_neg ‹_›
  · have failed : (r == .ok) = false ∧ (r != .ok) = true := by simp [ok]
    simp only [BackendHealthState.record, BackendHealthState.recordFailure, countersAfter,
      statusAfter, streak_concat, isOk, isFailure, List.getLast?_concat, failed, if_neg ok,
      if_true, Bool.false_eq_true, if_false, Int.natCast_add, Int.natCast_one, Int.natCast_zero]
    split
    · exact if_pos ‹_›
    · exact if_neg ‹_›

/-- The last `n` results exist and are failures. -/
def LastFailed (n : ℤ) (results : List HealthProbeResult) : Prop :=
  n ≤ (results.length : ℤ) ∧ ∀ r ∈ results.reverse.take n.toNat, isFailure r = true

/-! ## Runs of probes -/

/-- The results of one backend in a run of probes. -/
def resultsOf (id : String) (events : List (String × HealthProbeResult)) :
    List HealthProbeResult :=
  (events.filter fun e => e.1 == id).map Prod.snd

theorem resultsOf_concat_self (id : String) (events : List (String × HealthProbeResult))
    (r : HealthProbeResult) : resultsOf id (events ++ [(id, r)]) = resultsOf id events ++ [r] := by
  simp [resultsOf, List.filter_append]

theorem resultsOf_concat_of_ne {id j : String} (differ : j ≠ id)
    (events : List (String × HealthProbeResult)) (r : HealthProbeResult) :
    resultsOf j (events ++ [(id, r)]) = resultsOf j events := by
  have other : (id == j) = false := by simpa using fun same : id = j => differ same.symm
  simp [resultsOf, List.filter_append, other]

theorem resultsOf_eq_nil_iff {id : String} {events : List (String × HealthProbeResult)} :
    resultsOf id events = [] ↔ ∀ r, (id, r) ∉ events := by
  simp only [resultsOf, List.map_eq_nil_iff, List.filter_eq_nil_iff, beq_iff_eq, Prod.forall]
  constructor
  · intro none r member
    exact none id r member rfl
  · intro none j r member same
    exact none r (same ▸ member)

/-- The counters and the registry of a checker are those its results lead to. -/
structure Tracks (start : BackendRegistry) (config : HealthConfig)
    (events : List (String × HealthProbeResult)) (c : HealthChecker) : Prop where
  config_eq : c.config = config
  counters : ∀ id, c.stateOf id = countersAfter config (resultsOf id events)
  backends : ∀ id, c.registry.getBackend id = (start.getBackend id).map fun b =>
    { b with status := statusAfter config (resultsOf id events) }

theorem tracks_new (config : GatewayConfig) :
    Tracks (.new config) config.health [] (.new (.new config) config.health) where
  config_eq := rfl
  counters := fun _ => rfl
  backends := by
    intro id
    cases found : (BackendRegistry.new config).getBackend id with
    | none => exact found
    | some b =>
        have healthy := BackendRegistry.status_new found
        apply found.trans
        apply congrArg some
        cases b
        cases healthy
        rfl

/-- One probe keeps the checker on track. -/
theorem tracks_probe {start : BackendRegistry} {config : HealthConfig}
    {events : List (String × HealthProbeResult)} {c d : HealthChecker}
    {e : String × HealthProbeResult} (tracks : Tracks start config events c)
    (probed : c.probe e = some d) : Tracks start config (events ++ [e]) d := by
  obtain ⟨id, r⟩ := e
  obtain ⟨backend, found, rfl⟩ := Option.map_eq_some_iff.mp probed
  obtain rfl : backend.id = id := BackendRegistry.getBackend_id found
  obtain ⟨original, configured, shown⟩ := Option.map_eq_some_iff.mp
    ((tracks.backends backend.id).symm.trans found)
  have recorded : (c.stateOf backend.id).record r =
      (countersAfter config (resultsOf backend.id (events ++ [(backend.id, r)])),
        statusAfter config (resultsOf backend.id (events ++ [(backend.id, r)]))) := by
    rw [tracks.counters, record_countersAfter, resultsOf_concat_self]
  refine ⟨?_, ?_, ?_⟩
  · rw [HealthChecker.config_probeOne]
    exact tracks.config_eq
  · intro j
    rw [HealthChecker.stateOf_probeOne]
    split
    · rename_i same
      rw [same, recorded]
    · rename_i differ
      rw [resultsOf_concat_of_ne differ]
      exact tracks.counters j
  · intro j
    rw [HealthChecker.getBackend_probeOne found]
    split
    · rename_i same
      rw [same, recorded, configured, ← shown]
      rfl
    · rename_i differ
      rw [resultsOf_concat_of_ne differ]
      exact tracks.backends j

/-- **A run of probes is its results.** -/
theorem probe_tracks {config : GatewayConfig} {events : List (String × HealthProbeResult)}
    {c : HealthChecker}
    (ran : run HealthChecker.probe (.new (.new config) config.health) events = some c) :
    Tracks (.new config) config.health events c := by
  induction events using List.reverseRecOn generalizing c with
  | nil =>
      cases ran
      exact tracks_new config
  | append_singleton first e ih =>
      obtain ⟨m, before, probed⟩ := run_concat_eq_some.mp ran
      exact tracks_probe (ih before) probed

/-! ## The pool after a run -/

section Pool

variable {config : GatewayConfig} {events : List (String × HealthProbeResult)}
  {c : HealthChecker}

/-- A known backend is in the pool exactly when its results lead to the healthy status. -/
theorem Tracks.inPool_iff (tracks : Tracks (.new config) config.health events c) {id : String}
    {b : BackendInfo} (found : c.registry.getBackend id = some b) :
    c.registry.InPool id ↔ statusAfter config.health (resultsOf id events) = .healthy := by
  rw [BackendRegistry.inPool_iff_status found]
  obtain ⟨original, _, shown⟩ := Option.map_eq_some_iff.mp ((tracks.backends id).symm.trans found)
  rw [← shown]

/-- A backend in the pool was never probed, or its last result was a success and ended a
streak that is long enough. -/
theorem statusAfter_eq_healthy_iff {health : HealthConfig} {results : List HealthProbeResult} :
    statusAfter health results = .healthy ↔
      results = [] ∨ ∃ before, results = before ++ [.ok] ∧
        health.successesToMarkUp ≤ streak isOk results := by
  induction results using List.reverseRecOn with
  | nil => simp [statusAfter]
  | append_singleton before r _ =>
      simp only [statusAfter, List.getLast?_concat, List.concat_ne_nil, false_or,
        List.append_singleton_inj]
      by_cases ok : r = .ok
      · subst ok
        simp
      · simp only [if_neg ok]
        constructor
        · intro healthy
          split at healthy <;> cases healthy
        · rintro ⟨_, ⟨_, same⟩, _⟩
          exact absurd same ok

/-- A known backend can be probed, and the probe puts it in the pool exactly when its results
with the new one lead to the healthy status. -/
theorem Tracks.probe_inPool (tracks : Tracks (.new config) config.health events c) {id : String}
    {b : BackendInfo} (found : c.registry.getBackend id = some b) (r : HealthProbeResult) :
    ∃ d, c.probe (id, r) = some d ∧
      (d.registry.InPool id ↔
        statusAfter config.health (resultsOf id events ++ [r]) = .healthy) := by
  have probed : c.probe (id, r) = some (c.probeOne b r) := by
    simp only [HealthChecker.probe, found, Option.map_some]
  obtain rfl : b.id = id := BackendRegistry.getBackend_id found
  have shown := HealthChecker.getBackend_probeOne found r b.id
  rw [if_pos rfl] at shown
  refine ⟨_, probed, ?_⟩
  rw [(tracks_probe tracks probed).inPool_iff shown, resultsOf_concat_self]

/-- **When a success keeps a backend in the pool.** A backend in the pool is still in it after
a successful probe exactly when one success is enough to be healthy, or the backend was probed
before. -/
theorem success_keeps_pool_iff
    (ran : run HealthChecker.probe (.new (.new config) config.health) events = some c)
    {id : String} (pooled : c.registry.InPool id) :
    (∃ d, c.probe (id, .ok) = some d ∧ d.registry.InPool id) ↔
      config.health.successesToMarkUp ≤ 1 ∨ ∃ r, (id, r) ∈ events := by
  have tracks := probe_tracks ran
  have ⟨b, found, _⟩ := pooled
  have before := statusAfter_eq_healthy_iff.mp ((tracks.inPool_iff found).mp pooled)
  obtain ⟨d, probed, after⟩ := tracks.probe_inPool found .ok
  have stays : (∃ d, c.probe (id, .ok) = some d ∧ d.registry.InPool id) ↔
      config.health.successesToMarkUp ≤ streak isOk (resultsOf id events) + 1 := by
    have counted : streak isOk (resultsOf id events ++ [.ok]) =
        streak isOk (resultsOf id events) + 1 := by
      rw [streak_concat, if_pos (show isOk .ok = true from rfl)]
    rw [probed]
    simp [after, statusAfter_eq_healthy_iff, counted]
  rw [stays]
  constructor
  · intro enough
    rcases before with none | ⟨front, ending, _⟩
    · left
      simpa [none, streak] using enough
    · right
      by_contra absent
      simp [resultsOf_eq_nil_iff.mpr (not_exists.mp absent)] at ending
  · rintro (one | ⟨r, earlier⟩)
    · omega
    · rcases before with none | ⟨_, _, long⟩
      · exact absurd earlier (resultsOf_eq_nil_iff.mp none r)
      · omega

/-- With the shipped thresholds a backend that was never probed leaves the pool on its first
success. -/
theorem first_success_leaves_pool :
    ¬ ∀ (config : GatewayConfig) (events : List (String × HealthProbeResult))
      (c : HealthChecker) (id : String),
      1 ≤ config.health.failuresToMarkDown → 1 ≤ config.health.successesToMarkUp →
      run HealthChecker.probe (.new (.new config) config.health) events = some c →
      c.registry.InPool id → ∃ d, c.probe (id, .ok) = some d ∧ d.registry.InPool id := by
  intro always
  obtain ⟨d, probed, inside⟩ :=
    always shippedConfig [] _ "small-0" (by decide) (by decide) rfl (by decide)
  have out : (((HealthChecker.new (.new shippedConfig) shippedConfig.health).probe
      ("small-0", .ok)).map fun d => decide (d.registry.InPool "small-0")) = some false := by
    decide
  rw [probed] at out
  simp [inside] at out

/-- The condition at start-up, where the backend is in the pool and was never probed. -/
theorem success_keeps_pool_iff_at_start :
    (∃ d, (HealthChecker.new (.new shippedConfig) shippedConfig.health).probe ("small-0", .ok) =
        some d ∧ d.registry.InPool "small-0") ↔
      shippedConfig.health.successesToMarkUp ≤ 1 ∨
        ∃ r, ("small-0", r) ∈ ([] : List (String × HealthProbeResult)) :=
  success_keeps_pool_iff rfl (by decide)

/-- Before a failure of a backend in the pool there is no failure to count: the new one is
the whole streak. -/
theorem lastFailed_concat_iff {health : HealthConfig} {results : List HealthProbeResult}
    (healthy : statusAfter health results = .healthy) {r : HealthProbeResult}
    (failed : r ≠ .ok) (n : ℤ) : LastFailed n (results ++ [r]) ↔ n ≤ 1 := by
  simp only [LastFailed, List.length_append, List.length_singleton, List.reverse_append,
    List.reverse_singleton, List.singleton_append]
  constructor
  · rintro ⟨long, all⟩
    by_contra many
    rcases statusAfter_eq_healthy_iff.mp healthy with none | ⟨front, ending, _⟩
    · simp only [none, List.length_nil] at long
      omega
    · have second : HealthProbeResult.ok ∈ (r :: results.reverse).take n.toNat := by
        obtain ⟨k, two⟩ : ∃ k, n.toNat = k + 2 := ⟨n.toNat - 2, by omega⟩
        simp [two, ending]
      cases all _ second
  · intro one
    refine ⟨by omega, ?_⟩
    intro x member
    have only : x = r := by
      rcases (by omega : n.toNat = 0 ∨ n.toNat = 1) with zero | single
      · simp [zero] at member
      · simpa [single] using member
    simpa [isFailure, only] using failed

/-- **When a streak of failures stands behind a departure.** A failed probe always takes a
backend out of the pool. The required number of failures in a row has been seen by then
exactly when one failure is enough, or there was no backend in the pool to leave. -/
theorem failure_leaves_pool_iff
    (ran : run HealthChecker.probe (.new (.new config) config.health) events = some c)
    (id : String) {r : HealthProbeResult} (failed : r ≠ .ok) :
    (∀ d, c.registry.InPool id → c.probe (id, r) = some d → ¬ d.registry.InPool id →
        LastFailed config.health.failuresToMarkDown (resultsOf id (events ++ [(id, r)]))) ↔
      ¬ c.registry.InPool id ∨ config.health.failuresToMarkDown ≤ 1 := by
  have tracks := probe_tracks ran
  rw [resultsOf_concat_self]
  by_cases pooled : c.registry.InPool id
  · have ⟨b, found, _⟩ := pooled
    have healthy := (tracks.inPool_iff found).mp pooled
    obtain ⟨d, probed, after⟩ := tracks.probe_inPool found r
    have leaves : ¬ d.registry.InPool id := by
      rw [after, statusAfter_eq_healthy_iff]
      simp [failed]
    rw [lastFailed_concat_iff healthy failed]
    constructor
    · intro reached
      exact .inr (reached d pooled probed leaves)
    · rintro (out | one) _ _ _ _
      · exact absurd pooled out
      · exact one
  · exact iff_of_true (fun _ inside => absurd inside pooled) (.inl pooled)

/-- With the shipped thresholds one timeout takes a backend out of the pool, where three
failures are required. -/
theorem one_failure_leaves_pool :
    ¬ ∀ (config : GatewayConfig) (events : List (String × HealthProbeResult))
      (c d : HealthChecker) (id : String) (r : HealthProbeResult),
      1 ≤ config.health.failuresToMarkDown →
      run HealthChecker.probe (.new (.new config) config.health) events = some c → r ≠ .ok →
      c.registry.InPool id → c.probe (id, r) = some d → ¬ d.registry.InPool id →
        LastFailed config.health.failuresToMarkDown (resultsOf id (events ++ [(id, r)])) := by
  intro always
  have out : (((HealthChecker.new (.new shippedConfig) shippedConfig.health).probe
      ("small-0", .timeout)).map fun d => decide (d.registry.InPool "small-0")) = some false := by
    decide
  obtain ⟨d, probed, left⟩ := Option.map_eq_some_iff.mp out
  obtain ⟨long, _⟩ := always shippedConfig [] _ d "small-0" .timeout (by decide) rfl (by decide)
    (by decide) probed (of_decide_eq_false left)
  revert long
  decide

/-- The condition at start-up, where the backend is in the pool. -/
theorem failure_leaves_pool_iff_at_start :
    (∀ d, (HealthChecker.new (.new shippedConfig) shippedConfig.health).registry.InPool "small-0" →
        (HealthChecker.new (.new shippedConfig) shippedConfig.health).probe ("small-0", .timeout) =
          some d → ¬ d.registry.InPool "small-0" →
        LastFailed shippedConfig.health.failuresToMarkDown
          (resultsOf "small-0" ([] ++ [("small-0", .timeout)]))) ↔
      ¬ (HealthChecker.new (.new shippedConfig) shippedConfig.health).registry.InPool "small-0" ∨
        shippedConfig.health.failuresToMarkDown ≤ 1 :=
  failure_leaves_pool_iff rfl "small-0" (by decide)

end Pool

end AgentServe
