import AgentServe.Backends.Registry
import Mathlib.Tactic.Common

/-!
# Health probes

The health checker counts the consecutive failures and successes of every
backend. A probe result updates the counters, the counters give a status, and
the status is written to the registry when it differs from the status in the
snapshot the probe was started with.

A probe task starts with a snapshot of a backend, waits for the answer, and
ends with the result (`startProbe`, `finishProbe`). When nothing happens in
between (`probeOne`), the result counts for the probed backend alone
(`stateOf_probeOne`), and the registry ends up with the status the counters
gave (`getBackend_probeOne`).
-/

set_option autoImplicit false

namespace AgentServe

open Lib

/-! ## Counters -/

/-- Consecutive failures and successes of one backend, with the two thresholds. -/
structure BackendHealthState where
  failuresToDown : ℤ
  successesToUp : ℤ
  consecutiveFailures : ℤ := 0
  consecutiveSuccesses : ℤ := 0
deriving DecidableEq, Repr

namespace BackendHealthState

def recordSuccess (s : BackendHealthState) : BackendHealthState × BackendStatus :=
  let counted := { s with
    consecutiveFailures := 0
    consecutiveSuccesses := s.consecutiveSuccesses + 1 }
  if counted.consecutiveSuccesses ≥ counted.successesToUp then (counted, .healthy)
  else (counted, .degraded)

def recordFailure (s : BackendHealthState) : BackendHealthState × BackendStatus :=
  let counted := { s with
    consecutiveSuccesses := 0
    consecutiveFailures := s.consecutiveFailures + 1 }
  if counted.consecutiveFailures ≥ counted.failuresToDown then (counted, .down)
  else (counted, .degraded)

/-- Record the result of a probe. -/
def record (s : BackendHealthState) (result : HealthProbeResult) :
    BackendHealthState × BackendStatus :=
  if result = .ok then s.recordSuccess else s.recordFailure

end BackendHealthState

/-! ## The checker -/

/-- The checker: its registry, its thresholds, and the counters of the backends it has
probed. -/
structure HealthChecker where
  registry : BackendRegistry
  config : HealthConfig
  states : Dict String BackendHealthState

namespace HealthChecker

def new (registry : BackendRegistry) (config : HealthConfig) : HealthChecker :=
  ⟨registry, config, .empty⟩

/-- The counters of a backend that was never probed. -/
def freshState (c : HealthChecker) : BackendHealthState where
  failuresToDown := c.config.failuresToMarkDown
  successesToUp := c.config.successesToMarkUp

/-- The counters a probe of the backend works on. -/
def stateOf (c : HealthChecker) (id : String) : BackendHealthState :=
  (c.states.get? id).getD c.freshState

/-- The first step of a probe task: make sure the backend has counters. -/
def startProbe (c : HealthChecker) (backend : BackendInfo) : HealthChecker :=
  match c.states.get? backend.id with
  | some _ => c
  | none => { c with states := c.states.set backend.id c.freshState }

/-- The last step of a probe task: count the result, and write the status if it differs from
the one in the snapshot the task was started with. -/
def finishProbe (c : HealthChecker) (backend : BackendInfo) (result : HealthProbeResult) :
    HealthChecker :=
  let recorded := (c.stateOf backend.id).record result
  let counted := { c with states := c.states.set backend.id recorded.1 }
  if recorded.2 ≠ backend.status then
    { counted with registry := counted.registry.markStatus backend.id recorded.2 }
  else counted

/-- A whole probe task that no other task of the backend overlaps. -/
def probeOne (c : HealthChecker) (backend : BackendInfo) (result : HealthProbeResult) :
    HealthChecker :=
  (c.startProbe backend).finishProbe backend result

/-- A probe of a backend of the registry, with its result. The snapshot is the present
record. -/
def probe (c : HealthChecker) (event : String × HealthProbeResult) : Option HealthChecker :=
  (c.registry.getBackend event.1).map fun backend => c.probeOne backend event.2

/-! ## What a probe changes -/

theorem stateOf_startProbe (c : HealthChecker) (backend : BackendInfo) (j : String) :
    (c.startProbe backend).stateOf j = c.stateOf j := by
  unfold startProbe
  cases present : c.states.get? backend.id with
  | some _ => rfl
  | none =>
      by_cases same : j = backend.id
      · subst same
        simp only [stateOf, Dict.get?_set_self, present]
        rfl
      · simp only [stateOf, Dict.get?_set_of_ne _ _ same]
        rfl

@[simp] theorem registry_startProbe (c : HealthChecker) (backend : BackendInfo) :
    (c.startProbe backend).registry = c.registry := by
  unfold startProbe
  split <;> rfl

@[simp] theorem config_startProbe (c : HealthChecker) (backend : BackendInfo) :
    (c.startProbe backend).config = c.config := by
  unfold startProbe
  split <;> rfl

@[simp] theorem config_finishProbe (c : HealthChecker) (backend : BackendInfo)
    (result : HealthProbeResult) : (c.finishProbe backend result).config = c.config := by
  simp only [finishProbe]
  split <;> rfl

theorem states_finishProbe (c : HealthChecker) (backend : BackendInfo)
    (result : HealthProbeResult) :
    (c.finishProbe backend result).states =
      c.states.set backend.id ((c.stateOf backend.id).record result).1 := by
  simp only [finishProbe]
  split <;> rfl

/-- A result counts for its own backend and for no other. -/
theorem stateOf_finishProbe (c : HealthChecker) (backend : BackendInfo)
    (result : HealthProbeResult) (j : String) :
    (c.finishProbe backend result).stateOf j =
      if j = backend.id then ((c.stateOf j).record result).1 else c.stateOf j := by
  have fresh : (c.finishProbe backend result).freshState = c.freshState := by
    simp only [freshState, config_finishProbe]
  rw [stateOf, states_finishProbe, Dict.get?_set, fresh]
  split
  · rename_i same
    rw [same]
    rfl
  · rfl

/-- The status the counters gave is written when it differs from the one in the snapshot, and
no other backend is touched. -/
theorem getBackend_finishProbe (c : HealthChecker) (backend : BackendInfo)
    (result : HealthProbeResult) (j : String) :
    (c.finishProbe backend result).registry.getBackend j =
      if j = backend.id ∧ ((c.stateOf backend.id).record result).2 ≠ backend.status then
        (c.registry.getBackend j).map fun b =>
          { b with status := ((c.stateOf backend.id).record result).2 }
      else c.registry.getBackend j := by
  simp only [finishProbe]
  split
  · rename_i written
    simp only [BackendRegistry.getBackend_markStatus, written, ne_eq, not_false_eq_true, and_true]
  · rename_i unchanged
    rw [if_neg fun ⟨_, written⟩ => unchanged written]

/-- A task that finishes changes nothing but a status. -/
theorem grounded_finishProbe {start : BackendRegistry} {c : HealthChecker}
    (grounded : BackendRegistry.Grounded start c.registry) (backend : BackendInfo)
    (result : HealthProbeResult) :
    BackendRegistry.Grounded start (c.finishProbe backend result).registry := by
  simp only [finishProbe]
  split
  · exact grounded.markStatus _ _
  · exact grounded

/-- A known backend shows the status the counters gave, or the one it had if it was not
written. -/
theorem status?_finishProbe {c : HealthChecker} {backend : BackendInfo}
    {before : BackendStatus} (known : c.registry.status? backend.id = some before)
    (result : HealthProbeResult) :
    (c.finishProbe backend result).registry.status? backend.id =
      some (if ((c.stateOf backend.id).record result).2 ≠ backend.status then
        ((c.stateOf backend.id).record result).2 else before) := by
  obtain ⟨b, found, rfl⟩ := Option.map_eq_some_iff.mp known
  rw [BackendRegistry.status?, getBackend_finishProbe, found]
  split
  · rename_i written
    rw [if_pos written.2]
    rfl
  · rename_i unchanged
    rw [if_neg fun written => unchanged ⟨rfl, written⟩]
    rfl

@[simp] theorem config_probeOne (c : HealthChecker) (backend : BackendInfo)
    (result : HealthProbeResult) : (c.probeOne backend result).config = c.config := by
  rw [probeOne, config_finishProbe, config_startProbe]

/-- A probe counts its result for its own backend and for no other. -/
theorem stateOf_probeOne (c : HealthChecker) (backend : BackendInfo)
    (result : HealthProbeResult) (j : String) :
    (c.probeOne backend result).stateOf j =
      if j = backend.id then ((c.stateOf j).record result).1 else c.stateOf j := by
  rw [probeOne, stateOf_finishProbe, stateOf_startProbe]

/-- **After a probe the registry shows the status the counters gave**, whether or not it had
to be written. Other backends keep theirs. -/
theorem getBackend_probeOne {c : HealthChecker} {backend : BackendInfo}
    (present : c.registry.getBackend backend.id = some backend) (result : HealthProbeResult)
    (j : String) :
    (c.probeOne backend result).registry.getBackend j =
      if j = backend.id then
        some { backend with status := ((c.stateOf backend.id).record result).2 }
      else c.registry.getBackend j := by
  rw [probeOne, getBackend_finishProbe, stateOf_startProbe, registry_startProbe]
  by_cases own : j = backend.id
  · rw [own, present]
    split
    · simp
    · rename_i unchanged
      have same : ((c.stateOf backend.id).record result).2 = backend.status := by
        simpa using unchanged
      simp [same]
  · simp [own]

end HealthChecker

end AgentServe
