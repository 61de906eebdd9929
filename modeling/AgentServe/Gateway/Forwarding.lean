import AgentServe.Gateway.Steps
import AgentServe.Lib.Run

/-!
# The backend a request is forwarded to

A request is bound to a backend when it arrives, and only healthy backends can be
chosen then. It is forwarded later: a call when the request leaves `gate`, which may
take the whole timeout of the queue, and a stream when the server asks for the first
chunk. The status is not looked at again.

So the backend of a request is one that was healthy when the request arrived, and
when the request is forwarded the backend has the status last written to it since
(`forwarded_status`). A backend that went down in between is forwarded to all the
same (`forwarded_after_outage`).
-/

set_option autoImplicit false

namespace AgentServe

open Lib

/-- The status an event writes to a backend. -/
def GatewayEvent.marks {ρ : Type} (id : String) : GatewayEvent ρ → Option BackendStatus
  | .markStatus j status => if j = id then some status else none
  | _ => none

/-- The status of a backend that was healthy before some events: the one last written. -/
def statusSince {ρ : Type} (id : String) (events : List (GatewayEvent ρ)) : BackendStatus :=
  ((events.filterMap (GatewayEvent.marks id)).getLast?).getD .healthy

theorem statusSince_concat {ρ : Type} (id : String) (events : List (GatewayEvent ρ))
    (e : GatewayEvent ρ) :
    statusSince id (events ++ [e]) = (e.marks id).getD (statusSince id events) := by
  rw [statusSince, List.filterMap_append]
  cases written : e.marks id with
  | none => simp [written, statusSince]
  | some status => simp [written]

/-- The stage in which a call waits for the reply of its backend. -/
def Stage.isCompleting : Stage → Bool
  | .completing => true
  | _ => false

namespace Gateway

variable {ρ : Type} [DecidableEq ρ]

/-- A step starts the call of a request to a backend, or its stream. -/
def Forwards (g h : Gateway ρ) (k : ρ) (b : BackendInfo) : Prop :=
  ∃ r, h.requests.get? k = some r ∧ r.backend = some b ∧
    ((r.stage = .completing ∧ ∀ q, g.requests.get? k = some q → q.stage ≠ .completing) ∨
      r.stage = .awaiting ∧ ∃ q, g.requests.get? k = some q ∧ q.stage = .pendingBody)

/-- A request arrived with a backend that was healthy then, and the backend now has the status last
written to it since. -/
def ChosenHealthy (config : GatewayConfig) (past : List (GatewayEvent ρ)) (g : Gateway ρ) (k : ρ)
    (b : BackendInfo) : Prop :=
  ∃ front input decision now made clock since m,
    past = front ++ .arrive k input decision now made clock :: since ∧
      run step (new config) front = some m ∧ b ∈ m.registry.getHealthyBackends b.tier ∧
      g.registry.status? b.id = some (statusSince b.id since)

/-- The status of a known backend after a step. -/
theorem status_of_does {g h : Gateway ρ} {e : GatewayEvent ρ} (does : g.Does e h) {id : String}
    {before : BackendStatus} (was : g.registry.status? id = some before) :
    h.registry.status? id = some ((e.marks id).getD before) := by
  rw [registry_of_does does]
  cases e with
  | markStatus j status =>
      rw [written, BackendRegistry.status?_markStatus, was, GatewayEvent.marks]
      by_cases own : id = j
      · rw [if_pos own, if_pos own.symm]
        rfl
      · rw [if_neg own, if_neg fun same => own same.symm]
        rfl
  | _ => exact was

/-- What holds of every reachable state: it is the end of its run, and every request was healthy
when it was chosen. -/
structure Followed (config : GatewayConfig) (past : List (GatewayEvent ρ)) (g : Gateway ρ) :
    Prop where
  ran : run step (new config) past = some g
  chosen : ∀ k r b, g.requests.get? k = some r → r.backend = some b →
    ChosenHealthy config past g k b

/-- Step lemma: a step writes at most one status, and an arriving request chooses among the healthy
backends. -/
theorem followed_step {config : GatewayConfig} {past : List (GatewayEvent ρ)} {g h : Gateway ρ}
    {e : GatewayEvent ρ} (followed : Followed config past g) (stepped : g.step e = some h) :
    Followed config (past ++ [e]) h := by
  have does : g.Does e h := does_of_step stepped
  refine ⟨run_concat_eq_some.mpr ⟨g, followed.ran, stepped⟩, ?_⟩
  intro k r b found bound
  rcases origin_of_does does found with
    ⟨q, before, _, same⟩ | ⟨input, decision, now, made, clock, rfl, _, healthy⟩
  · obtain ⟨front, input, decision, now, made, clock, since, m, split, first, member, status⟩ :=
      followed.chosen k q b before (same.symm.trans bound)
    refine ⟨front, input, decision, now, made, clock, since ++ [e], m, ?_, first, member, ?_⟩
    · rw [split, List.append_assoc, List.cons_append]
    · rw [statusSince_concat]
      exact status_of_does does status
  · have member := healthy b bound
    obtain ⟨at_id, _, up⟩ := BackendRegistry.mem_getHealthyBackends.mp member
    refine ⟨past, input, decision, now, made, clock, [], g, rfl, followed.ran, member, ?_⟩
    have was : g.registry.status? b.id = some .healthy := by
      rw [BackendRegistry.status?, at_id, Option.map_some, up]
    exact status_of_does does was

theorem followed_new (config : GatewayConfig) : Followed config [] (new config : Gateway ρ) where
  ran := rfl
  chosen := by
    intro k r b found
    cases found

/-- **The status of a backend that is forwarded to.** When a request is forwarded, its backend is
one that was healthy when the request arrived, and it has the status last written to it since: it is
healthy exactly if nothing was written or the last status written is healthy. -/
theorem forwarded_status (config : GatewayConfig) (events : List (GatewayEvent ρ)) (g h : Gateway ρ)
    (ran : run step (new config) events = some g) (e : GatewayEvent ρ)
    (stepped : g.step e = some h) (k : ρ) (b : BackendInfo) (forwards : Forwards g h k b) :
    ∃ front input decision now made clock since m,
      events ++ [e] = front ++ .arrive k input decision now made clock :: since ∧
        run step (new config) front = some m ∧ b ∈ m.registry.getHealthyBackends b.tier ∧
        h.registry.status? b.id = some (statusSince b.id since) := by
  have followed : Followed config events g :=
    past_invariant (fun _ _ _ _ followed stepped => followed_step followed stepped)
      (followed_new config) ran
  obtain ⟨r, found, bound, _⟩ := forwards
  exact (followed_step followed stepped).chosen k r b found bound

/-! ## An outage during the wait for a slot -/

/-- One backend with one slot. -/
def oneSlot : GatewayConfig where
  backends := [
    { id := "big-0", tier := .big, baseUrl := "http://vllm-big:8001", gpu := 1, maxInflight := 1 }]

/-- A call waits for the slot of another, and the backend goes down before the slot is free. -/
def outageInQueue : List (GatewayEvent ℕ) := [
  .arrive 0 (hello "a" false) (greeted .big "big-0") 0 0 AdmissionSystem.atStart,
  .arrive 1 (hello "b" false) (greeted .big "big-0") 0 0 AdmissionSystem.atStart,
  .markStatus "big-0" .down, .reply 0 (.obj []) 10]

/-- The call is forwarded when it gets the slot, to the backend that is down. -/
theorem outage_forwards :
    ∃ g h b, run step (new oneSlot) outageInQueue = some g ∧
      g.step (.resume 1 10) = some h ∧ Forwards g h 1 b ∧ b.id = "big-0" ∧
      h.registry.status? "big-0" = some .down := by
  have before : ((run step (new oneSlot) outageInQueue).map fun g =>
      (g.requests.get? 1).map fun r => r.stage.isCompleting) = some (some false) := by
    decide +kernel
  have after : ((run step (new oneSlot) (outageInQueue ++ [.resume 1 10])).map fun h =>
      (h.registry.status? "big-0", (h.requests.get? 1).map fun r =>
        (r.stage.isCompleting, r.backend.map BackendInfo.id))) =
      some (some .down, some (true, some "big-0")) := by
    decide +kernel
  obtain ⟨g, ran, waiting⟩ := Option.map_eq_some_iff.mp before
  obtain ⟨h, on, shown⟩ := Option.map_eq_some_iff.mp after
  obtain ⟨m, first, stepped⟩ := run_concat_eq_some.mp on
  obtain rfl : g = m := Option.some.inj (ran.symm.trans first)
  obtain ⟨down, called⟩ := Prod.mk.inj shown
  obtain ⟨r, found, stage⟩ := Option.map_eq_some_iff.mp called
  obtain ⟨completing, bound⟩ := Prod.mk.inj stage
  obtain ⟨b, backend, named⟩ := Option.map_eq_some_iff.mp bound
  refine ⟨g, h, b, ran, stepped, ⟨r, found, backend, .inl ⟨?_, ?_⟩⟩, named, down⟩
  · cases at_stage : r.stage with
    | completing => rfl
    | _ => simp [at_stage, Stage.isCompleting] at completing
  · intro q at_one same
    simp [at_one, same, Stage.isCompleting] at waiting

/-- A request can be forwarded to a backend that is not healthy. -/
theorem forwarded_after_outage :
    ¬ ∀ (config : GatewayConfig) (events : List (GatewayEvent ℕ)) (g h : Gateway ℕ),
      run step (new config) events = some g → ∀ e, g.step e = some h →
        ∀ k b, Forwards g h k b → h.registry.status? b.id = some .healthy := by
  intro always
  obtain ⟨g, h, b, ran, stepped, forwards, named, down⟩ := outage_forwards
  have healthy := always oneSlot outageInQueue g h ran _ stepped 1 b forwards
  rw [named, down] at healthy
  cases healthy

/-- The status of the backend that went down is the one written during the wait. -/
theorem forwarded_status_after_outage :
    ∃ (b : BackendInfo) (h : Gateway ℕ),
      ∃ front input decision now made clock since m,
        outageInQueue ++ [.resume 1 10] =
            front ++ .arrive 1 input decision now made clock :: since ∧
          run step (new oneSlot) front = some m ∧ b ∈ m.registry.getHealthyBackends b.tier ∧
          h.registry.status? b.id = some (statusSince b.id since) := by
  obtain ⟨g, h, b, ran, stepped, forwards, _⟩ := outage_forwards
  exact ⟨b, h, forwarded_status oneSlot outageInQueue g h ran _ stepped 1 b forwards⟩

end Gateway

end AgentServe
