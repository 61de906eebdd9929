import AgentServe.Admission.NoTrace
import AgentServe.Gateway.Steps

/-!
# Rejected requests

A request that `gate` raises for is answered in the same stretch, and the handler gives no slot
back for it. So the steps of the request, its answer included, leave no trace at the admission
controller (`rejection_leaves_no_trace`): the gateway is one of the systems that carry a controller
along (`Gateway.host`).
-/

set_option autoImplicit false

namespace AgentServe

open Lib

namespace Gateway

variable {ρ : Type} [DecidableEq ρ]

/-- A step is one of a request. -/
def own (k : ρ) (g : Gateway ρ) (e : GatewayEvent ρ) : Bool := (g.actor e).any fun a => a.1 = k

/-- The clock readings with which a step looks into windows. -/
def readings (g : Gateway ρ) : GatewayEvent ρ → List Time
  | .arrive _ input _ _ _ clock =>
    g.admission.controller.readings (buildSession input) (estimatedTokens input) clock
  | _ => []

/-- What holds of every reachable state. -/
structure Carried (g : Gateway ρ) : Prop where
  linked : g.Linked
  sound : g.admission.Sound

/-- A step of the gateway is a step of its controller by the same request, or leaves it alone. -/
theorem openStep_of_does {g h : Gateway ρ} {e : GatewayEvent ρ} (linked : g.Linked)
    (does : g.Does e h) :
    h.admission = g.admission ∨ ∃ a, g.admission.openStep a = some h.admission ∧
      (∀ k, g.admission.own k a = g.own k e) ∧ g.admission.readings a ⊆ g.readings e := by
  rcases admission_of_does linked does with same | ⟨a, stepped, actor, carries⟩
  · exact .inl same
  · refine .inr ⟨.call a, stepped, fun k => ?_, ?_⟩
    · rw [AdmissionSystem.own, actor, own]
    · cases carries with
      | gate => exact List.Subset.refl _
      | _ => exact List.nil_subset _

/-- Step lemma: every step keeps the state carried. -/
theorem carried_step {g h : Gateway ρ} {e : GatewayEvent ρ} (carried : g.Carried)
    (stepped : g.step e = some h) : h.Carried := by
  have does := does_of_step stepped
  refine ⟨linked_of_does carried.linked does, ?_⟩
  rcases openStep_of_does carried.linked does with same | ⟨a, inside, _⟩
  · exact same ▸ carried.sound
  · exact AdmissionSystem.sound_openStep carried.sound inside

/-- The gateway carries its admission controller along. -/
def host (ρ : Type) [DecidableEq ρ] : AdmissionHost ρ (Gateway ρ) (GatewayEvent ρ) where
  step := step
  admission := admission
  own := own
  readings := readings
  Kept := Carried
  sound := fun _ carried => carried.sound
  keeps := fun _ _ _ carried stepped => carried_step carried stepped
  projects := fun _ _ _ carried stepped => openStep_of_does carried.linked (does_of_step stepped)

end Gateway

/-- **A rejected admission leaves no trace.** In every run of the controller, with releases by
anybody, a call of `gate` that raised has had no effect on the slots, the counts of the queues and
the records, and no later call of the accountant can tell that it was made. In every run of the
gateway this also holds of the request whose exception was turned into a response. -/
theorem rejection_leaves_no_trace {ρ : Type} [DecidableEq ρ] (k : ρ) (session : SessionContext)
    (tier : Tier) (error : Raised) :
    (∀ (config : AdmissionConfig) (accountant : TokenAccountant) (registry : BackendRegistry)
        (events : List (OpenEvent ρ)) (s : AdmissionSystem ρ),
        run AdmissionSystem.openStep (.new config accountant registry) events = some s →
        s.tickets.get? k = some ⟨session, tier, .raised error⟩ →
        (AdmissionSystem.host ρ).NoTrace k (.new config accountant registry) events) ∧
      ∀ (config : GatewayConfig) (events : List (GatewayEvent ρ)) (g : Gateway ρ),
        run Gateway.step (.new config) events = some g →
        g.admission.tickets.get? k = some ⟨session, tier, .raised error⟩ →
        (Gateway.host ρ).NoTrace k (.new config) events := by
  constructor
  · intro config accountant registry events s ran raised
    exact (AdmissionSystem.host ρ).noTrace_of_raised
      (AdmissionSystem.sound_new config accountant registry) rfl ran raised
  · intro config events g ran raised
    refine (Gateway.host ρ).noTrace_of_raised ⟨?_, ?_⟩ rfl ran raised
    · intro j x ticket
      cases ticket
    · exact AdmissionSystem.sound_new _ _ _

/-! ## Timeouts -/

/-- One backend, with one slot. -/
def oneSlot : GatewayConfig where
  backends := [
    { id := "big-0", tier := .big, baseUrl := "http://vllm-big:8001", gpu := 1,
      maxInflight := 1 }]

/-- A slot is granted to a call that has just timed out. -/
def racedTimeout : List (OpenEvent ℕ) := [
  .call (.gate 0 AdmissionSystem.oneSession .big 50 AdmissionSystem.atStart),
  .call (.gate 1 AdmissionSystem.oneSession .big 50 AdmissionSystem.atStart),
  .call (.release 0), .call (.interrupt 1 .timeout), .call (.resume 1 30)]

/-- A request times out while another one of its session holds the slot. -/
def timeoutBehindOwnSession : List (GatewayEvent ℕ) := [
  .arrive 0 (hello "s" false) (greeted .big "big-0") 0 0 AdmissionSystem.atStart,
  .arrive 1 (hello "s" false) (greeted .big "big-0") 0 0 AdmissionSystem.atStart,
  .interrupt 1 .timeout, .resume 1 30]

/-- Neither timeout leaves a trace. -/
theorem rejection_leaves_no_trace_after_timeouts :
    (AdmissionSystem.host ℕ).NoTrace 1
        (.new oneSlot.admission (.new oneSlot.admission) (.new oneSlot)) racedTimeout ∧
      (Gateway.host ℕ).NoTrace 1 (.new oneSlot) timeoutBehindOwnSession := by
  have raced : ((run AdmissionSystem.openStep
      (.new oneSlot.admission (.new oneSlot.admission) (.new oneSlot)) racedTimeout).bind
        fun s => s.tickets.get? 1) =
      some ⟨AdmissionSystem.oneSession, .big, .raised (.exception (.queueFull 30))⟩ := by
    decide +kernel
  have behind : ((run Gateway.step (.new oneSlot) timeoutBehindOwnSession).bind
        fun g => g.admission.tickets.get? 1) =
      some ⟨buildSession (hello "s" false), .big, .raised (.exception (.queueFull 30))⟩ := by
    decide +kernel
  obtain ⟨s, ran, raised⟩ := Option.bind_eq_some_iff.mp raced
  obtain ⟨g, went, rejected⟩ := Option.bind_eq_some_iff.mp behind
  exact ⟨(rejection_leaves_no_trace 1 _ _ _).1 _ _ _ racedTimeout s ran raised,
    (rejection_leaves_no_trace 1 _ _ _).2 oneSlot timeoutBehindOwnSession g went rejected⟩

end AgentServe
