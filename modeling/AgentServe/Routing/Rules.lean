import AgentServe.Backends.Registry
import AgentServe.Core.Schemas
import Mathlib.Algebra.GroupWithZero.Nat

/-!
# Routing rules

The rules that need no model: a hint of the client, a tool result that follows up on
a call of the assigned backend, and a long prompt. A rule never selects the automatic
tier, as long as no backend is of that tier (`selectTier_ne_auto`).
-/

set_option autoImplicit false

namespace AgentServe

/-- The backend a tool result follows up on, if the rule is enabled. -/
def toolFollowup (config : RoutingConfig) (registry : BackendRegistry) (session : SessionContext)
    (messages : List ChatMessage) : Option BackendInfo :=
  match session.assignedBackendId, messages.getLast? with
  | some id, some last =>
    if config.toolFollowupStaysSameTier ∧ last.role = "tool" then registry.getBackend id else none
  | _, _ => none

def totalChars (messages : List ChatMessage) : ℕ :=
  (messages.map fun m => (m.content.getD "").length).sum

/-- The tier and the reason of the first rule that applies. -/
def selectTier (config : RoutingConfig) (registry : BackendRegistry) (session : SessionContext)
    (messages : List ChatMessage) : Option (Tier × RoutingReason) :=
  if session.tierHint ≠ .auto then some (session.tierHint, .tierHint)
  else
    match toolFollowup config registry session messages with
    | some assigned => some (assigned.tier, .toolFollowup)
    | none =>
      if config.promptLengthThreshold < totalChars messages then some (.big, .promptLength)
      else none

namespace BackendRegistry

/-- Every backend is of one of the two tiers. -/
def Tiered (r : BackendRegistry) : Prop := ∀ b ∈ r.allBackends, b.tier ≠ .auto

instance (r : BackendRegistry) : Decidable r.Tiered :=
  inferInstanceAs (Decidable (∀ b ∈ r.allBackends, b.tier ≠ .auto))

/-- Nothing is in the pool of the automatic tier. -/
theorem Tiered.getHealthyBackends_auto {r : BackendRegistry} (tiered : r.Tiered) :
    r.getHealthyBackends .auto = [] := by
  apply List.eq_nil_iff_forall_not_mem.mpr
  intro b member
  obtain ⟨found, tier, _⟩ := mem_getHealthyBackends.mp member
  exact tiered b (mem_allBackends.mpr found) tier

/-- A healthy backend is in the pool of one of the two tiers. -/
theorem Tiered.exists_pool {r : BackendRegistry} (tiered : r.Tiered) {b : BackendInfo}
    (filed : b ∈ r.allBackends) (healthy : b.status = .healthy) :
    r.getHealthyBackends .small ≠ [] ∨ r.getHealthyBackends .big ≠ [] := by
  have member : b ∈ r.getHealthyBackends b.tier :=
    mem_getHealthyBackends.mpr ⟨mem_allBackends.mp filed, rfl, healthy⟩
  cases tier : b.tier with
  | small => exact .inl (List.ne_nil_of_mem (tier ▸ member))
  | big => exact .inr (List.ne_nil_of_mem (tier ▸ member))
  | auto => exact absurd tier (tiered b filed)

end BackendRegistry

theorem toolFollowup_mem {config : RoutingConfig} {registry : BackendRegistry}
    {session : SessionContext} {messages : List ChatMessage} {b : BackendInfo}
    (followup : toolFollowup config registry session messages = some b) :
    ∃ id, session.assignedBackendId = some id ∧ registry.getBackend id = some b := by
  unfold toolFollowup at followup
  split at followup
  · rename_i id last assigned _
    split at followup
    · exact ⟨id, assigned, followup⟩
    · cases followup
  · cases followup

/-- A rule never selects the automatic tier. -/
theorem selectTier_ne_auto {config : RoutingConfig} {registry : BackendRegistry}
    (tiered : registry.Tiered) {session : SessionContext} {messages : List ChatMessage}
    {tier : Tier} {reason : RoutingReason}
    (selected : selectTier config registry session messages = some (tier, reason)) :
    tier ≠ .auto := by
  unfold selectTier at selected
  split at selected
  · rename_i hinted
    cases selected
    exact hinted
  · split at selected
    · rename_i assigned followup
      cases selected
      obtain ⟨id, _, found⟩ := toolFollowup_mem followup
      have filed : assigned ∈ registry.allBackends :=
        BackendRegistry.mem_allBackends.mpr ((BackendRegistry.getBackend_id found).symm ▸ found)
      exact tiered assigned filed
    · split at selected
      · cases selected
        decide
      · cases selected

/-- The rule about tool results needs an assigned backend. -/
theorem selectTier_reason {config : RoutingConfig} {registry : BackendRegistry}
    {session : SessionContext} {messages : List ChatMessage} {tier : Tier} {reason : RoutingReason}
    (unassigned : session.assignedBackendId = none)
    (selected : selectTier config registry session messages = some (tier, reason)) :
    reason = .tierHint ∨ reason = .promptLength := by
  unfold selectTier at selected
  split at selected
  · cases selected
    exact .inl rfl
  · split at selected
    · rename_i assigned followup
      obtain ⟨id, assigned, _⟩ := toolFollowup_mem followup
      rw [unassigned] at assigned
      cases assigned
    · split at selected
      · cases selected
        exact .inr rfl
      · cases selected

end AgentServe
