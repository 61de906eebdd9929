import Mathlib.Data.Rat.Defs
import Mathlib.Tactic.Common

/-!
# Core enumerations, records and exceptions

The value types every part of the gateway shares: tiers, backend statuses,
probe results and request outcomes, the records passed between the stages of a
request, and the exceptions a stage may raise. Enumerations of the program are
strings as well as members, so each has the text of its members (`value`), and
a tier can be looked up by its text (`Tier.ofValue?`).

Clock readings are rational numbers of seconds. Sums and differences of clock
readings are exact.
-/

set_option autoImplicit false

namespace AgentServe

/-- A reading of the monotonic clock, in seconds. -/
abbrev Time := ℚ

/-! ## Enumerations -/

inductive Tier where
  | small
  | big
  | auto
deriving DecidableEq, Repr

def Tier.value : Tier → String
  | .small => "small"
  | .big => "big"
  | .auto => "auto"

/-- The lookup of a tier by its text. -/
def Tier.ofValue? : String → Option Tier
  | "small" => some .small
  | "big" => some .big
  | "auto" => some .auto
  | _ => none

theorem Tier.ofValue?_value (t : Tier) : Tier.ofValue? t.value = some t := by
  cases t <;> rfl

inductive BackendStatus where
  | healthy
  | degraded
  | down
deriving DecidableEq, Repr

inductive RoutingReason where
  | tierHint
  | promptLength
  | toolFollowup
  | classifier
  | fallback
deriving DecidableEq, Repr

inductive RequestOutcome where
  | success
  | upstreamError
  | gatewayError
  | budgetRejected
  | queueRejected
deriving DecidableEq, Repr

inductive HealthProbeResult where
  | ok
  | timeout
  | error
deriving DecidableEq, Repr

/-! ## Records -/

structure BackendInfo where
  id : String
  tier : Tier
  baseUrl : String
  gpu : ℤ
  maxInflight : ℤ
  model : String := ""
  status : BackendStatus := .healthy
deriving DecidableEq, Repr

structure SessionContext where
  sessionId : String
  agentId : String
  turn : ℤ := 0
  assignedBackendId : Option String := none
  tierHint : Tier := .auto
deriving DecidableEq, Repr

structure RoutingDecision where
  tier : Tier
  backendId : String
  reason : RoutingReason
  classifierUsed : Bool := false
  queueWaitMs : ℚ := 0
  affinityHit : Bool := false
deriving DecidableEq, Repr

structure AgentServeMeta where
  tier : Tier
  backendId : String
  queueWaitMs : ℚ
  affinityHit : Bool
  routingReason : RoutingReason
deriving DecidableEq, Repr

/-! ## Exceptions -/

/-- The exceptions of the gateway, with the arguments each is raised with. -/
inductive GatewayException where
  | budgetExceeded (agentId : String) (tokensUsed budget : ℤ)
  | queueFull (retryAfterSeconds : ℤ)
  | backendUnavailable (tier : Tier)
deriving DecidableEq, Repr

/-- The HTTP status a handler answers with. -/
def GatewayException.statusCode : GatewayException → ℕ
  | .budgetExceeded _ _ _ => 429
  | .queueFull _ => 429
  | .backendUnavailable _ => 503

/-- The message a handler answers with. -/
def GatewayException.detail : GatewayException → String
  | .budgetExceeded agentId tokensUsed budget =>
    "Agent '" ++ agentId ++ "' has exceeded its token budget: " ++ toString tokensUsed ++
      " used of " ++ toString budget ++ " allowed."
  | .queueFull retryAfterSeconds =>
    "Request queue is full. Retry after " ++ toString retryAfterSeconds ++ " seconds."
  | .backendUnavailable tier => "No healthy backend available for tier '" ++ tier.value ++ "'."

end AgentServe
