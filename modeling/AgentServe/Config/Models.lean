import AgentServe.Core.Models

/-!
# Configuration

The sections of the gateway's configuration document with their defaults, and
the configuration the gateway is shipped with.
-/

set_option autoImplicit false

namespace AgentServe

structure BackendConfig where
  id : String
  tier : Tier
  baseUrl : String
  gpu : ℤ
  maxInflight : ℤ
  model : String := ""
deriving DecidableEq, Repr

structure AdmissionConfig where
  defaultTokenBudget : ℤ := 100000
  budgetWindowSeconds : ℤ := 3600
  maxQueueSize : ℤ := 256
  queueTimeoutSeconds : ℤ := 30
deriving DecidableEq, Repr

structure RoutingConfig where
  promptLengthThreshold : ℤ := 2000
  classifierCacheTtlSeconds : ℤ := 300
  toolFollowupStaysSameTier : Bool := true
deriving DecidableEq, Repr

structure AffinityConfig where
  enabled : Bool := true
  stickyTtlSeconds : ℤ := 1800
  rebalanceOnBackendRecovery : Bool := false
deriving DecidableEq, Repr

structure HealthConfig where
  probeIntervalSeconds : ℤ := 10
  failuresToMarkDown : ℤ := 3
  successesToMarkUp : ℤ := 2
  probeTimeoutSeconds : ℤ := 5
deriving DecidableEq, Repr

structure TelemetryConfig where
  otlpEndpoint : String := "http://otel-collector:4317"
  prometheusPath : String := "/metrics"
  logLevel : String := "info"
deriving DecidableEq, Repr

structure GatewayConfig where
  backends : List BackendConfig
  admission : AdmissionConfig := {}
  routing : RoutingConfig := {}
  affinity : AffinityConfig := {}
  health : HealthConfig := {}
  telemetry : TelemetryConfig := {}
deriving DecidableEq, Repr

/-- The configuration the gateway is shipped with. -/
def shippedConfig : GatewayConfig where
  backends := [
    { id := "big-0", tier := .big, baseUrl := "http://vllm-big:8001", gpu := 1,
      maxInflight := 32, model := "RedHatAI/Qwen2.5-72B-Instruct-FP8-dynamic" },
    { id := "small-0", tier := .small, baseUrl := "http://vllm-small-0:8002", gpu := 0,
      maxInflight := 64, model := "Qwen/Qwen2.5-7B-Instruct" },
    { id := "small-1", tier := .small, baseUrl := "http://vllm-small-1:8003", gpu := 0,
      maxInflight := 64, model := "Qwen/Qwen2.5-7B-Instruct" }]

end AgentServe
