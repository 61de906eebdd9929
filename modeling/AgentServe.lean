import AgentServe.Accounting.Accountant
import AgentServe.Accounting.Durability
import AgentServe.Accounting.RawWindow
import AgentServe.Accounting.Reconfigured
import AgentServe.Accounting.Restore
import AgentServe.Accounting.Snapshot
import AgentServe.Accounting.SnapshotText
import AgentServe.Accounting.Window
import AgentServe.Admission.Controller
import AgentServe.Admission.ControllerRuns
import AgentServe.Admission.Fairness
import AgentServe.Admission.FullQueue
import AgentServe.Admission.NoTrace
import AgentServe.Admission.OverRelease
import AgentServe.Admission.Overrun
import AgentServe.Admission.Queue
import AgentServe.Admission.QueueRuns
import AgentServe.Affinity.Broken
import AgentServe.Affinity.Disruption
import AgentServe.Affinity.Expiry
import AgentServe.Affinity.Operations
import AgentServe.Affinity.Outage
import AgentServe.Affinity.Scheduler
import AgentServe.Affinity.Turns
import AgentServe.Backends.Health
import AgentServe.Backends.Hysteresis
import AgentServe.Backends.Probes
import AgentServe.Backends.Reentry
import AgentServe.Backends.Registry
import AgentServe.Backends.Repair
import AgentServe.Config.Loader
import AgentServe.Config.Models
import AgentServe.Core.Json
import AgentServe.Core.JsonLines
import AgentServe.Core.JsonReader
import AgentServe.Core.JsonRoundTrip
import AgentServe.Core.JsonText
import AgentServe.Core.Models
import AgentServe.Core.Schemas
import AgentServe.DemoAgent.Answers
import AgentServe.DemoAgent.Calculator
import AgentServe.DemoAgent.FileReader
import AgentServe.DemoAgent.Loop
import AgentServe.DemoAgent.Search
import AgentServe.DemoAgent.Tools
import AgentServe.DemoAgent.Transcript
import AgentServe.Gateway.Answers
import AgentServe.Gateway.Budget
import AgentServe.Gateway.Capacity
import AgentServe.Gateway.Causes
import AgentServe.Gateway.Chat
import AgentServe.Gateway.Drained
import AgentServe.Gateway.Forwarding
import AgentServe.Gateway.Handler
import AgentServe.Gateway.Identity
import AgentServe.Gateway.Latency
import AgentServe.Gateway.Lifespan
import AgentServe.Gateway.Metadata
import AgentServe.Gateway.NoTrace
import AgentServe.Gateway.Outcomes
import AgentServe.Gateway.Payload
import AgentServe.Gateway.Progress
import AgentServe.Gateway.Rejections
import AgentServe.Gateway.Responses
import AgentServe.Gateway.Sessions
import AgentServe.Gateway.Slots
import AgentServe.Gateway.Status
import AgentServe.Gateway.Steps
import AgentServe.Gateway.Streams
import AgentServe.Lib.Argmax
import AgentServe.Lib.ArrivalOrder
import AgentServe.Lib.Csv
import AgentServe.Lib.Dict
import AgentServe.Lib.EventStream
import AgentServe.Lib.Floats
import AgentServe.Lib.Ledger
import AgentServe.Lib.Lines
import AgentServe.Lib.Lists
import AgentServe.Lib.Numbers
import AgentServe.Lib.Paths
import AgentServe.Lib.Python
import AgentServe.Lib.Run
import AgentServe.Lib.SelfDelimiting
import AgentServe.Lib.Semaphore
import AgentServe.Lib.Sha1
import AgentServe.Lib.Sha256
import AgentServe.Lib.Texts
import AgentServe.Lib.Yaml
import AgentServe.LoadGen.Generator
import AgentServe.LoadGen.Replay
import AgentServe.LoadGen.Runner
import AgentServe.LoadGen.Study
import AgentServe.Routing.Classifier
import AgentServe.Routing.ClassifierRuns
import AgentServe.Routing.Replies
import AgentServe.Routing.Router
import AgentServe.Routing.Rules
import AgentServe.Telemetry.Logging
