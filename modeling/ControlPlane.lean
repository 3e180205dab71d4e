import ControlPlane.Store.Counters
import ControlPlane.Store.Idempotency
import ControlPlane.Lib.Digraph
import ControlPlane.Metacognition.Graph
import ControlPlane.Metacognition.Cycle
import ControlPlane.Metacognition.CriticalPath
import ControlPlane.Metacognition.Analysis
import ControlPlane.Store.Completion
import ControlPlane.Store.Commute
import ControlPlane.Lib.FairShare
import ControlPlane.Coordination.Plan
import ControlPlane.Coordination.Conservation
import ControlPlane.Coordination.Safety
import ControlPlane.Coordination.Progress
import ControlPlane.Fleet.Job
import ControlPlane.Fleet.Workspace
import ControlPlane.Lib.Run
import ControlPlane.Fleet.Delivery
import ControlPlane.Fleet.Supervisor
import ControlPlane.Fleet.Attempts
import ControlPlane.Fleet.Branch
import ControlPlane.Fleet.Log
import ControlPlane.Fleet.Overlap
import ControlPlane.Fleet.TaskEvents
import ControlPlane.Fleet.Verified
import ControlPlane.Lib.Broadcast
import ControlPlane.Store.Hub
import ControlPlane.Store.Feed
import ControlPlane.Transport.UiSocket
import ControlPlane.Lib.Hex
import ControlPlane.Lib.Keyset
import ControlPlane.Timeline.Cursor
import ControlPlane.Timeline.Page
import ControlPlane.Timeline.Walk
import ControlPlane.Fleet.JobFile
import ControlPlane.Fleet.QueueFile
import ControlPlane.Fleet.Dispatcher
import ControlPlane.Fleet.RoundTrip
import ControlPlane.Fleet.Naming
import ControlPlane.Lib.HashMap
import ControlPlane.Lib.Binary64
import ControlPlane.Runtime.Model
import ControlPlane.Runtime.Monitor
import ControlPlane.Runtime.Commands
import ControlPlane.Runtime.Queue
import ControlPlane.Runtime.Resolution
import ControlPlane.Runtime.Tokens
import ControlPlane.Runtime.Snapshot
import ControlPlane.Runtime.Rows
import ControlPlane.Runtime.Merge
import ControlPlane.Transport.Payload
import ControlPlane.Transport.Handlers
import ControlPlane.Transport.Accounting
import ControlPlane.Transport.Tcp
import ControlPlane.Transport.Udp
import ControlPlane.Lib.Shadow
import ControlPlane.Store.Isolation
import ControlPlane.Store.Publish
import ControlPlane.Explorer.Build
import ControlPlane.Metacognition.CacheOrder
import ControlPlane.Explorer.CacheOrder
import ControlPlane.Lib.MaxMin
import ControlPlane.Lib.Joined
import ControlPlane.Lib.JsonSyntax
import ControlPlane.Lib.Chain
import ControlPlane.Lib.Register
import ControlPlane.Store.Freshness
import ControlPlane.Store.Definition
import ControlPlane.Store.Fields
import ControlPlane.Store.History
import ControlPlane.Store.Eviction
import ControlPlane.Store.EventTime
import ControlPlane.Timeline.LeapSecond
import ControlPlane.Timeline.Grammar
import ControlPlane.Fleet.Circuit
import ControlPlane.Coordination.Fairness
import ControlPlane.Coordination.Identity
import ControlPlane.Metacognition.Depth
import ControlPlane.Metacognition.GoalPath
import ControlPlane.Metacognition.VisitOrder
import ControlPlane.Lib.Decimal
import ControlPlane.Lib.Query
import ControlPlane.Api.Query
import ControlPlane.Api.Grammar
import ControlPlane.Api.Policies
import ControlPlane.Coordination.Staleness
import ControlPlane.Runtime.Stale
import ControlPlane.Runtime.Order
import ControlPlane.Runtime.Totals
import ControlPlane.Runtime.Precedence
import ControlPlane.Store.Recent
import ControlPlane.Store.Filed
import ControlPlane.Store.Caches
import ControlPlane.Store.Consistency
import ControlPlane.Explorer.Sessions
import ControlPlane.Lib.Check
import ControlPlane.Lib.Serde
import ControlPlane.Provider.Adapter
import ControlPlane.Provider.Reasoning
import ControlPlane.Provider.Limits
import ControlPlane.Lib.Unwinding
import ControlPlane.Store.Ledger
import ControlPlane.Transport.Config
import ControlPlane.Transport.Gateway
import ControlPlane.Api.Reads
import ControlPlane.Api.Access
import ControlPlane.Store.Redelivery
import ControlPlane.Lib.Codec
import ControlPlane.Protocol.Wire
import ControlPlane.Protocol.Text
import ControlPlane.Client.Answer
import ControlPlane.Client.Send
import ControlPlane.Client.Sidecar
import ControlPlane.Client.Exchange
import ControlPlane.Client.Agreement
import ControlPlane.Runtime.Wire
import ControlPlane.Lib.Cumulative
import ControlPlane.Hooks.Payload
import ControlPlane.Hooks.Envelope
import ControlPlane.Hooks.Mapping
import ControlPlane.Hooks.Proxy
import ControlPlane.Hooks.Accounting
import ControlPlane.Hooks.Balance
