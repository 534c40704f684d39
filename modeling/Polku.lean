import Polku.Semantics.Execution
import Polku.Semantics.Inevitable
import Polku.Semantics.CompareExchange
import Polku.Data.Fifo
import Polku.Data.List
import Polku.Data.HashMap
import Polku.Data.Recency
import Polku.Data.Bucket
import Polku.Data.Window
import Polku.Data.Delimited
import Polku.Data.Xorshift
import Polku.Buffer.Ring
import Polku.Buffer.History
import Polku.Buffer.Capacity
import Polku.Buffer.Accounting
import Polku.Proto
import Polku.Error
import Polku.Message
import Polku.Metrics
import Polku.Registry
import Polku.Server
import Polku.Server.Batch
import Polku.Server.Stream
import Polku.Emit.Emitter
import Polku.Emit.Grpc
import Polku.Emit.Resilience.Retry
import Polku.Emit.Resilience.BackoffBounds
import Polku.Emit.Resilience.Xorshift
import Polku.Emit.Resilience.Redelivery
import Polku.Emit.Resilience.CircuitBreaker
import Polku.Emit.Resilience.FailureBuffer
import Polku.Emit.Resilience.FailureHistory
import Polku.Emit.Resilience.Config
import Polku.Emit.Resilience.Retention
import Polku.Emit.Resilience.BreakerRuns
import Polku.Emit.Resilience.BreakerInvariant
import Polku.Emit.Resilience.BreakerRecovery
import Polku.Emit.Resilience.BreakerProbes
import Polku.Emit.Resilience.Routing
import Polku.Emit.Resilience.Stack
import Polku.Hub.RoutingAgreement
import Polku.Middleware.Chain
import Polku.Middleware.Aggregator
import Polku.Middleware.Json
import Polku.Middleware.JsonArray
import Polku.Middleware.Stages
import Polku.Middleware.Sampler
import Polku.Middleware.Partition
import Polku.Middleware.Provenance
import Polku.Middleware.TokenBucket
import Polku.Middleware.Throttle
import Polku.Middleware.ThrottleEviction
import Polku.Middleware.ThrottleIsolation
import Polku.Middleware.RateLimiter
import Polku.Middleware.RateRefinement
import Polku.Middleware.RateLimits
import Polku.Middleware.Contention
import Polku.Middleware.Dedup
import Polku.Middleware.DedupCadence
import Polku.Middleware.DedupContention
import Polku.Hub.Flush
import Polku.Hub.Runner
import Polku.Hub.Drain
import Polku.Hub.Delivery
import Polku.Hub.Shutdown
import Polku.Hub.DropMetrics
import Polku.Hub.DropAccounting
import Polku.Data.XorshiftPeriod
import Polku.Middleware.SamplerRate
import Polku.Semantics.Tasks
import Polku.Server.Gateway
import Polku.Server.GatewayStreams
import Polku.Server.GatewayCalls
import Polku.Data.Spaced
import Polku.Emit.Resilience.BreakerExposure
import Polku.Semantics.Fair
import Polku.Hub.Return
import Polku.Semantics.Refinement
import Polku.Semantics.RwLock
import Polku.Middleware.ThrottleContention
import Polku.Middleware.ThrottleBuckets
import Polku.Middleware.ThrottleLimits
import Polku.Hub.Senders
import Polku.Hub.SenderAccounts
import Polku.Hub.SenderProgress
import Polku.Emit.Resilience.StackCalls
import Polku.Emit.Resilience.StackOutcomes
import Polku.Emit.Resilience.StackRuns
import Polku.Emit.Federation
import Polku.Emit.FederationDelivery
import Polku.Semantics.Simulation
import Polku.Middleware.Annotation
import Polku.Middleware.Alike
import Polku.Hub.Annotation
import Polku.Hub.Pipeline
import Polku.Hub.PipelineDelivery
import Polku.Hub.PipelineReturn
import Polku.Hub.Cancel
import Polku.Middleware.Duplicates
import Polku.Hub.Duplicates
