import AegisGateway.EffectProgram
import AegisGateway.TransitionRuns
import AegisGateway.ProgramPool
import AegisGateway.SignificantDigits
import AegisGateway.TokenBucket
import AegisGateway.Pricing
import AegisGateway.Json
import AegisGateway.Schemas
import AegisGateway.CircuitBreaker
import AegisGateway.ProviderCalls
import AegisGateway.BreakerRuns
import AegisGateway.BreakerHistory
import AegisGateway.BudgetCounter
import AegisGateway.ConcurrencySlot
import AegisGateway.BudgetScan
import AegisGateway.GatewayOps
import AegisGateway.RequestPipeline
import AegisGateway.ChatCompletions
import AegisGateway.RequestStages
import AegisGateway.StreamCaching
import AegisGateway.ProviderGates
import AegisGateway.ResourceBalance
import AegisGateway.UsageBilling
import AegisGateway.Idempotency
import AegisGateway.ClientErrors
import AegisGateway.InjectionDetector
import AegisGateway.CacheHits
import AegisGateway.ContentScreening
import AegisGateway.CellStore
import AegisGateway.IdempotencyLock
import AegisGateway.RedisCommands
import AegisGateway.TenantIsolation
import AegisGateway.Accounts
import AegisGateway.KeyLifecycle
import AegisGateway.CanonicalJson
import AegisGateway.CacheKeys
import AegisGateway.AuthFailures
import AegisGateway.TenantUpdates
import AegisGateway.Revocations
import AegisGateway.BudgetAlerts
import AegisGateway.KeyedRows
import AegisGateway.UsageRollups
import AegisGateway.RowSecurity
import AegisGateway.Metering
import AegisGateway.BucketHistories
import AegisGateway.BudgetRejections
import AegisGateway.OutcomeCounts
import AegisGateway.ProviderFailures
import AegisGateway.RetryAccounting
import AegisGateway.SlotLeaks
import AegisGateway.RejectedRequests
import AegisGateway.JsonDecoder
import AegisGateway.EventStreams
import AegisGateway.JsonRoundTrip
import AegisGateway.StreamFraming
import AegisGateway.RollupOverflow
import AegisGateway.HitBilling
import AegisGateway.BreakerGauge
import AegisGateway.DetectorSessions
import AegisGateway.SpecialTokens
import AegisGateway.BudgetQuotas
import AegisGateway.AlertDelays
import AegisGateway.AuditTrail
import AegisGateway.AnswerOrigins
import AegisGateway.AdminSessions
import AegisGateway.LimitRefusals
import AegisGateway.EntitledRequests
import AegisGateway.GatewayQuotas
import AegisGateway.BilledPeriods
