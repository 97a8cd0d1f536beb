import AegisGateway.EffectProgram
import AegisGateway.Schemas
import AegisGateway.TokenBucket

set_option autoImplicit false

/-!
# The calls a request makes

What `api/proxy.py` and the services under it ask of Redis, the database, the
detectors, the tokenizer, the provider and the client. Every call may return or
raise. Logging and tracing are left out.
-/
namespace AegisGateway
open EffectProgram
open TokenBucket (LimitResult)

/-- The verdict of `PromptInjectionDetector.detect`. -/
structure InjectionVerdict where
  score : ℚ
  matchedHeuristic : Bool
  matchedEmbedding : Bool
  deriving Repr

/-- What an upstream stream yields, and the exception it ends with, if any. -/
structure UpstreamStream where
  chunks : List Json
  ending : Option Exn

/-- A server-sent event of the response body. -/
inductive Frame where
  | chunk (value : Json)
  | error (payload : Json)
  | finished

def Frame.text : Frame → String
  | .chunk value => "data: " ++ Json.dumps Json.plainDump value ++ "\n\n"
  | .error payload => "data: " ++ Json.dumps Json.plainDump payload ++ "\n\n"
  | .finished => "data: [DONE]\n\n"

inductive CallOutcome where
  | success
  | error
  | blocked
  | rateLimited
  deriving DecidableEq, Repr

/-- The increments of `core/metrics.py` that a request makes. The value that a
duration histogram observes is left out. -/
inductive Metric where
  | chatCompletions (provider : String) (outcome : CallOutcome)
  | cacheLookups (hit : Bool)
  | rateLimitRejections (reason : String)
  | piiRedactions
  | injectionDetections (mode : InjectionMode)
  | providerCallDuration (provider : String) (outcome : CallOutcome)
  | usageCostUsd (provider : String) (cost : ℚ)
  | usageTokens (provider kind : String) (tokens : ℤ)

inductive StreamSource where
  | cached
  | provider
  deriving DecidableEq, Repr

inductive GatewayOp where
  | getCachedResponse (tenantId : Uuid) (idempotencyKey : String)
  | tryAcquireLock (tenantId : Uuid) (idempotencyKey : String)
  | releaseLock (tenantId : Uuid) (idempotencyKey : String)
  | storeResponse (tenantId : Uuid) (idempotencyKey : String) (responseJson : String)
  | encodingForModel (model : String)
  | getEncoding (name : String)
  | encode (encoding : String) (text : String)
  | checkTokenBucket (key : String) (capacity : ℤ) (refillPerSecond : ℚ) (cost : ℤ)
  | utcMonth
  | checkAndReserveBudget (key : String) (increment limit : ℚ)
  | acquireConcurrencySlot (tenantId : Uuid) (limit : ℤ)
  | releaseConcurrencySlot (tenantId : Uuid)
  | analyze (text : String)
  | anonymize (text : String) (findings : List String)
  | detect (text : String)
  | setRlsContext (tenantId : Option Uuid) (bypass : Bool)
  | commitAuditLog (row : AuditLog)
  | commitUsageRecord (row : UsageRecord)
  | metric (m : Metric)
  | getCachedCompletion (key : String)
  | storeCachedCompletion (key : String) (responseJson : String) (ttlSeconds : ℤ)
  | chatCompletion (body : ChatCompletionRequest)
  | streamChatCompletion (body : ChatCompletionRequest)
  /-- The client takes up the streamed response. It raises when the client has gone
  before the first chunk, so that the generator is never started. -/
  | beginStream (source : StreamSource)
  /-- A yield of the generator. It raises what is thrown in at the yield. -/
  | yieldFrame (frame : Frame)
  | timeTime
  | uuid4Hex
  /-- pydantic raises on a lone surrogate and on deep nesting. -/
  | modelDumpJson (response : ChatCompletionResponse)
  /-- The double that the arithmetic of the cost ends with, or its exception. An infinite cost,
  which no column takes, counts as one. -/
  | calculateCostUsd (model : String) (promptTokens completionTokens : ℤ) (providerName : String)

/-- The kinds of calls that the properties of a request tell apart. -/
inductive OpKind where
  | readResponse
  | acquireLock
  | releaseLock
  | storeResponse
  | tokenizer
  | limiter
  | acquireSlot
  | releaseSlot
  | redactor
  | detector
  | security
  | audit
  | usage
  | metric
  | readCache
  | writeCache
  | chat
  | stream
  | begin
  | yield
  | clock
  | dump
  | cost
  deriving DecidableEq, Repr

def GatewayOp.kind : GatewayOp → OpKind
  | .getCachedResponse _ _ => .readResponse
  | .tryAcquireLock _ _ => .acquireLock
  | .releaseLock _ _ => .releaseLock
  | .storeResponse _ _ _ => .storeResponse
  | .encodingForModel _ | .getEncoding _ | .encode _ _ => .tokenizer
  | .checkTokenBucket _ _ _ _ | .utcMonth | .checkAndReserveBudget _ _ _ => .limiter
  | .acquireConcurrencySlot _ _ => .acquireSlot
  | .releaseConcurrencySlot _ => .releaseSlot
  | .analyze _ | .anonymize _ _ => .redactor
  | .detect _ => .detector
  | .setRlsContext _ _ => .security
  | .commitAuditLog _ => .audit
  | .commitUsageRecord _ => .usage
  | .metric _ => .metric
  | .getCachedCompletion _ => .readCache
  | .storeCachedCompletion _ _ _ => .writeCache
  | .chatCompletion _ => .chat
  | .streamChatCompletion _ => .stream
  | .beginStream _ => .begin
  | .yieldFrame _ => .yield
  | .timeTime | .uuid4Hex => .clock
  | .modelDumpJson _ => .dump
  | .calculateCostUsd _ _ _ _ => .cost

/-- The answer to the call is a stream. -/
def answersStream : GatewayOp → Bool
  | .streamChatCompletion _ => true
  | _ => false

/-- `encode` answers with the number of tokens, `analyze` with the entity type of
each finding, and `getCachedCompletion` with the text stored in Redis. -/
abbrev GatewayRet : GatewayOp → Type
  | .getCachedResponse _ _ => Option String
  | .tryAcquireLock _ _ => Bool
  | .encodingForModel _ => String
  | .getEncoding _ => String
  | .encode _ _ => ℕ
  | .checkTokenBucket _ _ _ _ => LimitResult
  | .utcMonth => String
  | .checkAndReserveBudget _ _ _ => LimitResult
  | .acquireConcurrencySlot _ _ => Bool
  | .analyze _ => List String
  | .anonymize _ _ => String
  | .detect _ => InjectionVerdict
  | .getCachedCompletion _ => Option String
  | .chatCompletion _ => ChatCompletionResponse
  | .streamChatCompletion _ => UpstreamStream
  | .timeTime => ℤ
  | .uuid4Hex => String
  | .modelDumpJson _ => String
  | .calculateCostUsd _ _ _ _ => ℚ
  | .releaseLock _ _ | .storeResponse _ _ _ | .releaseConcurrencySlot _ | .setRlsContext _ _
  | .commitAuditLog _ | .commitUsageRecord _ | .metric _ | .storeCachedCompletion _ _ _
  | .beginStream _ | .yieldFrame _ => Unit

abbrev GatewayProg := Prog GatewayOp GatewayRet Exn

abbrev GatewayEvent := Event GatewayOp GatewayRet Exn

abbrev call (op : GatewayOp) : GatewayProg (GatewayRet op) := Prog.perform op

/-- Every call the program can make is of one of these kinds. -/
abbrev UsesKinds {α : Type} (kinds : List OpKind) (p : GatewayProg α) : Prop :=
  p.Uses fun op => op.kind ∈ kinds

theorem UsesKinds.weaken {α : Type} {kinds kinds' : List OpKind} {p : GatewayProg α}
    (h : UsesKinds kinds p) (sub : kinds ⊆ kinds') : UsesKinds kinds' p :=
  h.mono fun _ mem => sub mem

theorem usesKinds_call {kinds : List OpKind} {op : GatewayOp}
    (h : kinds.contains op.kind = true) : UsesKinds kinds (call op) :=
  Prog.uses_perform (List.contains_iff_mem.mp h)

def auditSession : Session AuditLog GatewayProg where
  setRlsContext tenantId bypass := call (.setRlsContext tenantId bypass)
  commitRow row := call (.commitAuditLog row)

def usageSession : Session UsageRecord GatewayProg where
  setRlsContext tenantId bypass := call (.setRlsContext tenantId bypass)
  commitRow row := call (.commitUsageRecord row)

/-- The gateway as it is deployed: the libraries, the names under which providers
are registered, and the settings a request reads. -/
structure GatewayConfig where
  lib : Libraries
  providers : List String
  cacheTtlSeconds : ℤ

/-- A chat completions request after authentication. -/
structure ChatRequest where
  body : ChatCompletionRequest
  tenant : TenantContext
  correlationId : Option String
  idempotencyKey : Option String

/-- The handler tests `idempotency_key` for truth: an empty header counts as none. -/
def ChatRequest.key (request : ChatRequest) : Option String :=
  request.idempotencyKey.filter (· ≠ "")

/-- The smallest deployment: one local provider. -/
def helloConfig : GatewayConfig := ⟨silentLibraries, ["ollama"], 300⟩

def helloChat (stream : Bool) (idempotencyKey : Option String) : ChatRequest :=
  ⟨helloRequest stream, helloTenant, some "c", idempotencyKey⟩

abbrev keyedChat : ChatRequest := helloChat false (some "k")

end AegisGateway
