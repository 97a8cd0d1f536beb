import AegisGateway.RedisCommands

set_option autoImplicit false

/-!
# With what a request calls

Every call of a chat completions request, by what it is handed: whose keys it names, the
limits it enforces, the rows it writes. The same for its Redis commands.
-/
namespace AegisGateway.RequestCalls
open EffectProgram Pricing RedisCommands

section Calls
variable (config : GatewayConfig) (request : ChatRequest)

/-- The cache key of some body of the request's tenant. -/
def CompletionKey (key : String) : Prop :=
  ∃ body, key = computeCacheKey config.lib request.tenant.tenantId body

/-- The request's own idempotency key, under its tenant. -/
def Keyed (tenantId : Uuid) (key : String) : Prop :=
  tenantId = request.tenant.tenantId ∧ request.key = some key

/-- The bucket of the requests is charged one, the bucket of the tokens a count of them. -/
inductive BucketCharge (tenant : TenantContext) : String → ℤ → ℚ → ℤ → Prop where
  | rpm : BucketCharge tenant (rpmBucketKey tenant.tenantId) tenant.rateLimitRpm
      (tenant.rateLimitRpm / 60) 1
  | tpm (promptTokens : ℕ) : BucketCharge tenant (tpmBucketKey tenant.tenantId) tenant.rateLimitTpm
      (tenant.rateLimitTpm / 60) promptTokens

/-- What a reservation is made of. -/
inductive Reservation (tenant : TenantContext) : String → ℚ → ℚ → Prop where
  | estimate (month model : String) (promptTokens : ℕ) (providerName : String) :
      Reservation tenant (budgetKey tenant.tenantId month)
        (estimatePromptCostUsd model promptTokens providerName) tenant.monthlyBudgetUsd.value

/-- A usage record of the request, for the provider that its model resolves to. -/
def BookedRow (row : UsageRecord) : Prop :=
  ∃ providerName model promptTokens completionTokens cacheHit cost,
    resolve config.providers request.body.model = .ok providerName ∧
      row = usageRecord request providerName model promptTokens completionTokens cacheHit cost

def AuditedRow (row : AuditLog) : Prop :=
  row.tenantId = some request.tenant.tenantId ∧ row.correlationId = request.correlationId

def Placed : GatewayOp → Prop
  | .getCachedResponse tenantId key | .tryAcquireLock tenantId key | .releaseLock tenantId key
  | .storeResponse tenantId key _ => Keyed request tenantId key
  | .checkTokenBucket key capacity refillPerSecond cost =>
    BucketCharge request.tenant key capacity refillPerSecond cost
  | .checkAndReserveBudget key increment limit => Reservation request.tenant key increment limit
  | .acquireConcurrencySlot tenantId limit =>
    tenantId = request.tenant.tenantId ∧ limit = request.tenant.maxConcurrentRequests
  | .releaseConcurrencySlot tenantId => tenantId = request.tenant.tenantId
  | .setRlsContext tenantId bypass =>
    tenantId = some request.tenant.tenantId ∧ bypass = false ∨ tenantId = none ∧ bypass = true
  | .commitAuditLog row => AuditedRow request row
  | .commitUsageRecord row => BookedRow config request row
  | .getCachedCompletion key => CompletionKey config request key
  | .storeCachedCompletion key _ ttlSeconds =>
    CompletionKey config request key ∧ ttlSeconds = config.cacheTtlSeconds
  | _ => True

/-- Whatever the program calls is of the request. -/
abbrev Within {α : Type} (p : GatewayProg α) : Prop := p.Uses (Placed config request)

end Calls

section Requests
variable {config : GatewayConfig} {request : ChatRequest} {providerName : String}
  {body : ChatCompletionRequest} {promptTokens : ℕ} {cacheKey : Option String}

/-- The kinds of calls that go to the database session. -/
def sessionKinds : List OpKind := [.security, .audit, .usage]

/-- A property of programs that composes and that the parts of a request have: its own calls, its
audit events and its usage records. -/
structure RequestParts (config : GatewayConfig) (request : ChatRequest)
    (K : {α : Type} → GatewayProg α → Prop) : Prop where
  composes : Composes K
  calls : ∀ op, Placed config request op → sessionKinds.contains op.kind = false → K (call op)
  audits : ∀ eventType detail, K (writeAuditEvent auditSession (some request.tenant.tenantId)
    eventType request.correlationId detail)
  records : ∀ providerName, resolve config.providers request.body.model = .ok providerName →
    ∀ model promptTokens completionTokens cacheHit,
      K (recordUsage request providerName model promptTokens completionTokens cacheHit)

section Parts
variable {K : {α : Type} → GatewayProg α → Prop} {α β : Type}

theorem RequestParts.bind (h : RequestParts config request K) {p : GatewayProg α}
    {f : α → GatewayProg β} (hp : K p) (hf : ∀ a, K (f a)) : K (p >>= f) :=
  h.composes.bind hp hf

theorem RequestParts.done (h : RequestParts config request K) (r : Except Exn α) : K (.done r) :=
  h.composes.done r

/-- The kinds of calls that are handed nothing of the tenant's. -/
def plainKinds : List OpKind :=
  [.tokenizer, .redactor, .detector, .metric, .chat, .stream, .begin, .yield, .clock, .dump, .cost]

theorem RequestParts.plain (h : RequestParts config request K) {p : GatewayProg α}
    (uses : UsesKinds plainKinds p) : K p := by
  have apart : ∀ kind ∈ plainKinds, sessionKinds.contains kind = false := by decide
  refine h.composes.of_uses uses fun op kind => h.calls op ?_ (apart op.kind kind)
  cases op <;> trivial

theorem RequestParts.plainCall (h : RequestParts config request K) {op : GatewayOp}
    (kind : plainKinds.contains op.kind = true) : K (call op) :=
  h.plain (usesKinds_call kind)

theorem RequestParts.releaseSlot (h : RequestParts config request K) :
    K (releaseSlot request) := h.calls _ rfl rfl

theorem RequestParts.releaseLock (h : RequestParts config request K) :
    K (releaseLockIfKeyed request) := by
  rw [releaseLockIfKeyed]
  split
  · rename_i key keyed
    exact h.calls _ ⟨rfl, keyed⟩ rfl
  · exact h.done _

theorem RequestParts.storeAndRelease (h : RequestParts config request K) (responseJson : String) :
    K (storeAndReleaseIfKeyed request responseJson) := by
  rw [storeAndReleaseIfKeyed]
  split
  · rename_i key keyed
    exact h.bind (h.calls _ ⟨rfl, keyed⟩ rfl) fun _ => h.calls _ ⟨rfl, keyed⟩ rfl
  · exact h.done _

theorem RequestParts.requestLimits (h : RequestParts config request K) (model : String) :
    K (enforceRequestLimits request.tenant providerName model promptTokens) := by
  refine h.bind (h.calls _ .rpm rfl) fun rpm => ?_
  split
  · exact h.done _
  · refine h.bind (h.calls _ (.tpm promptTokens) rfl) fun tpm => ?_
    split
    · exact h.done _
    · simp only
      split
      · refine h.bind (h.calls _ trivial rfl) fun month => ?_
        refine h.bind (h.calls _ (.estimate month model promptTokens providerName) rfl) fun budget => ?_
        split
        · exact h.done _
        · exact h.done _
      · exact h.done _

theorem RequestParts.refusal (h : RequestParts config request K) {p q : GatewayProg Unit} (exc : Exn)
    (first : K p) (second : K q) :
    K (do
      p
      q
      releaseLockIfKeyed request
      Prog.raise exc : GatewayProg α) :=
  h.bind first fun _ => h.bind second fun _ => h.bind h.releaseLock fun _ => h.done _

theorem RequestParts.limits (h : RequestParts config request K) :
    K (enforceLimits request providerName promptTokens) := by
  refine h.bind (h.composes.handle (h.requestLimits _) fun exc => ?_) fun _ => ?_
  · cases exc with
    | rateLimit exc => exact h.refusal _ (h.plainCall rfl) (h.plainCall rfl)
    | _ => exact h.done _
  · refine h.bind (h.calls _ ⟨rfl, rfl⟩ rfl) fun acquired => ?_
    cases acquired with
    | true => exact h.done _
    | false => exact h.refusal _ (h.plainCall rfl) (h.plainCall rfl)

theorem RequestParts.redaction (h : RequestParts config request K) :
    K (redactionStep request) := by
  rw [redactionStep]
  split
  · refine h.bind (h.plain ((redactMessages_uses _).weaken (by decide))) ?_
    rintro ⟨messages, entityTypes⟩
    simp only
    split
    · refine h.bind (h.plainCall rfl) fun _ => ?_
      exact h.bind (h.audits _ _) fun _ => h.done _
    · exact h.done _
  · exact h.done _

theorem RequestParts.detection (h : RequestParts config request K) (messages : List ChatMessage) :
    K (detectionStep config.lib request messages) := by
  rw [detectionStep]
  split
  · refine h.bind (h.plainCall rfl) fun verdict => ?_
    split
    · refine h.bind (h.plainCall rfl) fun _ => h.bind (h.audits _ _) fun _ => ?_
      split
      · exact h.done _
      · exact h.done _
    · exact h.done _
  · exact h.done _

theorem RequestParts.screen (h : RequestParts config request K) :
    K (screen config request providerName) := by
  have pipeline : K (runSecurityPipeline config.lib request) := by
    refine h.bind h.redaction fun messages => ?_
    exact h.bind (h.detection messages) fun _ => h.done _
  refine h.composes.handle pipeline fun exc => ?_
  cases exc with
  | http exc => exact h.refusal _ (h.plainCall rfl) h.releaseSlot
  | _ => exact h.done _

theorem RequestParts.callProvider (h : RequestParts config request K) :
    K (callProvider request providerName body) := by
  refine h.composes.ensure (h.composes.handle (h.plainCall rfl) fun exc => ?_) h.releaseSlot
  cases exc with
  | provider exc => exact h.refusal _ (h.plainCall rfl) (h.plainCall rfl)
  | _ => exact h.done _

theorem RequestParts.storeCached (h : RequestParts config request K) {key : String}
    (own : CompletionKey config request key) (response : ChatCompletionResponse) :
    K (storeCachedCompletion config key response) :=
  h.bind (h.plainCall rfl) fun _ => h.calls _ ⟨own, rfl⟩ rfl

theorem RequestParts.storeIfCaching (h : RequestParts config request K)
    (own : ∀ key ∈ cacheKey, CompletionKey config request key) (response : ChatCompletionResponse) :
    K (storeIfCaching config cacheKey response) := by
  cases cacheKey with
  | none => exact h.done _
  | some key => exact h.storeCached (own key rfl) response

theorem RequestParts.fromProvider (h : RequestParts config request K)
    (resolved : resolve config.providers request.body.model = .ok providerName)
    (own : ∀ key ∈ cacheKey, CompletionKey config request key) :
    K (answerFromProvider config request providerName body promptTokens cacheKey >>= deliver) := by
  rw [answerFromProvider, Prog.bind_assoc]
  refine h.bind h.callProvider fun received => ?_
  rw [bookAnswer]
  simp only [Prog.bind_assoc]
  refine h.bind (h.plainCall rfl) fun _ => ?_
  refine h.bind (h.plain ((withUsage_uses _ _ _).weaken (by decide))) fun counted => ?_
  refine h.bind (h.storeIfCaching own _) fun _ => h.bind (h.records _ resolved _ _ _ _) fun _ => ?_
  exact h.bind (h.plainCall rfl) fun text => h.bind (h.storeAndRelease text) fun _ => h.done _

theorem RequestParts.delivered (h : RequestParts config request K) {source : StreamSource}
    {generator : GatewayProg Unit} (streams : K generator) :
    K (deliver (.stream source generator)) :=
  h.bind (h.plainCall rfl) fun _ => h.bind streams fun _ => h.done _

theorem RequestParts.streamCached (h : RequestParts config request K)
    (resolved : resolve config.providers request.body.model = .ok providerName)
    (response : ChatCompletionResponse) :
    K (streamCachedCompletion request providerName response) := by
  refine h.composes.ensure (h.bind (h.plainCall rfl) fun _ => h.plainCall rfl) ?_
  rw [finishCachedStream]
  split
  · exact h.bind (h.records _ resolved _ _ _ _) fun _ => h.releaseLock
  · exact h.releaseLock

theorem RequestParts.fromCache (h : RequestParts config request K)
    (resolved : resolve config.providers request.body.model = .ok providerName) (cached : ChatCompletionResponse) :
    K (answerFromCache request providerName body cached >>= deliver) := by
  have stored (headers : List (String × String)) :
      K ((do
        let responseJson ← call (.modelDumpJson cached)
        storeAndReleaseIfKeyed request responseJson
        return GatewayResponse.json responseJson headers) >>= deliver) := by
    simp only [Prog.bind_assoc]
    exact h.bind (h.plainCall rfl) fun text => h.bind (h.storeAndRelease text) fun _ => h.done _
  rw [answerFromCache, Prog.bind_assoc]
  refine h.bind h.releaseSlot fun _ => ?_
  split
  · exact h.delivered (h.streamCached resolved cached)
  · split
    · rw [Prog.bind_assoc]
      exact h.bind (h.records _ resolved _ _ _ _) fun _ => stored _
    · exact stored _

theorem RequestParts.cacheStream (h : RequestParts config request K)
    (own : ∀ key ∈ cacheKey, CompletionKey config request key) (text : String) (tokens : ℕ) :
    K (cacheStream config body cacheKey text promptTokens tokens) := by
  cases cacheKey with
  | none => exact h.done _
  | some key =>
    rw [AegisGateway.cacheStream]
    split
    · refine h.bind (h.plainCall rfl) fun hex => h.bind (h.plainCall rfl) fun created => ?_
      exact h.storeCached (own key rfl) _
    · exact h.done _

theorem RequestParts.bookStream (h : RequestParts config request K)
    (resolved : resolve config.providers request.body.model = .ok providerName)
    (own : ∀ key ∈ cacheKey, CompletionKey config request key) (succeeded : Bool) (parts : List String) :
    K (bookStream config request providerName body promptTokens cacheKey succeeded parts) := by
  have counted : K (countTextTokens (String.join parts) body.model) :=
    h.plain ((countTextTokens_uses _ _).weaken (by decide))
  refine h.bind (h.plainCall rfl) fun _ => ?_
  split
  · refine h.bind counted fun tokens => h.bind (h.records _ resolved _ _ _ _) fun _ => ?_
    exact h.cacheStream own _ _
  · exact h.bind (h.plainCall rfl) fun _ => h.bind counted fun _ => h.done _

theorem RequestParts.stream (h : RequestParts config request K)
    (resolved : resolve config.providers request.body.model = .ok providerName)
    (own : ∀ key ∈ cacheKey, CompletionKey config request key) :
    K (streamChatCompletion config request providerName body promptTokens cacheKey) := by
  refine h.bind (h.plain ((readUpstream_uses body).weaken (by decide))) fun read => ?_
  refine h.bind (h.plain ((settleStream_uses read.2).weaken (by decide))) fun settled => ?_
  refine h.bind ?_ fun _ => h.done _
  refine h.bind (h.bookStream resolved own _ _) fun _ => ?_
  exact h.bind h.releaseSlot fun _ => h.releaseLock

theorem RequestParts.answer (h : RequestParts config request K)
    (resolved : resolve config.providers request.body.model = .ok providerName) :
    K (answer config request providerName body promptTokens >>= deliver) := by
  have missed {cacheKey : Option String} (own : ∀ key ∈ cacheKey, CompletionKey config request key) :
      K ((if body.stream = true then pure (.stream .provider
          (streamChatCompletion config request providerName body promptTokens cacheKey))
        else answerFromProvider config request providerName body promptTokens cacheKey) >>=
          deliver) := by
    split
    · exact h.delivered (h.stream resolved own)
    · exact h.fromProvider resolved own
  rw [AegisGateway.answer]
  split
  · have own : CompletionKey config request
        (computeCacheKey config.lib request.tenant.tenantId body) := ⟨body, rfl⟩
    simp only [Prog.bind_assoc]
    refine h.bind ?_ fun cached => h.bind (h.plainCall rfl) fun _ => ?_
    · refine h.bind (h.calls _ own rfl) fun raw => ?_
      cases raw with
      | none => exact h.done _
      | some text =>
        simp only
        split
        · exact h.done _
        · exact h.done _
    · cases cached with
      | some response => exact h.fromCache resolved response
      | none =>
        refine missed ?_
        rintro key ⟨⟩
        exact own
  · refine missed ?_
    rintro key ⟨⟩

theorem RequestParts.process (h : RequestParts config request K) :
    K (process config request >>= deliver) := by
  rw [AegisGateway.process]
  split
  · rw [Prog.bind_assoc]
    exact h.bind h.releaseLock fun _ => h.done _
  · rename_i providerName resolved
    simp only [Prog.bind_assoc]
    refine h.bind (h.plain ((countPromptTokens_uses _ _).weaken (by decide))) fun promptTokens => ?_
    exact h.bind h.limits fun _ => h.bind h.screen fun body => h.answer resolved

theorem RequestParts.serve (h : RequestParts config request K) : K (serve config request) := by
  have locked : K (lockAndProcess config request >>= deliver) := by
    rw [lockAndProcess]
    split
    · exact h.process
    · rename_i key keyed
      rw [Prog.bind_assoc]
      refine h.bind (h.calls _ ⟨rfl, keyed⟩ rfl) fun acquired => ?_
      cases acquired with
      | true => exact h.process
      | false => exact h.done _
  rw [AegisGateway.serve, chatCompletions]
  split
  · rename_i key keyed _
    rw [Prog.bind_assoc]
    refine h.bind (h.calls _ ⟨rfl, keyed⟩ rfl) fun cached => ?_
    cases cached with
    | some content => exact h.done _
    | none => exact locked
  · exact locked

end Parts

theorem within_call {op : GatewayOp} (placed : Placed config request op) :
    Within config request (call op) := Prog.uses_perform placed

theorem requestCalls (config : GatewayConfig) (request : ChatRequest) :
    RequestParts config request fun {_} p => Within config request p where
  composes := composes_uses _
  calls _ placed _ := within_call placed
  audits eventType detail := by
    refine Prog.Uses.bind (within_call (.inr ⟨rfl, rfl⟩)) fun _ => ?_
    exact within_call ⟨rfl, rfl⟩
  records providerName resolved model promptTokens completionTokens cacheHit := by
    refine Prog.Uses.bind (within_call (.inl ⟨rfl, rfl⟩)) fun _ => ?_
    refine Prog.Uses.bind (within_call trivial) fun cost => ?_
    refine Prog.Uses.bind (within_call ?_) fun _ => ?_
    · exact ⟨providerName, model, promptTokens, completionTokens, cacheHit, cost, resolved, rfl⟩
    refine Prog.Uses.bind (within_call trivial) fun _ => Prog.Uses.bind (within_call trivial) fun _ => ?_
    exact Prog.Uses.bind (within_call trivial) fun _ => within_call trivial

theorem serve_within (config : GatewayConfig) (request : ChatRequest) :
    Within config request (serve config request) := (requestCalls config request).serve

end Requests

section Commands

/-- The commands of a request, with what they send. -/
inductive Sent (config : GatewayConfig) (request : ChatRequest) : RedisCommand → Prop where
  | getResponse {key : String} (keyed : request.key = some key) :
    Sent config request (.get (responseKey request.tenant.tenantId key))
  | getCompletion (body : ChatCompletionRequest) :
    Sent config request (.get (computeCacheKey config.lib request.tenant.tenantId body))
  | takeLock {key : String} (keyed : request.key = some key) :
    Sent config request (.set (lockKey request.tenant.tenantId key) "1" true lockTtlSeconds)
  | storeResponse {key : String} (keyed : request.key = some key) (responseJson : String) :
    Sent config request (.set (responseKey request.tenant.tenantId key) responseJson false replayCacheTtl)
  | storeCompletion (body : ChatCompletionRequest) (responseJson : String) :
    Sent config request (.set (computeCacheKey config.lib request.tenant.tenantId body) responseJson false
      config.cacheTtlSeconds)
  | dropLock {key : String} (keyed : request.key = some key) :
    Sent config request (.delete (lockKey request.tenant.tenantId key))
  | countIn : Sent config request (.incr (concurrencyKey request.tenant.tenantId))
  | countOut : Sent config request (.decr (concurrencyKey request.tenant.tenantId))
  | renewCount :
    Sent config request (.expire (concurrencyKey request.tenant.tenantId) concurrencyKeyTtlSeconds)
  | bucket {key : String} {capacity cost : ℤ} {refillPerSecond : ℚ}
      (charge : BucketCharge request.tenant key capacity refillPerSecond cost) :
    Sent config request (.tokenBucketScript key ⟨capacity, refillPerSecond, cost⟩)
  | budget {key : String} {increment limit : ℚ}
      (reservation : Reservation request.tenant key increment limit) :
    Sent config request (.budgetScript key increment limit)

def WirePlaced (config : GatewayConfig) (request : ChatRequest) : WireOp → Prop
  | .redis cmd => Sent config request cmd
  | .outside op => Placed config request op

variable {config : GatewayConfig} {request : ChatRequest} {α : Type}

theorem runs_redis {cmd : RedisCommand} {t : List WireEvent} {r : RedisRet cmd}
    (run : Runs (redis cmd) t (.ok r)) : t = [⟨.redis cmd, .ok (.answered (.ok r))⟩] := by
  cases run with
  | @call _ _ o _ _ tail =>
    rcases o with exc | result | ⟨exc, carriedOut⟩
    · cases tail
    · cases tail
      rfl
    · cases tail

theorem redis_placed {cmd : RedisCommand} (sent : Sent config request cmd) :
    (redis cmd).Uses (WirePlaced config request) := by
  have asked : (ask (.redis cmd)).Uses (WirePlaced config request) := Prog.uses_perform sent
  refine asked.bind fun reply => ?_
  cases reply <;> trivial

theorem dropped_placed {cmd : RedisCommand} (sent : Sent config request cmd) :
    (redis cmd >>= fun _ => pure () : WireProg Unit).Uses (WirePlaced config request) :=
  (redis_placed sent).bind fun _ => trivial

theorem acquireConcurrencySlot_placed (limit : ℤ) :
    (acquireConcurrencySlot request.tenant.tenantId limit).Uses (WirePlaced config request) := by
  refine (redis_placed .countIn).bind fun current => Prog.Uses.bind ?_ fun _ => ?_
  · rw [expireFirst]
    split
    · exact dropped_placed .renewCount
    · trivial
  · split
    · exact (redis_placed .countOut).bind fun _ => trivial
    · trivial

theorem commands_placed {op : GatewayOp} (placed : Placed config request op) :
    (commands op).Uses (WirePlaced config request) := by
  cases op with
  | getCachedResponse tenantId key =>
    obtain ⟨rfl, keyed⟩ := placed
    exact redis_placed (.getResponse keyed)
  | tryAcquireLock tenantId key =>
    obtain ⟨rfl, keyed⟩ := placed
    exact redis_placed (.takeLock keyed)
  | releaseLock tenantId key =>
    obtain ⟨rfl, keyed⟩ := placed
    exact dropped_placed (.dropLock keyed)
  | storeResponse tenantId key responseJson =>
    obtain ⟨rfl, keyed⟩ := placed
    exact dropped_placed (.storeResponse keyed responseJson)
  | checkTokenBucket key capacity refillPerSecond cost => exact redis_placed (.bucket placed)
  | checkAndReserveBudget key increment limit => exact redis_placed (.budget placed)
  | acquireConcurrencySlot tenantId limit =>
    obtain ⟨rfl, -⟩ := placed
    exact acquireConcurrencySlot_placed limit
  | releaseConcurrencySlot tenantId =>
    cases placed
    exact dropped_placed .countOut
  | getCachedCompletion key =>
    obtain ⟨body, rfl⟩ := placed
    exact redis_placed (.getCompletion body)
  | storeCachedCompletion key responseJson ttlSeconds =>
    obtain ⟨⟨body, rfl⟩, rfl⟩ := placed
    exact dropped_placed (.storeCompletion body responseJson)
  | _ => exact Prog.uses_perform placed

theorem serveWire_placed (config : GatewayConfig) (request : ChatRequest) :
    (serveWire config request).Uses (WirePlaced config request) :=
  (serve_within config request).expand fun _ placed => commands_placed placed

end Commands
end AegisGateway.RequestCalls
