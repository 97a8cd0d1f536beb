import AegisGateway.GatewayOps
import AegisGateway.Pricing
import AegisGateway.SignificantDigits
import Mathlib.Data.List.Dedup

set_option autoImplicit false

/-!
# The steps of a request

The services that the chat completions handler calls: the token counter, the
request limits, redaction and injection detection, the usage record, the cache
key and the provider registry.
-/
namespace AegisGateway
open EffectProgram Pricing
open SignificantDigits (roundHalfEven)

section TokenCounter

def fallbackEncoding : String := "cl100k_base"
def tokensPerMessage : ℕ := 3
def tokensPerName : ℕ := 1
def tokensPerReplyPrimer : ℕ := 3

def encodingFor (model : String) : GatewayProg String :=
  (call (.encodingForModel model)).handle fun
    | .keyError => call (.getEncoding fallbackEncoding)
    | exc => .raise exc

/-- The tokens of the content, if it is a string. -/
def contentTokens (encoding : String) : MessageContent → GatewayProg ℕ
  | .text s => call (.encode encoding s)
  | .null | .parts _ => pure 0

/-- The tokens of the extra field `name`, if it is a string. -/
def nameTokens (encoding : String) (message : ChatMessage) : GatewayProg ℕ :=
  match Json.get message.extra "name" with
  | .str name => do
    let tokens ← call (.encode encoding name)
    return tokens + tokensPerName
  | _ => pure 0

def countMessages (encoding : String) : List ChatMessage → ℕ → GatewayProg ℕ
  | [], numTokens => pure numTokens
  | message :: rest, numTokens => do
    let role ← call (.encode encoding message.role)
    let content ← contentTokens encoding message.content
    let name ← nameTokens encoding message
    countMessages encoding rest (numTokens + tokensPerMessage + role + content + name)

def countPromptTokens (messages : List ChatMessage) (model : String) : GatewayProg ℕ := do
  let encoding ← encodingFor model
  let numTokens ← countMessages encoding messages 0
  return numTokens + tokensPerReplyPrimer

def countTextTokens (text model : String) : GatewayProg ℕ := do
  let encoding ← encodingFor model
  call (.encode encoding text)

end TokenCounter

section RequestLimits

def rpmBucketKey (tenantId : Uuid) : String := "ratelimit:rpm:" ++ tenantId.text
def tpmBucketKey (tenantId : Uuid) : String := "ratelimit:tpm:" ++ tenantId.text
def budgetKey (tenantId : Uuid) (yearMonth : String) : String :=
  "budget:" ++ tenantId.text ++ ":" ++ yearMonth

def rpmExceeded (tenant : TenantContext) : RateLimitExceeded :=
  ⟨"rate_limit_exceeded",
    "Request rate limit exceeded (" ++ toString tenant.rateLimitRpm ++ " requests/min).", some 1⟩

def tpmExceeded (tenant : TenantContext) : RateLimitExceeded :=
  ⟨"token_limit_exceeded",
    "Token rate limit exceeded (" ++ toString tenant.rateLimitTpm ++ " tokens/min).", some 1⟩

def budgetExceeded (tenant : TenantContext) : RateLimitExceeded :=
  ⟨"budget_exceeded",
    "Monthly budget of $" ++ tenant.monthlyBudgetUsd.str ++ " exceeded for this tenant.", none⟩

def enforceRequestLimits (tenant : TenantContext) (providerName model : String)
    (promptTokens : ℕ) : GatewayProg Unit := do
  let rpm ← call (.checkTokenBucket (rpmBucketKey tenant.tenantId) tenant.rateLimitRpm
    (tenant.rateLimitRpm / 60) 1)
  if rpm.allowed = false then Prog.raise (.rateLimit (rpmExceeded tenant))
  else
    let tpm ← call (.checkTokenBucket (tpmBucketKey tenant.tenantId) tenant.rateLimitTpm
      (tenant.rateLimitTpm / 60) promptTokens)
    if tpm.allowed = false then Prog.raise (.rateLimit (tpmExceeded tenant))
    else
      let estimatedCost := estimatePromptCostUsd model promptTokens providerName
      if estimatedCost > 0 then
        let month ← call .utcMonth
        let budget ← call (.checkAndReserveBudget (budgetKey tenant.tenantId month) estimatedCost
          tenant.monthlyBudgetUsd.value)
        if budget.allowed = false then Prog.raise (.rateLimit (budgetExceeded tenant))
        else pure ()
      else pure ()

def rateLimitHttpException (exc : RateLimitExceeded) : HttpException :=
  ⟨429, openaiError exc.message "rate_limit_error" exc.code,
    match exc.retryAfterSeconds with
    | some seconds => if seconds = 0 then [] else [("Retry-After", toString seconds)]
    | none => []⟩

end RequestLimits

section Security

/-- `tuple(sorted(set))`. -/
def sortedSet (items : List String) : List String :=
  items.dedup.insertionSort (· ≤ ·)

structure PiiRedactionResult where
  redactedText : String
  entityTypes : List String

def redact (text : String) : GatewayProg PiiRedactionResult :=
  if text = "" then pure ⟨text, []⟩
  else do
    let findings ← call (.analyze text)
    if findings = [] then pure ⟨text, []⟩
    else
      let anonymized ← call (.anonymize text findings)
      return ⟨anonymized, sortedSet findings⟩

def redactMessage (message : ChatMessage) : GatewayProg (ChatMessage × List String) :=
  match message.content with
  | .text content => do
    let result ← redact content
    if result.entityTypes ≠ [] then
      return ({ message with content := .text result.redactedText }, result.entityTypes)
    else return (message, [])
  | .null | .parts _ => pure (message, [])

/-- The loop of `redact_messages`, with the entity types of all messages. -/
def redactEach : List ChatMessage → GatewayProg (List ChatMessage × List String)
  | [] => pure ([], [])
  | message :: rest => do
    let (redacted, entityTypes) ← redactMessage message
    let (others, otherTypes) ← redactEach rest
    return (redacted :: others, entityTypes ++ otherTypes)

def redactMessages (messages : List ChatMessage) :
    GatewayProg (List ChatMessage × List String) := do
  let (redacted, entityTypes) ← redactEach messages
  return (redacted, sortedSet entityTypes)

/-- The redaction step of `_run_security_pipeline`. -/
def redactionStep (request : ChatRequest) : GatewayProg (List ChatMessage) :=
  if request.tenant.piiRedactionEnabled then do
    let (messages, entityTypes) ← redactMessages request.body.messages
    if entityTypes ≠ [] then
      call (.metric .piiRedactions)
      writeAuditEvent auditSession (some request.tenant.tenantId) "pii.redacted"
        request.correlationId [("entity_types", .arr (entityTypes.map .str))]
      return messages
    else return messages
  else pure request.body.messages

/-- The text that is scanned: the string contents of the user's messages. -/
def userText (messages : List ChatMessage) : String :=
  "\n".intercalate (messages.filterMap fun m =>
    match m.content with
    | .text s => if m.role = "user" then some s else none
    | .null | .parts _ => none)

def injectionBlocked : HttpException :=
  ⟨403, openaiError "Request flagged as a likely prompt injection attempt."
    "invalid_request_error" "prompt_injection_detected", []⟩

def verdictDetail (lib : Libraries) (mode : InjectionMode) (verdict : InjectionVerdict) : JsonObject :=
  [("score", .float (lib.reprRounded verdict.score)),
    ("matched_heuristic", .bool verdict.matchedHeuristic),
    ("matched_embedding", .bool verdict.matchedEmbedding), ("mode", .str mode.text)]

/-- The detection step of `_run_security_pipeline`. -/
def detectionStep (lib : Libraries) (request : ChatRequest) (messages : List ChatMessage) :
    GatewayProg Unit :=
  let tenant := request.tenant
  if tenant.injectionDetectionEnabled then do
    let verdict ← call (.detect (userText messages))
    if tenant.injectionDetectionThreshold.reachedBy verdict.score then
      call (.metric (.injectionDetections tenant.injectionDetectionMode))
      writeAuditEvent auditSession (some tenant.tenantId)
        (if tenant.injectionDetectionMode = .block then "injection.blocked" else "injection.detected")
        request.correlationId (verdictDetail lib tenant.injectionDetectionMode verdict)
      if tenant.injectionDetectionMode = .block then Prog.raise (.http injectionBlocked)
      else pure ()
    else pure ()
  else pure ()

def runSecurityPipeline (lib : Libraries) (request : ChatRequest) :
    GatewayProg ChatCompletionRequest := do
  let messages ← redactionStep request
  detectionStep lib request messages
  return { request.body with messages := messages }

end Security

section Usage

/-- `Decimal(str(round(cost, 6)))` for a double of this value, as far as it fits the column. -/
def roundedCost (cost : ℚ) : Decimal := ⟨roundHalfEven (cost * 10 ^ 6), 6⟩

def usageRecord (request : ChatRequest) (providerName model : String)
    (promptTokens completionTokens : ℤ) (cacheHit : Bool) (cost : ℚ) : UsageRecord where
  tenantId := request.tenant.tenantId
  apiKeyId := request.tenant.apiKeyId
  provider := providerName
  model := model
  promptTokens := promptTokens
  completionTokens := completionTokens
  totalTokens := promptTokens + completionTokens
  costUsd := roundedCost cost
  cacheHit := cacheHit
  correlationId := request.correlationId

def recordUsage (request : ChatRequest) (providerName model : String)
    (promptTokens completionTokens : ℤ) (cacheHit : Bool) : GatewayProg Unit := do
  usageSession.setRlsContext (some request.tenant.tenantId) false
  let cost ← call (.calculateCostUsd model promptTokens completionTokens providerName)
  usageSession.commitRow
    (usageRecord request providerName model promptTokens completionTokens cacheHit cost)
  call (.metric (.chatCompletions providerName .success))
  call (.metric (.usageCostUsd providerName cost))
  call (.metric (.usageTokens providerName "prompt" promptTokens))
  call (.metric (.usageTokens providerName "completion" completionTokens))

/-- `calculate_cost_usd` as a function of its arguments, with `none` where it raises or overflows. -/
abbrev CostFunction := String → ℤ → ℤ → String → Option ℚ

/-- The cost where no double is rounded. -/
def exactCosts : CostFunction := fun model promptTokens completionTokens providerName =>
  some (calculateCostUsd model promptTokens completionTokens providerName)

/-- A cost is calculated by this function. -/
def pricedBy (costs : CostFunction) : GatewayEvent → Bool
  | ⟨.calculateCostUsd model promptTokens completionTokens providerName, .ok cost⟩ =>
    costs model promptTokens completionTokens providerName = some cost
  | ⟨.calculateCostUsd model promptTokens completionTokens providerName, .error (.other _)⟩ =>
    costs model promptTokens completionTokens providerName = none
  | ⟨.calculateCostUsd _ _ _ _, _⟩ => false
  | _ => true

end Usage

section Cache

def computeCacheKey (lib : Libraries) (tenantId : Uuid) (body : ChatCompletionRequest) : String :=
  "cache:completion:" ++ tenantId.text ++ ":" ++
    lib.sha256Hex (Json.dumps Json.canonicalDump (.obj body.modelDumpWithoutStream))

def getCachedCompletion (lib : Libraries) (key : String) :
    GatewayProg (Option ChatCompletionResponse) := do
  let raw ← call (.getCachedCompletion key)
  match raw with
  | none => return none
  | some text =>
    match lib.modelValidateJson text with
    | some response => return some response
    | none => Prog.raise (.other "ValidationError")

def storeCachedCompletion (config : GatewayConfig) (key : String)
    (response : ChatCompletionResponse) : GatewayProg Unit := do
  let responseJson ← call (.modelDumpJson response)
  call (.storeCachedCompletion key responseJson config.cacheTtlSeconds)

end Cache

section Registry

/-- `_MODEL_PREFIX_ROUTES`. -/
def modelRoutes : List (String × String) :=
  [("gpt-", "openai"), ("o1", "openai"), ("o3", "openai"), ("o4", "openai")]

def defaultProvider : String := "ollama"

def unknownProviderMessage (providers : List String) (model : String) : String :=
  "no provider configured to handle model '" ++ model ++ "' (known: [" ++
    ", ".intercalate ((providers.insertionSort (· ≤ ·)).map fun name => "'" ++ name ++ "'") ++ "])"

/-- The name of the provider that `ProviderRegistry.resolve` finds. -/
def resolve (providers : List String) (model : String) : Except String String :=
  match modelRoutes.find? (fun route => startsWith model route.1 && route.2 ∈ providers) with
  | some route => .ok route.2
  | none =>
    if defaultProvider ∈ providers then .ok defaultProvider
    else .error (unknownProviderMessage providers model)

end Registry
section Calls

theorem encodingFor_uses (model : String) : UsesKinds [.tokenizer] (encodingFor model) := by
  refine (usesKinds_call rfl).handle fun exc => ?_
  cases exc with
  | keyError => exact usesKinds_call rfl
  | _ => trivial

theorem contentTokens_uses (encoding : String) (content : MessageContent) :
    UsesKinds [.tokenizer] (contentTokens encoding content) := by
  cases content with
  | text s => exact usesKinds_call rfl
  | _ => trivial

theorem nameTokens_uses (encoding : String) (message : ChatMessage) :
    UsesKinds [.tokenizer] (nameTokens encoding message) := by
  rw [nameTokens]
  split
  · exact (usesKinds_call rfl).bind fun _ => trivial
  · trivial

theorem countMessages_uses (encoding : String) (messages : List ChatMessage) (numTokens : ℕ) :
    UsesKinds [.tokenizer] (countMessages encoding messages numTokens) := by
  induction messages generalizing numTokens with
  | nil => trivial
  | cons message rest ih =>
    refine (usesKinds_call rfl).bind fun role => ?_
    refine (contentTokens_uses encoding message.content).bind fun content => ?_
    exact (nameTokens_uses encoding message).bind fun name => ih _

theorem countPromptTokens_uses (messages : List ChatMessage) (model : String) :
    UsesKinds [.tokenizer] (countPromptTokens messages model) := by
  refine (encodingFor_uses model).bind fun encoding => ?_
  exact (countMessages_uses encoding messages 0).bind fun _ => trivial

theorem countTextTokens_uses (text model : String) :
    UsesKinds [.tokenizer] (countTextTokens text model) :=
  (encodingFor_uses model).bind fun _ => usesKinds_call rfl

theorem enforceRequestLimits_uses (tenant : TenantContext) (providerName model : String)
    (promptTokens : ℕ) :
    UsesKinds [.limiter] (enforceRequestLimits tenant providerName model promptTokens) := by
  refine (usesKinds_call rfl).bind fun rpm => ?_
  split
  · trivial
  · refine (usesKinds_call rfl).bind fun tpm => ?_
    split
    · trivial
    · simp only
      split
      · refine (usesKinds_call rfl).bind fun month => ?_
        refine (usesKinds_call rfl).bind fun budget => ?_
        split <;> trivial
      · trivial

theorem redact_uses (text : String) : UsesKinds [.redactor] (redact text) := by
  rw [redact]
  split
  · trivial
  · refine (usesKinds_call rfl).bind fun findings => ?_
    split
    · trivial
    · exact (usesKinds_call rfl).bind fun _ => trivial

theorem redactMessage_uses (message : ChatMessage) :
    UsesKinds [.redactor] (redactMessage message) := by
  rw [redactMessage]
  split
  · refine (redact_uses _).bind fun result => ?_
    split <;> trivial
  · trivial
  · trivial

theorem redactEach_uses (messages : List ChatMessage) :
    UsesKinds [.redactor] (redactEach messages) := by
  induction messages with
  | nil => trivial
  | cons message rest ih =>
    refine (redactMessage_uses message).bind fun redacted => ?_
    exact ih.bind fun _ => trivial

theorem redactMessages_uses (messages : List ChatMessage) :
    UsesKinds [.redactor] (redactMessages messages) :=
  (redactEach_uses messages).bind fun _ => trivial

theorem writeAuditEvent_uses (tenantId : Option Uuid) (eventType : String)
    (correlationId : Option String) (detail : JsonObject) :
    UsesKinds [.security, .audit]
      (writeAuditEvent auditSession tenantId eventType correlationId detail) :=
  (usesKinds_call rfl).bind fun _ => usesKinds_call rfl

theorem redactionStep_uses (request : ChatRequest) :
    UsesKinds [.redactor, .metric, .security, .audit] (redactionStep request) := by
  rw [redactionStep]
  split
  · refine ((redactMessages_uses _).weaken (by decide)).bind ?_
    rintro ⟨messages, entityTypes⟩
    simp only
    split
    · refine (usesKinds_call rfl).bind fun _ => ?_
      exact ((writeAuditEvent_uses _ _ _ _).weaken (by decide)).bind fun _ => trivial
    · trivial
  · trivial

theorem detectionStep_uses (lib : Libraries) (request : ChatRequest) (messages : List ChatMessage) :
    UsesKinds [.detector, .metric, .security, .audit] (detectionStep lib request messages) := by
  rw [detectionStep]
  split
  · refine (usesKinds_call rfl).bind fun verdict => ?_
    split
    · refine (usesKinds_call rfl).bind fun _ => ?_
      refine ((writeAuditEvent_uses _ _ _ _).weaken (by decide)).bind fun _ => ?_
      split <;> trivial
    · trivial
  · trivial

theorem runSecurityPipeline_uses (lib : Libraries) (request : ChatRequest) :
    UsesKinds [.redactor, .detector, .metric, .security, .audit]
      (runSecurityPipeline lib request) := by
  refine ((redactionStep_uses request).weaken (by decide)).bind fun messages => ?_
  exact ((detectionStep_uses lib request messages).weaken (by decide)).bind fun _ => trivial

theorem recordUsage_uses (request : ChatRequest) (providerName model : String)
    (promptTokens completionTokens : ℤ) (cacheHit : Bool) :
    UsesKinds [.security, .cost, .usage, .metric]
      (recordUsage request providerName model promptTokens completionTokens cacheHit) := by
  refine (usesKinds_call rfl).bind fun _ => ?_
  refine (usesKinds_call rfl).bind fun _ => ?_
  refine (usesKinds_call rfl).bind fun _ => ?_
  refine (usesKinds_call rfl).bind fun _ => ?_
  refine (usesKinds_call rfl).bind fun _ => ?_
  exact (usesKinds_call rfl).bind fun _ => usesKinds_call rfl

theorem getCachedCompletion_uses (lib : Libraries) (key : String) :
    UsesKinds [.readCache] (getCachedCompletion lib key) := by
  refine (usesKinds_call rfl).bind fun raw => ?_
  cases raw with
  | none => trivial
  | some text =>
    simp only
    split <;> trivial

theorem storeCachedCompletion_uses (config : GatewayConfig) (key : String)
    (response : ChatCompletionResponse) :
    UsesKinds [.dump, .writeCache] (storeCachedCompletion config key response) :=
  (usesKinds_call rfl).bind fun _ => usesKinds_call rfl

end Calls

section Counting
variable {G : Type} {M : Monitor GatewayOp GatewayRet Exn G} {m : Exn → G → G}

theorem countPromptTokens_steady (lookup : ∀ model, Steady M m (encodingFor model))
    (encode : ∀ encoding text, Steady M m (call (.encode encoding text)))
    (messages : List ChatMessage) (model : String) :
    Steady M m (countPromptTokens messages model) := by
  have content (encoding : String) (c : MessageContent) : Steady M m (contentTokens encoding c) := by
    cases c with
    | text s => exact encode encoding s
    | _ => exact steady_pure _
  have name (encoding : String) (message : ChatMessage) :
      Steady M m (nameTokens encoding message) := by
    rw [nameTokens]
    split
    · exact (encode encoding _).bind fun _ => steady_pure _
    · exact steady_pure _
  have each (encoding : String) (messages : List ChatMessage) (numTokens : ℕ) :
      Steady M m (countMessages encoding messages numTokens) := by
    induction messages generalizing numTokens with
    | nil => exact steady_pure _
    | cons message rest ih =>
      refine (encode encoding message.role).bind fun role => ?_
      refine (content encoding message.content).bind fun tokens => ?_
      exact (name encoding message).bind fun named => ih _
  refine (lookup model).bind fun encoding => ?_
  exact (each encoding messages 0).bind fun _ => steady_pure _

theorem countTextTokens_steady (lookup : ∀ model, Steady M m (encodingFor model))
    (encode : ∀ encoding text, Steady M m (call (.encode encoding text))) (text model : String) :
    Steady M m (countTextTokens text model) :=
  (lookup model).bind fun encoding => encode encoding text

end Counting
end AegisGateway
