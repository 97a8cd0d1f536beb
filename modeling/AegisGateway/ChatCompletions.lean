import AegisGateway.RequestPipeline

set_option autoImplicit false

/-!
# The chat completions handler

`chat_completions` of `api/proxy.py` and the two generators that stream its
answers. A streamed answer is the generator itself; `serve` runs it when the
client takes it up.
-/
namespace AegisGateway
open EffectProgram

/-- What the handler returns: a JSON body with its headers, or a stream. -/
inductive GatewayResponse where
  | json (content : String) (headers : List (String × String))
  | stream (source : StreamSource) (generator : GatewayProg Unit)

def completionText (choices : List JsonObject) : String :=
  String.join (choices.filterMap fun choice =>
    match Json.get choice "message" with
    | .obj message =>
      match Json.get message "content" with
      | .str content => some content
      | _ => none
    | _ => none)

/-- `if idempotency_key: await release_lock(...)`. -/
def releaseLockIfKeyed (request : ChatRequest) : GatewayProg Unit :=
  match request.key with
  | some key => call (.releaseLock request.tenant.tenantId key)
  | none => pure ()

/-- `if idempotency_key:` store the response and release the lock. -/
def storeAndReleaseIfKeyed (request : ChatRequest) (responseJson : String) : GatewayProg Unit :=
  match request.key with
  | some key => do
    call (.storeResponse request.tenant.tenantId key responseJson)
    call (.releaseLock request.tenant.tenantId key)
  | none => pure ()

def releaseSlot (request : ChatRequest) : GatewayProg Unit :=
  call (.releaseConcurrencySlot request.tenant.tenantId)

section Streams

def cachedChunk (response : ChatCompletionResponse) : Json :=
  .obj [("id", .str response.id), ("object", .str "chat.completion.chunk"),
    ("created", .int response.created), ("model", .str response.model),
    ("choices", .arr [.obj [("index", .int 0),
      ("delta", .obj [("role", .str "assistant"),
        ("content", .str (completionText response.choices))]),
      ("finish_reason", .str "stop")]])]

/-- The `finally` block of `_stream_cached_completion`. -/
def finishCachedStream (request : ChatRequest) (providerName : String)
    (response : ChatCompletionResponse) : GatewayProg Unit := do
  match response.usage with
  | some usage =>
    recordUsage request providerName response.model usage.promptTokens usage.completionTokens true
    releaseLockIfKeyed request
  | none => releaseLockIfKeyed request

def streamCachedCompletion (request : ChatRequest) (providerName : String)
    (response : ChatCompletionResponse) : GatewayProg Unit :=
  Prog.ensure (do
      call (.yieldFrame (.chunk (cachedChunk response)))
      call (.yieldFrame .finished))
    (finishCachedStream request providerName response)

/-- The content of a choice's delta, if there is one. -/
def deltaContent : Json → Option String
  | .obj choice =>
    match Json.get choice "delta" with
    | .obj delta =>
      match Json.get delta "content" with
      | .str content => some content
      | _ => none
    | _ => none
  | _ => none

/-- What the loop over `chunk.get("choices") or []` appends, or what it raises. A
string or an object is iterated by its characters or keys, which are no objects. -/
def chunkContents : Json → Except Exn (List String)
  | .obj members =>
    let choices := Json.get members "choices"
    if choices.truthy then
      match choices with
      | .arr items => .ok (items.filterMap deltaContent)
      | .str _ | .obj _ => .ok []
      | _ => .error (.other "TypeError")
    else .ok []
  | _ => .error (.other "AttributeError")

/-- The `async for` loop and the final frame: the collected parts, and how the `try`
block ends. -/
def streamLoop : List Json → Option Exn → List String →
    GatewayProg (List String × Except Exn Unit)
  | [], some exc, parts => pure (parts, .error exc)
  | [], none, parts => do
    let sent ← (call (.yieldFrame .finished)).attempt
    return (parts, sent)
  | chunk :: rest, ending, parts =>
    match chunkContents chunk with
    | .error exc => pure (parts, .error exc)
    | .ok contents => do
      let sent ← (call (.yieldFrame (.chunk chunk))).attempt
      match sent with
      | .error exc => return (parts ++ contents, .error exc)
      | .ok _ => streamLoop rest ending (parts ++ contents)

/-- The `try` block of `_stream_chat_completion`. -/
def readUpstream (body : ChatCompletionRequest) :
    GatewayProg (List String × Except Exn Unit) := do
  let started ← (call (.streamChatCompletion body)).attempt
  match started with
  | .error exc => return ([], .error exc)
  | .ok stream => streamLoop stream.chunks stream.ending []

/-- The `except ProviderError` clause: whether the stream counts as a success, and
the exception that is still under way. -/
def settleStream : Except Exn Unit → GatewayProg (Bool × Except Exn Unit)
  | .error (.provider exc) => do
    let sent ← (call (.yieldFrame
      (.error (openaiError exc.str "upstream_error" "provider_error")))).attempt
    return (false, sent)
  | outcome => pure (true, outcome)

def cacheableResponse (body : ChatCompletionRequest) (text : String)
    (promptTokens completionTokens : ℕ) (hex : String) (created : ℤ) : ChatCompletionResponse where
  id := "chatcmpl-cache-" ++ hex
  object := "chat.completion"
  created := created
  model := body.model
  choices := [[("index", .int 0),
    ("message", .obj [("role", .str "assistant"), ("content", .str text)]),
    ("finish_reason", .str "stop")]]
  usage := some ⟨promptTokens, completionTokens, promptTokens + completionTokens, []⟩
  extra := []

/-- Caching a successful stream, if there is a key and something to cache. -/
def cacheStream (config : GatewayConfig) (body : ChatCompletionRequest) (cacheKey : Option String)
    (text : String) (promptTokens completionTokens : ℕ) : GatewayProg Unit :=
  match cacheKey with
  | some key =>
    if text ≠ "" then do
      let hex ← call .uuid4Hex
      let created ← call .timeTime
      storeCachedCompletion config key
        (cacheableResponse body text promptTokens completionTokens hex created)
    else pure ()
  | none => pure ()

/-- What the `finally` block does before it releases anything. -/
def bookStream (config : GatewayConfig) (request : ChatRequest) (providerName : String)
    (body : ChatCompletionRequest) (promptTokens : ℕ) (cacheKey : Option String)
    (succeeded : Bool) (parts : List String) : GatewayProg Unit := do
  call (.metric (.providerCallDuration providerName (if succeeded then .success else .error)))
  if succeeded then
    let completionTokens ← countTextTokens (String.join parts) body.model
    recordUsage request providerName body.model promptTokens completionTokens false
    cacheStream config body cacheKey (String.join parts) promptTokens completionTokens
  else
    call (.metric (.chatCompletions providerName .error))
    let _ ← countTextTokens (String.join parts) body.model

/-- The `finally` block of `_stream_chat_completion`. -/
def finishStream (config : GatewayConfig) (request : ChatRequest) (providerName : String)
    (body : ChatCompletionRequest) (promptTokens : ℕ) (cacheKey : Option String)
    (succeeded : Bool) (parts : List String) : GatewayProg Unit := do
  bookStream config request providerName body promptTokens cacheKey succeeded parts
  releaseSlot request
  releaseLockIfKeyed request

def streamChatCompletion (config : GatewayConfig) (request : ChatRequest) (providerName : String)
    (body : ChatCompletionRequest) (promptTokens : ℕ) (cacheKey : Option String) :
    GatewayProg Unit := do
  let (parts, outcome) ← readUpstream body
  let (succeeded, pendingResult) ← settleStream outcome
  finishStream config request providerName body promptTokens cacheKey succeeded parts
  .done pendingResult

end Streams

section Handler

def keyInUse : HttpException :=
  ⟨409, openaiError "A request with this Idempotency-Key is already in progress."
    "invalid_request_error" "idempotency_key_in_use", []⟩

def modelNotFound (message : String) : HttpException :=
  ⟨400, openaiError message "invalid_request_error" "model_not_found", []⟩

def tooManyRequests (limit : ℤ) : HttpException :=
  ⟨429, openaiError ("Too many concurrent requests (limit " ++ toString limit ++ ").")
    "rate_limit_error" "concurrency_limit_exceeded", [("Retry-After", "1")]⟩

/-- A cache hit. The slot goes back before anything else. -/
def answerFromCache (request : ChatRequest) (providerName : String)
    (body : ChatCompletionRequest) (cached : ChatCompletionResponse) :
    GatewayProg GatewayResponse := do
  releaseSlot request
  if body.stream then
    return .stream .cached (streamCachedCompletion request providerName cached)
  else
    match cached.usage with
    | some usage =>
      recordUsage request providerName body.model usage.promptTokens usage.completionTokens true
    | none => pure ()
    let responseJson ← call (.modelDumpJson cached)
    storeAndReleaseIfKeyed request responseJson
    return .json responseJson [("X-Cache", "hit")]

/-- `provider.chat_completion` with its `except` and `finally` clauses. -/
def callProvider (request : ChatRequest) (providerName : String) (body : ChatCompletionRequest) :
    GatewayProg ChatCompletionResponse :=
  Prog.ensure
    ((call (.chatCompletion body)).handle fun
      | .provider exc => do
        call (.metric (.providerCallDuration providerName .error))
        call (.metric (.chatCompletions providerName .error))
        releaseLockIfKeyed request
        Prog.raise (.http (providerErrorToHttpException exc))
      | exc => Prog.raise exc)
    (releaseSlot request)

/-- The usage a provider left out is counted. -/
def withUsage (body : ChatCompletionRequest) (promptTokens : ℕ)
    (response : ChatCompletionResponse) : GatewayProg (ChatCompletionResponse × Usage) :=
  match response.usage with
  | some usage => pure (response, usage)
  | none => do
    let completionTokens ← countTextTokens (completionText response.choices) body.model
    let usage : Usage := ⟨promptTokens, completionTokens, promptTokens + completionTokens, []⟩
    return ({ response with usage := some usage }, usage)

def storeIfCaching (config : GatewayConfig) (cacheKey : Option String)
    (response : ChatCompletionResponse) : GatewayProg Unit :=
  match cacheKey with
  | some key => storeCachedCompletion config key response
  | none => pure ()

/-- What follows the provider's answer. -/
def bookAnswer (config : GatewayConfig) (request : ChatRequest) (providerName : String)
    (body : ChatCompletionRequest) (promptTokens : ℕ) (cacheKey : Option String)
    (received : ChatCompletionResponse) : GatewayProg GatewayResponse := do
  call (.metric (.providerCallDuration providerName .success))
  let (response, usage) ← withUsage body promptTokens received
  storeIfCaching config cacheKey response
  recordUsage request providerName body.model usage.promptTokens usage.completionTokens false
  let responseJson ← call (.modelDumpJson response)
  storeAndReleaseIfKeyed request responseJson
  return .json responseJson [("X-Cache", "miss")]

def answerFromProvider (config : GatewayConfig) (request : ChatRequest) (providerName : String)
    (body : ChatCompletionRequest) (promptTokens : ℕ) (cacheKey : Option String) :
    GatewayProg GatewayResponse := do
  let received ← callProvider request providerName body
  bookAnswer config request providerName body promptTokens cacheKey received

/-- From the cache lookup on. -/
def answer (config : GatewayConfig) (request : ChatRequest) (providerName : String)
    (body : ChatCompletionRequest) (promptTokens : ℕ) : GatewayProg GatewayResponse := do
  if request.tenant.cacheEnabled then
    let cacheKey := computeCacheKey config.lib request.tenant.tenantId body
    let cached ← getCachedCompletion config.lib cacheKey
    call (.metric (.cacheLookups cached.isSome))
    match cached with
    | some response => answerFromCache request providerName body response
    | none =>
      if body.stream then
        return .stream .provider
          (streamChatCompletion config request providerName body promptTokens (some cacheKey))
      else answerFromProvider config request providerName body promptTokens (some cacheKey)
  else if body.stream then
    return .stream .provider
      (streamChatCompletion config request providerName body promptTokens none)
  else answerFromProvider config request providerName body promptTokens none

/-- The request limits and the concurrency slot, with what a refusal releases. -/
def enforceLimits (request : ChatRequest) (providerName : String) (promptTokens : ℕ) :
    GatewayProg Unit := do
  (enforceRequestLimits request.tenant providerName request.body.model promptTokens).handle fun
    | .rateLimit exc => do
      call (.metric (.rateLimitRejections exc.code))
      call (.metric (.chatCompletions providerName .rateLimited))
      releaseLockIfKeyed request
      Prog.raise (.http (rateLimitHttpException exc))
    | exc => Prog.raise exc
  let acquired ← call (.acquireConcurrencySlot request.tenant.tenantId
    request.tenant.maxConcurrentRequests)
  if acquired then pure ()
  else
    call (.metric (.rateLimitRejections "concurrency_limit_exceeded"))
    call (.metric (.chatCompletions providerName .rateLimited))
    releaseLockIfKeyed request
    Prog.raise (.http (tooManyRequests request.tenant.maxConcurrentRequests))

/-- The security pipeline, with what an HTTP error of it releases. -/
def screen (config : GatewayConfig) (request : ChatRequest) (providerName : String) :
    GatewayProg ChatCompletionRequest :=
  (runSecurityPipeline config.lib request).handle fun
    | .http exc => do
      call (.metric (.chatCompletions providerName .blocked))
      releaseSlot request
      releaseLockIfKeyed request
      Prog.raise (.http exc)
    | exc => Prog.raise exc

/-- From the resolved provider on, when the lock is held. -/
def process (config : GatewayConfig) (request : ChatRequest) : GatewayProg GatewayResponse :=
  match resolve config.providers request.body.model with
  | .error message => do
    releaseLockIfKeyed request
    Prog.raise (.http (modelNotFound message))
  | .ok providerName => do
    let promptTokens ← countPromptTokens request.body.messages request.body.model
    enforceLimits request providerName promptTokens
    let body ← screen config request providerName
    answer config request providerName body promptTokens

/-- The lock on the idempotency key, and all that happens under it. -/
def lockAndProcess (config : GatewayConfig) (request : ChatRequest) :
    GatewayProg GatewayResponse :=
  match request.key with
  | none => process config request
  | some key => do
    let acquired ← call (.tryAcquireLock request.tenant.tenantId key)
    if acquired then process config request
    else Prog.raise (.http keyInUse)

def chatCompletions (config : GatewayConfig) (request : ChatRequest) :
    GatewayProg GatewayResponse :=
  match request.key, request.body.stream with
  | some key, false => do
    let cached ← call (.getCachedResponse request.tenant.tenantId key)
    match cached with
    | some content => return .json content [("Idempotency-Replayed", "true")]
    | none => lockAndProcess config request
  | _, _ => lockAndProcess config request

/-- What the client got: a JSON body, or a stream that has come to its end. -/
inductive Answer where
  | json (content : String) (headers : List (String × String))
  | streamed

def deliver : GatewayResponse → GatewayProg Answer
  | .json content headers => pure (.json content headers)
  | .stream source generator => do
    call (.beginStream source)
    generator
    return .streamed

/-- The whole request, with the streaming of its answer. -/
def serve (config : GatewayConfig) (request : ChatRequest) : GatewayProg Answer := do
  let response ← chatCompletions config request
  deliver response

end Handler

section Calls

theorem releaseLockIfKeyed_uses (request : ChatRequest) :
    UsesKinds [.releaseLock] (releaseLockIfKeyed request) := by
  rw [releaseLockIfKeyed]
  split
  · exact usesKinds_call rfl
  · trivial

variable (config : GatewayConfig) (request : ChatRequest) (providerName : String)
  (body : ChatCompletionRequest) (promptTokens : ℕ) (cacheKey : Option String)

theorem storeAndReleaseIfKeyed_uses (responseJson : String) :
    UsesKinds [.storeResponse, .releaseLock] (storeAndReleaseIfKeyed request responseJson) := by
  rw [storeAndReleaseIfKeyed]
  split
  · exact (usesKinds_call rfl).bind fun _ => usesKinds_call rfl
  · trivial

theorem finishCachedStream_uses (response : ChatCompletionResponse) :
    UsesKinds [.security, .cost, .usage, .metric, .releaseLock]
      (finishCachedStream request providerName response) := by
  rw [finishCachedStream]
  split
  · refine ((recordUsage_uses _ _ _ _ _ _).weaken (by decide)).bind fun _ => ?_
    exact (releaseLockIfKeyed_uses request).weaken (by decide)
  · exact (releaseLockIfKeyed_uses request).weaken (by decide)

theorem streamCachedCompletion_uses (response : ChatCompletionResponse) :
    UsesKinds [.yield, .security, .cost, .usage, .metric, .releaseLock]
      (streamCachedCompletion request providerName response) := by
  refine Prog.Uses.ensure ?_ ((finishCachedStream_uses request providerName response).weaken
    (by decide))
  exact (usesKinds_call rfl).bind fun _ => usesKinds_call rfl

theorem streamLoop_uses (chunks : List Json) (ending : Option Exn) (parts : List String) :
    UsesKinds [.yield] (streamLoop chunks ending parts) := by
  have attempted (frame : Frame) : UsesKinds [.yield] (call (.yieldFrame frame)).attempt :=
    (usesKinds_call rfl).andThen fun _ => trivial
  induction chunks generalizing parts with
  | nil =>
    cases ending with
    | some exc => trivial
    | none => exact (attempted _).bind fun _ => trivial
  | cons chunk rest ih =>
    rw [streamLoop]
    split
    · trivial
    · refine (attempted _).bind fun sent => ?_
      cases sent with
      | error exc => trivial
      | ok _ => exact ih _

theorem readUpstream_uses (body : ChatCompletionRequest) :
    UsesKinds [.stream, .yield] (readUpstream body) := by
  refine Prog.Uses.bind ((usesKinds_call rfl).andThen fun _ => trivial) fun started => ?_
  cases started with
  | error exc => trivial
  | ok stream => exact (streamLoop_uses _ _ _).weaken (by decide)

theorem settleStream_uses (outcome : Except Exn Unit) :
    UsesKinds [.yield] (settleStream outcome) := by
  rw [settleStream.eq_def]
  split
  · refine Prog.Uses.bind ?_ fun _ => trivial
    exact (usesKinds_call rfl).andThen fun _ => trivial
  · trivial

theorem answerFromCache_uses (cached : ChatCompletionResponse) :
    UsesKinds [.releaseSlot, .security, .cost, .usage, .metric, .dump, .storeResponse, .releaseLock]
      (answerFromCache request providerName body cached) := by
  refine (usesKinds_call rfl).bind fun _ => ?_
  have stored : UsesKinds
      [.releaseSlot, .security, .cost, .usage, .metric, .dump, .storeResponse, .releaseLock]
      (do
        let responseJson ← call (.modelDumpJson cached)
        storeAndReleaseIfKeyed request responseJson
        return GatewayResponse.json responseJson [("X-Cache", "hit")]) := by
    refine (usesKinds_call rfl).bind fun _ => ?_
    exact ((storeAndReleaseIfKeyed_uses request _).weaken (by decide)).bind fun _ => trivial
  split
  · trivial
  · split
    · exact ((recordUsage_uses _ _ _ _ _ _).weaken (by decide)).bind fun _ => stored
    · exact stored

theorem callProvider_uses :
    UsesKinds [.chat, .metric, .releaseLock, .releaseSlot]
      (callProvider request providerName body) := by
  refine Prog.Uses.ensure ((usesKinds_call rfl).handle fun exc => ?_) (usesKinds_call rfl)
  cases exc with
  | provider e =>
    refine (usesKinds_call rfl).bind fun _ => (usesKinds_call rfl).bind fun _ => ?_
    exact ((releaseLockIfKeyed_uses request).weaken (by decide)).bind fun _ => trivial
  | _ => trivial

theorem withUsage_uses (response : ChatCompletionResponse) :
    UsesKinds [.tokenizer] (withUsage body promptTokens response) := by
  rw [withUsage]
  split
  · trivial
  · exact (countTextTokens_uses _ _).bind fun _ => trivial

theorem storeIfCaching_uses (response : ChatCompletionResponse) :
    UsesKinds [.dump, .writeCache] (storeIfCaching config cacheKey response) := by
  cases cacheKey with
  | none => trivial
  | some key => exact storeCachedCompletion_uses config key response

theorem bookAnswer_uses (received : ChatCompletionResponse) :
    UsesKinds [.metric, .tokenizer, .dump, .writeCache, .security, .cost, .usage, .storeResponse,
      .releaseLock]
      (bookAnswer config request providerName body promptTokens cacheKey received) := by
  refine (usesKinds_call rfl).bind fun _ => ?_
  refine ((withUsage_uses _ _ _).weaken (by decide)).bind fun counted => ?_
  refine ((storeIfCaching_uses _ _ _).weaken (by decide)).bind fun _ => ?_
  refine ((recordUsage_uses _ _ _ _ _ _).weaken (by decide)).bind fun _ => ?_
  refine (usesKinds_call rfl).bind fun _ => ?_
  exact ((storeAndReleaseIfKeyed_uses _ _).weaken (by decide)).bind fun _ => trivial

theorem enforceLimits_uses :
    UsesKinds [.limiter, .metric, .releaseLock, .acquireSlot]
      (enforceLimits request providerName promptTokens) := by
  have refused (reason : String) (exc : HttpException) :
      UsesKinds [.limiter, .metric, .releaseLock, .acquireSlot]
        (do
          call (.metric (.rateLimitRejections reason))
          call (.metric (.chatCompletions providerName .rateLimited))
          releaseLockIfKeyed request
          Prog.raise (.http exc) : GatewayProg Unit) := by
    refine (usesKinds_call rfl).bind fun _ => (usesKinds_call rfl).bind fun _ => ?_
    exact ((releaseLockIfKeyed_uses request).weaken (by decide)).bind fun _ => trivial
  refine Prog.Uses.bind ?_ fun _ => (usesKinds_call rfl).bind fun acquired => ?_
  · refine ((enforceRequestLimits_uses _ _ _ _).weaken (by decide)).handle fun exc => ?_
    cases exc with
    | rateLimit e => exact refused _ _
    | _ => trivial
  · split
    · trivial
    · exact refused _ _

theorem screen_uses :
    UsesKinds [.redactor, .detector, .metric, .security, .audit, .releaseSlot, .releaseLock]
      (screen config request providerName) := by
  refine ((runSecurityPipeline_uses _ _).weaken (by decide)).handle fun exc => ?_
  cases exc with
  | http e =>
    refine (usesKinds_call rfl).bind fun _ => (usesKinds_call rfl).bind fun _ => ?_
    exact ((releaseLockIfKeyed_uses request).weaken (by decide)).bind fun _ => trivial
  | _ => trivial

theorem cacheStream_uses (text : String) (completionTokens : ℕ) :
    UsesKinds [.clock, .dump, .writeCache]
      (cacheStream config body cacheKey text promptTokens completionTokens) := by
  cases cacheKey with
  | none => trivial
  | some key =>
    simp only [cacheStream]
    split
    · refine (usesKinds_call rfl).bind fun hex => ?_
      refine (usesKinds_call rfl).bind fun created => ?_
      exact (storeCachedCompletion_uses _ _ _).weaken (by decide)
    · trivial

theorem bookStream_uses (succeeded : Bool) (parts : List String) :
    UsesKinds [.metric, .tokenizer, .security, .cost, .usage, .clock, .dump, .writeCache]
      (bookStream config request providerName body promptTokens cacheKey succeeded parts) := by
  refine (usesKinds_call rfl).bind fun _ => ?_
  cases succeeded with
  | true =>
    refine ((countTextTokens_uses _ _).weaken (by decide)).bind fun completionTokens => ?_
    refine ((recordUsage_uses _ _ _ _ _ _).weaken (by decide)).bind fun _ => ?_
    exact (cacheStream_uses config body promptTokens cacheKey _ _).weaken (by decide)
  | false =>
    refine (usesKinds_call rfl).bind fun _ => ?_
    exact ((countTextTokens_uses _ _).weaken (by decide)).bind fun _ => trivial

variable {config request providerName body promptTokens cacheKey} in
/-- The `finally` block releases the slot and the lock after its bookkeeping. -/
theorem finishStream_uses_of {kinds : List OpKind} {succeeded : Bool} {parts : List String}
    (books : UsesKinds kinds
      (bookStream config request providerName body promptTokens cacheKey succeeded parts))
    (slot : kinds.contains .releaseSlot = true) (lock : [.releaseLock] ⊆ kinds) :
    UsesKinds kinds
      (finishStream config request providerName body promptTokens cacheKey succeeded parts) := by
  refine books.bind fun _ => (usesKinds_call slot).bind fun _ => ?_
  exact (releaseLockIfKeyed_uses request).weaken lock

theorem finishStream_uses (succeeded : Bool) (parts : List String) :
    UsesKinds [.metric, .tokenizer, .security, .cost, .usage, .clock, .dump, .writeCache, .releaseSlot,
      .releaseLock]
      (finishStream config request providerName body promptTokens cacheKey succeeded parts) := by
  refine finishStream_uses_of ?_ rfl (by decide)
  exact (bookStream_uses config request providerName body promptTokens cacheKey succeeded
    parts).weaken (by decide)

theorem streamChatCompletion_uses :
    UsesKinds [.stream, .yield, .metric, .tokenizer, .security, .cost, .usage, .clock, .dump,
      .writeCache, .releaseSlot, .releaseLock]
      (streamChatCompletion config request providerName body promptTokens cacheKey) := by
  refine ((readUpstream_uses body).weaken (by decide)).bind fun read => ?_
  refine ((settleStream_uses read.2).weaken (by decide)).bind fun settled => ?_
  refine Prog.Uses.bind ?_ fun _ => trivial
  exact (finishStream_uses config request providerName body promptTokens cacheKey settled.1
    read.1).weaken (by decide)

end Calls

section Returns
variable {config : GatewayConfig} {request : ChatRequest} {providerName : String}
  {body : ChatCompletionRequest} {promptTokens : ℕ} {cacheKey : Option String}
  {t : List GatewayEvent} {response : GatewayResponse}

theorem bookAnswer_json {received : ChatCompletionResponse}
    (run : Runs (bookAnswer config request providerName body promptTokens cacheKey received) t
      (.ok response)) : ∃ content headers, response = .json content headers := by
  obtain ⟨_, _, _, _, _, rest⟩ := runs_bind_ok run
  obtain ⟨_, counted, _, _, _, rest⟩ := runs_bind_ok rest
  obtain ⟨_, _, _, _, _, rest⟩ := runs_bind_ok rest
  obtain ⟨_, _, _, _, _, rest⟩ := runs_bind_ok rest
  obtain ⟨_, _, _, _, _, rest⟩ := runs_bind_ok rest
  obtain ⟨_, _, _, _, _, rest⟩ := runs_bind_ok rest
  cases (runs_done rest).2
  exact ⟨_, _, rfl⟩

theorem answerFromCache_returns {cached : ChatCompletionResponse}
    (run : Runs (answerFromCache request providerName body cached) t (.ok response)) :
    (∃ content headers, response = .json content headers) ∨
      response = .stream .cached (streamCachedCompletion request providerName cached) := by
  obtain ⟨_, _, _, _, _, rest⟩ := runs_bind_ok run
  split at rest
  · cases (runs_done rest).2
    exact .inr rfl
  · left
    split at rest
    · obtain ⟨_, _, _, _, _, rest⟩ := runs_bind_ok rest
      obtain ⟨_, _, _, _, _, rest⟩ := runs_bind_ok rest
      obtain ⟨_, _, _, _, _, rest⟩ := runs_bind_ok rest
      cases (runs_done rest).2
      exact ⟨_, _, rfl⟩
    · obtain ⟨_, _, _, _, _, rest⟩ := runs_bind_ok rest
      obtain ⟨_, _, _, _, _, rest⟩ := runs_bind_ok rest
      cases (runs_done rest).2
      exact ⟨_, _, rfl⟩

end Returns

section LocalModel
variable (request : ChatRequest)

/-- The calls of the gates that let a request for the local model through. -/
def admission : List GatewayEvent :=
  [⟨.encodingForModel "llama3", .error .keyError⟩, ⟨.getEncoding fallbackEncoding, .ok "cl100k_base"⟩,
    ⟨.encode "cl100k_base" "user", .ok (1 : ℕ)⟩, ⟨.encode "cl100k_base" "hello", .ok (1 : ℕ)⟩,
    ⟨.checkTokenBucket (rpmBucketKey request.tenant.tenantId) request.tenant.rateLimitRpm
      (request.tenant.rateLimitRpm / 60) 1, .ok ⟨true, 59⟩⟩,
    ⟨.checkTokenBucket (tpmBucketKey request.tenant.tenantId) request.tenant.rateLimitTpm
      (request.tenant.rateLimitTpm / 60) (8 : ℕ), .ok ⟨true, 99992⟩⟩,
    ⟨.acquireConcurrencySlot request.tenant.tenantId request.tenant.maxConcurrentRequests, .ok true⟩]

theorem enforceRequestLimits_local (tenant : TenantContext) (model : String) (promptTokens : ℕ) :
    Runs (enforceRequestLimits tenant "ollama" model promptTokens)
      [⟨.checkTokenBucket (rpmBucketKey tenant.tenantId) tenant.rateLimitRpm
          (tenant.rateLimitRpm / 60) 1, .ok ⟨true, 59⟩⟩,
        ⟨.checkTokenBucket (tpmBucketKey tenant.tenantId) tenant.rateLimitTpm
          (tenant.rateLimitTpm / 60) promptTokens, .ok ⟨true, 99992⟩⟩] (.ok ()) := by
  have free : ¬ Pricing.estimatePromptCostUsd model promptTokens "ollama" > 0 := by
    simp [Pricing.estimatePromptCostUsd, Pricing.priceFor, Pricing.ollamaPricePer1MUsd]
  refine .call (.call ?_)
  change Runs (if Pricing.estimatePromptCostUsd model promptTokens "ollama" > 0 then _ else _) [] _
  rw [if_neg free]
  exact .done _

/-- The limits and the slot that let a request for the local model through. -/
def limits (request : ChatRequest) (promptTokens : ℕ) : List GatewayEvent :=
  [⟨.checkTokenBucket (rpmBucketKey request.tenant.tenantId) request.tenant.rateLimitRpm
      (request.tenant.rateLimitRpm / 60) 1, .ok ⟨true, 59⟩⟩,
    ⟨.checkTokenBucket (tpmBucketKey request.tenant.tenantId) request.tenant.rateLimitTpm
      (request.tenant.rateLimitTpm / 60) promptTokens, .ok ⟨true, 99992⟩⟩,
    ⟨.acquireConcurrencySlot request.tenant.tenantId request.tenant.maxConcurrentRequests, .ok true⟩]

variable {request} in
theorem serve_answering {config : GatewayConfig} {promptTokens : ℕ}
    {counting screening t : List GatewayEvent} {body : ChatCompletionRequest} {r : Except Exn Answer}
    (unkeyed : request.key = none)
    (resolved : resolve config.providers request.body.model = .ok "ollama")
    (counted : Runs (countPromptTokens request.body.messages request.body.model) counting
      (.ok promptTokens))
    (screened : Runs (runSecurityPipeline config.lib request) screening (.ok body))
    (answered : Runs (answer config request "ollama" body promptTokens >>= deliver) t r) :
    Runs (serve config request) ((counting ++ limits request promptTokens ++ screening) ++ t) r := by
  have limited : Runs (enforceLimits request "ollama" promptTokens) (limits request promptTokens)
      (.ok ()) := ((enforceRequestLimits_local _ _ _).handle _).bind (.call (.done _))
  have same : chatCompletions config request = process config request := by
    rw [chatCompletions, unkeyed]
    simp only
    rw [lockAndProcess, unkeyed]
  rw [serve, same, process, resolved]
  simp only [List.append_assoc, Prog.bind_assoc]
  exact counted.bind (limited.bind ((screened.handle _).bind answered))

theorem process_local {stream : Bool} (body : request.body = helloRequest stream)
    {t : List GatewayEvent} {r : Except Exn GatewayResponse}
    (rest : Runs (do
      let body ← screen helloConfig request "ollama"
      answer helloConfig request "ollama" body 8) t r) :
    Runs (process helloConfig request) (admission request ++ t) r := by
  have resolved : resolve helloConfig.providers request.body.model = .ok "ollama" := by
    rw [body]
    change resolve ["ollama"] "llama3" = _
    decide
  have counted : Runs (countPromptTokens request.body.messages request.body.model)
      ((admission request).take 4) (.ok 8) := by
    rw [body]
    exact .call (.call (.call (.call (.done _))))
  have limited : Runs (enforceLimits request "ollama" 8) ((admission request).drop 4) (.ok ()) :=
    ((enforceRequestLimits_local _ _ _).handle _).bind (.call (.done _))
  rw [process, resolved]
  exact counted.bind (limited.bind rest)

/-- The calls that open a request: the replay that is not there, and the lock. -/
def opening : List GatewayEvent :=
  match request.key with
  | none => []
  | some key =>
    (if request.body.stream then []
      else [⟨.getCachedResponse request.tenant.tenantId key, .ok (none : Option String)⟩]) ++
      [⟨.tryAcquireLock request.tenant.tenantId key, .ok true⟩]

theorem chatCompletions_local {stream : Bool} (body : request.body = helloRequest stream)
    {t : List GatewayEvent} {r : Except Exn GatewayResponse}
    (rest : Runs (do
      let body ← screen helloConfig request "ollama"
      answer helloConfig request "ollama" body 8) t r) :
    Runs (chatCompletions helloConfig request) (opening request ++ (admission request ++ t)) r := by
  have processed := process_local request body rest
  rw [chatCompletions, opening]
  cases key_eq : request.key with
  | none =>
    rw [lockAndProcess, key_eq]
    exact processed
  | some key =>
    have locked : Runs (lockAndProcess helloConfig request)
        (⟨.tryAcquireLock request.tenant.tenantId key, .ok true⟩ :: (admission request ++ t)) r := by
      rw [lockAndProcess, key_eq]
      exact .call processed
    rw [body]
    cases stream with
    | true => exact locked
    | false => exact .call locked

/-- The calls that record the usage of the local model's answer. -/
def booking : List GatewayEvent :=
  [⟨.setRlsContext (some request.tenant.tenantId) false, .ok ()⟩,
    ⟨.calculateCostUsd "llama3" 8 1 "ollama", .ok (0 : ℚ)⟩,
    ⟨.commitUsageRecord (usageRecord request "ollama" "llama3" 8 1 false 0), .ok ()⟩,
    ⟨.metric (.chatCompletions "ollama" .success), .ok ()⟩,
    ⟨.metric (.usageCostUsd "ollama" 0), .ok ()⟩,
    ⟨.metric (.usageTokens "ollama" "prompt" 8), .ok ()⟩,
    ⟨.metric (.usageTokens "ollama" "completion" 1), .ok ()⟩]

theorem recordUsage_local :
    Runs (recordUsage request "ollama" "llama3" 8 1 false) (booking request) (.ok ()) :=
  .call (.call (.call (.call (.call (.call (.call (.done _)))))))

/-- The calls that close it: the stored response and the lock. -/
def closing : List GatewayEvent :=
  match request.key with
  | none => []
  | some key => [⟨.storeResponse request.tenant.tenantId key helloDump, .ok ()⟩,
      ⟨.releaseLock request.tenant.tenantId key, .ok ()⟩]

theorem storeAndRelease_local :
    Runs (storeAndReleaseIfKeyed request helloDump) (closing request) (.ok ()) := by
  rw [storeAndReleaseIfKeyed, closing]
  cases request.key with
  | none => exact .done _
  | some key => exact .call (.call (.done _))

theorem answerFromProvider_local :
    Runs (answerFromProvider helloConfig request "ollama" (helloRequest false) 8 none)
      (⟨.chatCompletion (helloRequest false), .ok helloResponse⟩ ::
        ⟨.releaseConcurrencySlot request.tenant.tenantId, .ok ()⟩ ::
        ⟨.metric (.providerCallDuration "ollama" .success), .ok ()⟩ ::
        (booking request ++ (⟨.modelDumpJson helloResponse, .ok helloDump⟩ :: closing request)))
      (.ok (.json helloDump [("X-Cache", "miss")])) := by
  refine .call (.call (.call ?_))
  refine (recordUsage_local request).bind ?_
  rw [← List.append_nil (closing request)]
  exact .call ((storeAndRelease_local request).bind (.done _))

/-- A whole request that the local model answers. -/
def servedTrace : List GatewayEvent :=
  opening request ++ (admission request ++
    (⟨.chatCompletion (helloRequest false), .ok helloResponse⟩ ::
      ⟨.releaseConcurrencySlot request.tenant.tenantId, .ok ()⟩ ::
      ⟨.metric (.providerCallDuration "ollama" .success), .ok ()⟩ ::
      (booking request ++ (⟨.modelDumpJson helloResponse, .ok helloDump⟩ :: closing request))))

theorem serve_local (body : request.body = helloRequest false) (tenant : request.tenant = helloTenant) :
    Runs (serve helloConfig request) (servedTrace request) (.ok (.json helloDump [("X-Cache", "miss")])) := by
  have screened : Runs (screen helloConfig request "ollama") [] (.ok (helloRequest false)) := by
    obtain ⟨_, _, correlationId, idempotencyKey⟩ := request
    subst body tenant
    exact .done _
  have uncached : answer helloConfig request "ollama" (helloRequest false) 8 =
      answerFromProvider helloConfig request "ollama" (helloRequest false) 8 none := by
    rw [answer, tenant]
    rfl
  have answered := answerFromProvider_local request
  rw [← uncached] at answered
  rw [← List.append_nil (servedTrace request)]
  exact (chatCompletions_local request body (screened.bind answered)).bind (.done _)

end LocalModel
end AegisGateway
