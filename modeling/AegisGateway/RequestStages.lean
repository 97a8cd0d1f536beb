import AegisGateway.ChatCompletions

set_option autoImplicit false

/-!
# The stages of a request

The points that a request passes in the handler and in the generators, and the pieces of code
between them. An assertion for each stage that every piece carries on to the stage it leads to
holds all along the request.
-/
namespace AegisGateway.RequestStages
open EffectProgram

/-- What the provider is asked, and what its answer is booked and cached with. -/
structure Asked where
  body : ChatCompletionRequest
  promptTokens : ℕ
  cacheKey : Option String

inductive Stage where
  | start
  | fresh
  /-- The lock is held if there is a key. -/
  | locked
  | counted (promptTokens : ℕ)
  | limited (promptTokens : ℕ)
  | refused (exc : HttpException)
  /-- The slot is held. -/
  | admitted (promptTokens : ℕ)
  | blocked (exc : HttpException)
  | screened (body : ChatCompletionRequest) (promptTokens : ℕ)
  | looked (asked : Asked) (cached : Option ChatCompletionResponse)
  | hit (body : ChatCompletionRequest) (cached : ChatCompletionResponse)
  | freedHit (body : ChatCompletionRequest) (cached : ChatCompletionResponse)
  | missed (asked : Asked)
  | answered (asked : Asked) (received : ChatCompletionResponse)
  | failed (exc : ProviderError)
  /-- An exception on its way through the `finally` clause that releases the slot. -/
  | raised (exc : Exn)
  | received (asked : Asked) (received : ChatCompletionResponse)
  | completed (asked : Asked) (response : ChatCompletionResponse) (usage : Usage)
  | kept (asked : Asked) (response : ChatCompletionResponse) (usage : Usage)
  | billed (response : ChatCompletionResponse) (headers : List (String × String))
  | dumped (text : String) (headers : List (String × String))
  | replaying (cached : ChatCompletionResponse)
  | replayed (cached : ChatCompletionResponse) (outcome : Except Exn Unit)
  | replayBilled (outcome : Except Exn Unit)
  | streaming (asked : Asked)
  | reading (asked : Asked) (sent rest : List Json) (ending : Option Exn) (parts : List String)
  | read (asked : Asked) (parts : List String) (outcome : Except Exn Unit)
  | settled (asked : Asked) (parts : List String) (succeeded : Bool) (pendingResult : Except Exn Unit)
  | texted (asked : Asked) (parts : List String) (completionTokens : ℕ)
      (pendingResult : Except Exn Unit)
  | streamBilled (asked : Asked) (parts : List String) (completionTokens : ℕ)
      (pendingResult : Except Exn Unit)
  | streamBooked (pendingResult : Except Exn Unit)
  | streamFreed (pendingResult : Except Exn Unit)
  | ended (result : Except Exn Answer)

section Pieces
variable {α : Type}

/-- What raises is over. -/
def onOk (next : α → Stage) : Except Exn α → Stage
  | .ok a => next a
  | .error e => .ended (.error e)

def afterLimits (promptTokens : ℕ) : Except Exn Unit → Stage
  | .ok _ => .limited promptTokens
  | .error (.rateLimit exc) => .refused (rateLimitHttpException exc)
  | .error e => .ended (.error e)

def afterScreening (promptTokens : ℕ) : Except Exn ChatCompletionRequest → Stage
  | .ok body => .screened body promptTokens
  | .error (.http exc) => .blocked exc
  | .error e => .ended (.error e)

def afterLookup (asked : Asked) : Option ChatCompletionResponse → Stage
  | some response => .hit asked.body response
  | none => .missed asked

def afterCall (asked : Asked) : Except Exn ChatCompletionResponse → Stage
  | .ok response => .answered asked response
  | .error (.provider exc) => .failed exc
  | .error e => .raised e

def afterFailure (exc : ProviderError) : Except Exn Unit → Stage
  | .ok _ => .raised (.http (providerErrorToHttpException exc))
  | .error e => .raised e

def afterStart (asked : Asked) : Except Exn UpstreamStream → Stage
  | .ok stream => .reading asked [] stream.chunks stream.ending []
  | .error e => .read asked [] (.error e)

def afterChunk (asked : Asked) (sent : List Json) (chunk : Json) (rest : List Json)
    (ending : Option Exn) (parts : List String) : Except Exn Unit → Stage
  | .ok _ => .reading asked (sent ++ [chunk]) rest ending parts
  | .error e => .read asked parts (.error e)

/-- How a stream that was taken up ends the request. -/
def streamEnd : Except Exn Unit → Except Exn Answer
  | .ok _ => .ok .streamed
  | .error e => .error e

/-- The code between two stages. -/
inductive Piece (config : GatewayConfig) (request : ChatRequest) :
    {α : Type} → Stage → GatewayProg α → (Except Exn α → Stage) → Prop where
  | replay {key : String} (keyed : request.key = some key) (plain : request.body.stream = false) :
      Piece config request .start (call (.getCachedResponse request.tenant.tenantId key))
        (onOk fun
          | some content => .ended (.ok (.json content [("Idempotency-Replayed", "true")]))
          | none => .fresh)
  | unreplayed (other : request.key = none ∨ request.body.stream = true) :
      Piece config request .start (pure ()) fun _ => .fresh
  | lock {key : String} (keyed : request.key = some key) :
      Piece config request .fresh (call (.tryAcquireLock request.tenant.tenantId key))
        (onOk fun acquired => if acquired then .locked else .ended (.error (.http keyInUse)))
  | unlocked (unkeyed : request.key = none) : Piece config request .fresh (pure ()) fun _ => .locked
  | unknown {message : String} (unknown : resolve config.providers request.body.model = .error message) :
      Piece config request .locked (releaseLockIfKeyed request)
        (onOk fun _ => .ended (.error (.http (modelNotFound message))))
  | count {providerName : String} (known : resolve config.providers request.body.model = .ok providerName) :
      Piece config request .locked (countPromptTokens request.body.messages request.body.model)
        (onOk .counted)
  | limit (providerName : String) (promptTokens : ℕ)
      (known : resolve config.providers request.body.model = .ok providerName) :
      Piece config request (.counted promptTokens)
        (enforceRequestLimits request.tenant providerName request.body.model promptTokens)
        (afterLimits promptTokens)
  | acquire (promptTokens : ℕ) :
      Piece config request (.limited promptTokens)
        (call (.acquireConcurrencySlot request.tenant.tenantId request.tenant.maxConcurrentRequests))
        (onOk fun acquired =>
          if acquired then .admitted promptTokens
          else .refused (tooManyRequests request.tenant.maxConcurrentRequests))
  | refuse (providerName reason : String) (exc : HttpException) :
      Piece config request (.refused exc)
        (do
          call (.metric (.rateLimitRejections reason))
          call (.metric (.chatCompletions providerName .rateLimited))
          releaseLockIfKeyed request)
        (onOk fun _ => .ended (.error (.http exc)))
  | screen (promptTokens : ℕ) :
      Piece config request (.admitted promptTokens) (runSecurityPipeline config.lib request)
        (afterScreening promptTokens)
  | block (providerName : String) (exc : HttpException) :
      Piece config request (.blocked exc)
        (do
          call (.metric (.chatCompletions providerName .blocked))
          releaseSlot request
          releaseLockIfKeyed request)
        (onOk fun _ => .ended (.error (.http exc)))
  | lookUp (body : ChatCompletionRequest) (promptTokens : ℕ) (enabled : request.tenant.cacheEnabled = true) :
      Piece config request (.screened body promptTokens)
        (getCachedCompletion config.lib (computeCacheKey config.lib request.tenant.tenantId body))
        (onOk (.looked
          ⟨body, promptTokens, some (computeCacheKey config.lib request.tenant.tenantId body)⟩))
  | uncached (body : ChatCompletionRequest) (promptTokens : ℕ)
      (disabled : request.tenant.cacheEnabled = false) :
      Piece config request (.screened body promptTokens) (pure ()) fun _ => .missed ⟨body, promptTokens, none⟩
  | noteLookup (asked : Asked) (cached : Option ChatCompletionResponse) :
      Piece config request (.looked asked cached) (call (.metric (.cacheLookups cached.isSome)))
        (onOk fun _ => afterLookup asked cached)
  | freeHit (body : ChatCompletionRequest) (cached : ChatCompletionResponse) :
      Piece config request (.hit body cached) (releaseSlot request) (onOk fun _ => .freedHit body cached)
  | billHit (providerName : String) (body : ChatCompletionRequest) (cached : ChatCompletionResponse)
      (usage : Usage) (plain : body.stream = false) (used : cached.usage = some usage) :
      Piece config request (.freedHit body cached)
        (recordUsage request providerName body.model usage.promptTokens usage.completionTokens true)
        (onOk fun _ => .billed cached [("X-Cache", "hit")])
  | unbilledHit (body : ChatCompletionRequest) (cached : ChatCompletionResponse)
      (plain : body.stream = false) (unused : cached.usage = none) :
      Piece config request (.freedHit body cached) (pure ()) fun _ => .billed cached [("X-Cache", "hit")]
  | beginHit (body : ChatCompletionRequest) (cached : ChatCompletionResponse) (streams : body.stream = true) :
      Piece config request (.freedHit body cached) (call (.beginStream .cached))
        (onOk fun _ => .replaying cached)
  | replayChunks (cached : ChatCompletionResponse) :
      Piece config request (.replaying cached)
        (do
          call (.yieldFrame (.chunk (cachedChunk cached)))
          call (.yieldFrame .finished))
        (.replayed cached)
  | billReplay (providerName : String) (cached : ChatCompletionResponse) (outcome : Except Exn Unit)
      (usage : Usage) (used : cached.usage = some usage) :
      Piece config request (.replayed cached outcome)
        (recordUsage request providerName cached.model usage.promptTokens usage.completionTokens true)
        (onOk fun _ => .replayBilled outcome)
  | unbilledReplay (cached : ChatCompletionResponse) (outcome : Except Exn Unit)
      (unused : cached.usage = none) :
      Piece config request (.replayed cached outcome) (pure ()) fun _ => .replayBilled outcome
  | endReplay (outcome : Except Exn Unit) :
      Piece config request (.replayBilled outcome) (releaseLockIfKeyed request)
        fun closed => .ended (streamEnd (ensured outcome closed))
  | callProvider (asked : Asked) (plain : asked.body.stream = false) :
      Piece config request (.missed asked) (call (.chatCompletion asked.body)) (afterCall asked)
  | fail (providerName : String) (exc : ProviderError) :
      Piece config request (.failed exc)
        (do
          call (.metric (.providerCallDuration providerName .error))
          call (.metric (.chatCompletions providerName .error))
          releaseLockIfKeyed request)
        (afterFailure exc)
  | freeRaised (exc : Exn) :
      Piece config request (.raised exc) (releaseSlot request) (onOk fun _ => .ended (.error exc))
  | freeAnswered (asked : Asked) (received : ChatCompletionResponse) :
      Piece config request (.answered asked received) (releaseSlot request)
        (onOk fun _ => .received asked received)
  | complete (providerName : String) (asked : Asked) (received : ChatCompletionResponse) :
      Piece config request (.received asked received)
        (do
          call (.metric (.providerCallDuration providerName .success))
          withUsage asked.body asked.promptTokens received)
        (onOk fun counted => .completed asked counted.1 counted.2)
  | keep (asked : Asked) (response : ChatCompletionResponse) (usage : Usage) :
      Piece config request (.completed asked response usage)
        (storeIfCaching config asked.cacheKey response) (onOk fun _ => .kept asked response usage)
  | bill (providerName : String) (asked : Asked) (response : ChatCompletionResponse) (usage : Usage) :
      Piece config request (.kept asked response usage)
        (recordUsage request providerName asked.body.model usage.promptTokens usage.completionTokens false)
        (onOk fun _ => .billed response [("X-Cache", "miss")])
  | dump (response : ChatCompletionResponse) (headers : List (String × String)) :
      Piece config request (.billed response headers) (call (.modelDumpJson response))
        (onOk fun text => .dumped text headers)
  | send (text : String) (headers : List (String × String)) :
      Piece config request (.dumped text headers) (storeAndReleaseIfKeyed request text)
        (onOk fun _ => .ended (.ok (.json text headers)))
  | beginMissed (asked : Asked) (streams : asked.body.stream = true) :
      Piece config request (.missed asked) (call (.beginStream .provider))
        (onOk fun _ => .streaming asked)
  | startUpstream (asked : Asked) :
      Piece config request (.streaming asked) (call (.streamChatCompletion asked.body)) (afterStart asked)
  | yieldChunk (asked : Asked) (sent : List Json) (chunk : Json) (rest : List Json) (ending : Option Exn)
      (parts contents : List String) (readable : chunkContents chunk = .ok contents) :
      Piece config request (.reading asked sent (chunk :: rest) ending parts)
        (call (.yieldFrame (.chunk chunk))) (afterChunk asked sent chunk rest ending (parts ++ contents))
  | unreadable (asked : Asked) (sent : List Json) (chunk : Json) (rest : List Json) (ending : Option Exn)
      (parts : List String) (exc : Exn) (unreadable : chunkContents chunk = .error exc) :
      Piece config request (.reading asked sent (chunk :: rest) ending parts) (pure ())
        fun _ => .read asked parts (.error exc)
  | breakOff (asked : Asked) (sent : List Json) (parts : List String) (exc : Exn) :
      Piece config request (.reading asked sent [] (some exc) parts) (pure ())
        fun _ => .read asked parts (.error exc)
  | finish (asked : Asked) (sent : List Json) (parts : List String) :
      Piece config request (.reading asked sent [] none parts) (call (.yieldFrame .finished))
        (.read asked parts)
  | report (asked : Asked) (parts : List String) (exc : ProviderError) :
      Piece config request (.read asked parts (.error (.provider exc)))
        (call (.yieldFrame (.error (openaiError exc.str "upstream_error" "provider_error"))))
        (.settled asked parts false)
  | succeed (asked : Asked) (parts : List String) (outcome : Except Exn Unit)
      (other : ∀ exc, outcome ≠ .error (.provider exc)) :
      Piece config request (.read asked parts outcome) (pure ()) fun _ => .settled asked parts true outcome
  | countText (providerName : String) (asked : Asked) (parts : List String)
      (pendingResult : Except Exn Unit) :
      Piece config request (.settled asked parts true pendingResult)
        (do
          call (.metric (.providerCallDuration providerName .success))
          countTextTokens (String.join parts) asked.body.model)
        (onOk fun completionTokens => .texted asked parts completionTokens pendingResult)
  | billStream (providerName : String) (asked : Asked) (parts : List String) (completionTokens : ℕ)
      (pendingResult : Except Exn Unit) :
      Piece config request (.texted asked parts completionTokens pendingResult)
        (recordUsage request providerName asked.body.model asked.promptTokens completionTokens false)
        (onOk fun _ => .streamBilled asked parts completionTokens pendingResult)
  | keepStream (asked : Asked) (parts : List String) (completionTokens : ℕ)
      (pendingResult : Except Exn Unit) :
      Piece config request (.streamBilled asked parts completionTokens pendingResult)
        (cacheStream config asked.body asked.cacheKey (String.join parts) asked.promptTokens
          completionTokens)
        (onOk fun _ => .streamBooked pendingResult)
  | failStream (providerName : String) (asked : Asked) (parts : List String)
      (pendingResult : Except Exn Unit) :
      Piece config request (.settled asked parts false pendingResult)
        (do
          call (.metric (.providerCallDuration providerName .error))
          call (.metric (.chatCompletions providerName .error))
          countTextTokens (String.join parts) asked.body.model)
        (onOk fun _ => .streamBooked pendingResult)
  | freeStream (pendingResult : Except Exn Unit) :
      Piece config request (.streamBooked pendingResult) (releaseSlot request)
        (onOk fun _ => .streamFreed pendingResult)
  | endStream (pendingResult : Except Exn Unit) :
      Piece config request (.streamFreed pendingResult) (releaseLockIfKeyed request)
        (onOk fun _ => .ended (streamEnd pendingResult))

variable (providerName : String) (asked : Asked)

theorem complete_uses (received : ChatCompletionResponse) :
    UsesKinds [.metric, .tokenizer] (do
      call (.metric (.providerCallDuration providerName .success))
      withUsage asked.body asked.promptTokens received) :=
  (usesKinds_call rfl).bind fun _ => (withUsage_uses _ _ _).weaken (by decide)

theorem countText_uses (parts : List String) :
    UsesKinds [.metric, .tokenizer] (do
      call (.metric (.providerCallDuration providerName .success))
      countTextTokens (String.join parts) asked.body.model) :=
  (usesKinds_call rfl).bind fun _ => (countTextTokens_uses _ _).weaken (by decide)

theorem failStream_uses (parts : List String) :
    UsesKinds [.metric, .tokenizer] (do
      call (.metric (.providerCallDuration providerName .error))
      call (.metric (.chatCompletions providerName .error))
      countTextTokens (String.join parts) asked.body.model) :=
  (usesKinds_call rfl).bind fun _ => (usesKinds_call rfl).bind fun _ =>
    (countTextTokens_uses _ _).weaken (by decide)

theorem replayChunks_uses (cached : ChatCompletionResponse) :
    UsesKinds [.yield] (do
      call (.yieldFrame (.chunk (cachedChunk cached)))
      call (.yieldFrame .finished)) :=
  (usesKinds_call rfl).bind fun _ => usesKinds_call rfl

end Pieces

/-- What holds at each stage. -/
structure Assertions (G : Type) where
  start : G → Prop
  fresh : G → Prop
  locked : G → Prop
  counted : ℕ → G → Prop
  limited : ℕ → G → Prop
  refused : HttpException → G → Prop
  admitted : ℕ → G → Prop
  blocked : HttpException → G → Prop
  screened : ChatCompletionRequest → ℕ → G → Prop
  looked : Asked → Option ChatCompletionResponse → G → Prop
  hit : ChatCompletionRequest → ChatCompletionResponse → G → Prop
  freedHit : ChatCompletionRequest → ChatCompletionResponse → G → Prop
  missed : Asked → G → Prop
  answered : Asked → ChatCompletionResponse → G → Prop
  failed : ProviderError → G → Prop
  raised : Exn → G → Prop
  received : Asked → ChatCompletionResponse → G → Prop
  completed : Asked → ChatCompletionResponse → Usage → G → Prop
  kept : Asked → ChatCompletionResponse → Usage → G → Prop
  billed : ChatCompletionResponse → List (String × String) → G → Prop
  dumped : String → List (String × String) → G → Prop
  replaying : ChatCompletionResponse → G → Prop
  replayed : ChatCompletionResponse → Except Exn Unit → G → Prop
  replayBilled : Except Exn Unit → G → Prop
  streaming : Asked → G → Prop
  reading : Asked → List Json → List Json → Option Exn → List String → G → Prop
  read : Asked → List String → Except Exn Unit → G → Prop
  settled : Asked → List String → Bool → Except Exn Unit → G → Prop
  texted : Asked → List String → ℕ → Except Exn Unit → G → Prop
  streamBilled : Asked → List String → ℕ → Except Exn Unit → G → Prop
  streamBooked : Except Exn Unit → G → Prop
  streamFreed : Except Exn Unit → G → Prop
  ended : Except Exn Answer → G → Prop

section Assertions
variable {G : Type}

def Assertions.Reached (A : Assertions G) : Stage → G → Prop
  | .start => A.start
  | .fresh => A.fresh
  | .locked => A.locked
  | .counted promptTokens => A.counted promptTokens
  | .limited promptTokens => A.limited promptTokens
  | .refused exc => A.refused exc
  | .admitted promptTokens => A.admitted promptTokens
  | .blocked exc => A.blocked exc
  | .screened body promptTokens => A.screened body promptTokens
  | .looked asked cached => A.looked asked cached
  | .hit body cached => A.hit body cached
  | .freedHit body cached => A.freedHit body cached
  | .missed asked => A.missed asked
  | .answered asked received => A.answered asked received
  | .failed exc => A.failed exc
  | .raised exc => A.raised exc
  | .received asked received => A.received asked received
  | .completed asked response usage => A.completed asked response usage
  | .kept asked response usage => A.kept asked response usage
  | .billed response headers => A.billed response headers
  | .dumped text headers => A.dumped text headers
  | .replaying cached => A.replaying cached
  | .replayed cached outcome => A.replayed cached outcome
  | .replayBilled outcome => A.replayBilled outcome
  | .streaming asked => A.streaming asked
  | .reading asked sent rest ending parts => A.reading asked sent rest ending parts
  | .read asked parts outcome => A.read asked parts outcome
  | .settled asked parts succeeded pendingResult => A.settled asked parts succeeded pendingResult
  | .texted asked parts completionTokens pendingResult =>
    A.texted asked parts completionTokens pendingResult
  | .streamBilled asked parts completionTokens pendingResult =>
    A.streamBilled asked parts completionTokens pendingResult
  | .streamBooked pendingResult => A.streamBooked pendingResult
  | .streamFreed pendingResult => A.streamFreed pendingResult
  | .ended result => A.ended result

/-- The same at every stage until the request is over. -/
def Assertions.until (P : G → Prop) (ended : Except Exn Answer → G → Prop) : Assertions G where
  start := P
  fresh := P
  locked := P
  counted _ := P
  limited _ := P
  refused _ := P
  admitted _ := P
  blocked _ := P
  screened _ _ := P
  looked _ _ := P
  hit _ _ := P
  freedHit _ _ := P
  missed _ := P
  answered _ _ := P
  failed _ := P
  raised _ := P
  received _ _ := P
  completed _ _ _ := P
  kept _ _ _ := P
  billed _ _ := P
  dumped _ _ := P
  replaying _ := P
  replayed _ _ := P
  replayBilled _ := P
  streaming _ := P
  reading _ _ _ _ _ := P
  read _ _ _ := P
  settled _ _ _ _ := P
  texted _ _ _ _ := P
  streamBilled _ _ _ _ := P
  streamBooked _ := P
  streamFreed _ := P
  ended := ended

end Assertions

section Walks
variable {G : Type} {M : Monitor GatewayOp GatewayRet Exn G} {At : Stage → G → Prop}
  {config : GatewayConfig} {request : ChatRequest}

/-- Every piece leads from the assertion of its stage to that of the stage after it. -/
def Walks (M : Monitor GatewayOp GatewayRet Exn G) (At : Stage → G → Prop) (config : GatewayConfig)
    (request : ChatRequest) : Prop :=
  ∀ {α : Type} {stage : Stage} {p : GatewayProg α} {next : Except Exn α → Stage},
    Piece config request stage p next → ∀ g, At stage g → Holds M p (fun r => At (next r)) g

variable {α β : Type} {stage : Stage} {p : GatewayProg α} {f : α → GatewayProg β} {g : G}

theorem Walks.step {next : α → Stage} {Q : Except Exn β → G → Prop} (walks : Walks M At config request)
    (piece : Piece config request stage p (onOk next)) (reached : At stage g)
    (raised : ∀ e g, At (.ended (.error e)) g → Q (.error e) g)
    (goes : ∀ a g, At (next a) g → Holds M (f a) Q g) : Holds M (p >>= f) Q g := by
  apply Holds.bind
  refine (walks piece g reached).mono fun r g' now => ?_
  cases r with
  | ok a => exact goes a g' now
  | error e => exact raised e g' now

theorem Walks.pass {next : Except Exn Unit → Stage} (walks : Walks M At config request)
    (piece : Piece config request stage (pure ()) next) (reached : At stage g) : At (next (.ok ())) g :=
  walks piece g reached

theorem leads_alone {next : Except Exn α → Stage} (alone : Holds M p (fun _ g' => g' = g) g)
    (leads : ∀ r, At (next r) g) : Holds M p (fun r => At (next r)) g := by
  refine alone.mono ?_
  rintro r _ rfl
  exact leads r

theorem leads_alone_ok {next : α → Stage} (alone : Holds M p (fun _ g' => g' = g) g)
    (raised : ∀ e, At (.ended (.error e)) g) (returned : ∀ a, At (next a) g) :
    Holds M p (fun r => At (onOk next r)) g := by
  refine leads_alone alone fun r => ?_
  cases r with
  | ok a => exact returned a
  | error e => exact raised e

theorem leads_steady {m : Exn → G → G} {next : α → Stage} (steady : Steady M m p)
    (raised : ∀ e, At (.ended (.error e)) (m e g)) (returned : ∀ a, At (next a) g) :
    Holds M p (fun r => At (onOk next r)) g := by
  refine (steady g).mono fun r g' now => ?_
  cases r with
  | ok a =>
    subst now
    exact returned a
  | error e =>
    subst now
    exact raised e

/-- What the handler returns, and its delivery. -/
abbrev Delivers (M : Monitor GatewayOp GatewayRet Exn G) (At : Stage → G → Prop) :
    Except Exn GatewayResponse → G → Prop :=
  afterValue (M := M) deliver fun r => At (.ended r)

variable {providerName : String} {asked : Asked}

theorem dump_walks (walks : Walks M At config request) {response : ChatCompletionResponse}
    {headers : List (String × String)} (reached : At (.billed response headers) g) :
    Holds M (do
      let responseJson ← call (.modelDumpJson response)
      storeAndReleaseIfKeyed request responseJson
      return .json responseJson headers) (Delivers M At) g := by
  refine walks.step (.dump response headers) reached (fun _ _ now => now) fun text g₁ reached₁ => ?_
  exact walks.step (.send text headers) reached₁ (fun _ _ now => now) fun _ _ now => now

theorem bookAnswer_walks (walks : Walks M At config request) {received : ChatCompletionResponse}
    (reached : At (.received asked received) g) :
    Holds M (bookAnswer config request providerName asked.body asked.promptTokens asked.cacheKey received)
      (Delivers M At) g := by
  have counts : bookAnswer config request providerName asked.body asked.promptTokens asked.cacheKey
      received = (do
        call (.metric (.providerCallDuration providerName .success))
        withUsage asked.body asked.promptTokens received) >>= fun counted => do
      storeIfCaching config asked.cacheKey counted.1
      recordUsage request providerName asked.body.model counted.2.promptTokens
        counted.2.completionTokens false
      let responseJson ← call (.modelDumpJson counted.1)
      storeAndReleaseIfKeyed request responseJson
      return .json responseJson [("X-Cache", "miss")] := (Prog.bind_assoc _ _ _).symm
  rw [counts]
  refine walks.step (.complete providerName asked received) reached (fun _ _ now => now)
    fun counted g₁ reached₁ => ?_
  refine walks.step (.keep asked counted.1 counted.2) reached₁ (fun _ _ now => now)
    fun _ g₂ reached₂ => ?_
  refine walks.step (.bill providerName asked counted.1 counted.2) reached₂ (fun _ _ now => now)
    fun _ g₃ reached₃ => ?_
  exact dump_walks walks reached₃

theorem callProvider_walks (walks : Walks M At config request) (plain : asked.body.stream = false)
    (reached : At (.missed asked) g) :
    Holds M (callProvider request providerName asked.body)
      (fun r g' => match r with
        | .ok received => At (.received asked received) g'
        | .error e => At (.ended (.error e)) g') g := by
  have raised (exc : Exn) (g : G) (reached : At (.raised exc) g) :
      Holds M (releaseSlot request) (fun c => At (.ended (ensured (.error exc) c))) g := by
    refine (walks (.freeRaised exc) g reached).mono fun c g' now => ?_
    cases c <;> exact now
  rw [callProvider, holds_ensure, holds_handle]
  refine (walks (.callProvider asked plain) g reached).mono fun r g₁ reached₁ => ?_
  cases r with
  | ok received =>
    refine (walks (.freeAnswered asked received) g₁ reached₁).mono fun c g' now => ?_
    cases c <;> exact now
  | error exc =>
    have raising := raised exc g₁
    cases exc with
    | provider e =>
      have failing := walks (.fail providerName e) g₁ reached₁
      have bound : (do
          call (.metric (.providerCallDuration providerName .error))
          call (.metric (.chatCompletions providerName .error))
          releaseLockIfKeyed request
          Prog.raise (.http (providerErrorToHttpException e)) : GatewayProg ChatCompletionResponse) = (do
          call (.metric (.providerCallDuration providerName .error))
          call (.metric (.chatCompletions providerName .error))
          releaseLockIfKeyed request) >>= fun _ => Prog.raise (.http (providerErrorToHttpException e)) := by
        simp only [Prog.bind_assoc]
      simp only [bound]
      apply Holds.bind
      refine failing.mono fun c g₂ reached₂ => ?_
      cases c with
      | ok _ => exact (raised _ g₂ reached₂).mono fun c g' now => by cases c <;> exact now
      | error e' => exact (raised e' g₂ reached₂).mono fun c g' now => by cases c <;> exact now
    | _ => exact (raising reached₁).mono fun c g' now => by cases c <;> exact now

theorem answerFromProvider_walks (walks : Walks M At config request) (plain : asked.body.stream = false)
    (reached : At (.missed asked) g) :
    Holds M (answerFromProvider config request providerName asked.body asked.promptTokens asked.cacheKey)
      (Delivers M At) g := by
  apply Holds.bind
  refine (callProvider_walks walks plain reached).mono fun r g₁ reached₁ => ?_
  cases r with
  | ok received => exact bookAnswer_walks walks reached₁
  | error e => exact reached₁

theorem streamCachedCompletion_walks (walks : Walks M At config request) {cached : ChatCompletionResponse}
    (reached : At (.replaying cached) g) :
    Holds M (streamCachedCompletion request providerName cached) (fun r => At (.ended (streamEnd r))) g := by
  rw [streamCachedCompletion, holds_ensure]
  refine (walks (.replayChunks cached) g reached).mono fun outcome g₁ reached₁ => ?_
  have closes (g : G) (reached : At (.replayBilled outcome) g) :
      Holds M (releaseLockIfKeyed request) (fun c => At (.ended (streamEnd (ensured outcome c)))) g :=
    walks (.endReplay outcome) g reached
  rw [finishCachedStream]
  split
  · rename_i usage used
    refine walks.step (.billReplay providerName cached outcome usage used) reached₁
      (fun e g now => ?_) fun _ g₂ reached₂ => closes g₂ reached₂
    exact now
  · rename_i unused
    exact closes g₁ (walks.pass (.unbilledReplay cached outcome unused) reached₁)

theorem deliverStream_walks {source : StreamSource} {generator : GatewayProg Unit} {next : Stage}
    (walks : Walks M At config request)
    (piece : Piece config request stage (call (.beginStream source)) (onOk fun _ => next))
    (generates : ∀ g, At next g → Holds M generator (fun r => At (.ended (streamEnd r))) g)
    (reached : At stage g) :
    Delivers M At (.ok (.stream source generator)) g := by
  refine walks.step piece reached (fun _ _ now => now) fun _ g₁ reached₁ => ?_
  apply Holds.bind
  refine (generates g₁ reached₁).mono fun r g₂ now => ?_
  cases r <;> exact now

theorem answerFromCache_walks (walks : Walks M At config request) {body : ChatCompletionRequest}
    {cached : ChatCompletionResponse} (reached : At (.hit body cached) g) :
    Holds M (answerFromCache request providerName body cached) (Delivers M At) g := by
  refine walks.step (.freeHit body cached) reached (fun _ _ now => now) fun _ g₁ reached₁ => ?_
  split
  · rename_i streams
    exact deliverStream_walks walks (.beginHit body cached streams)
      (fun g₂ reached₂ => streamCachedCompletion_walks walks reached₂) reached₁
  · rename_i plain
    have plain := Bool.eq_false_iff.mpr plain
    split
    · rename_i usage used
      exact walks.step (.billHit providerName body cached usage plain used) reached₁ (fun _ _ now => now)
        fun _ g₂ reached₂ => dump_walks walks reached₂
    · rename_i unused
      exact dump_walks walks (walks.pass (.unbilledHit body cached plain unused) reached₁)

theorem streamLoop_walks (walks : Walks M At config request) {sent rest : List Json}
    {ending : Option Exn} {parts : List String} (reached : At (.reading asked sent rest ending parts) g) :
    Holds M (streamLoop rest ending parts)
      (fun r g' => ∃ parts outcome, r = .ok (parts, outcome) ∧ At (.read asked parts outcome) g') g := by
  induction rest generalizing sent parts g with
  | nil =>
    cases ending with
    | some exc => exact ⟨_, _, rfl, walks.pass (.breakOff asked sent parts exc) reached⟩
    | none =>
      apply Holds.bind
      rw [Prog.attempt, holds_andThen]
      refine (walks (.finish asked sent parts) g reached).mono fun outcome g₁ reached₁ => ?_
      exact ⟨_, _, rfl, reached₁⟩
  | cons chunk rest ih =>
    rw [streamLoop]
    split
    · rename_i exc unreadable
      exact ⟨_, _, rfl, walks.pass (.unreadable asked sent chunk rest ending parts exc unreadable) reached⟩
    · rename_i contents readable
      apply Holds.bind
      rw [Prog.attempt, holds_andThen]
      refine (walks (.yieldChunk asked sent chunk rest ending parts contents readable) g reached).mono
        fun yielded g₁ reached₁ => ?_
      cases yielded with
      | error e => exact ⟨_, _, rfl, reached₁⟩
      | ok _ => exact ih reached₁

theorem readUpstream_walks (walks : Walks M At config request) (reached : At (.streaming asked) g) :
    Holds M (readUpstream asked.body)
      (fun r g' => ∃ parts outcome, r = .ok (parts, outcome) ∧ At (.read asked parts outcome) g') g := by
  apply Holds.bind
  rw [Prog.attempt, holds_andThen]
  refine (walks (.startUpstream asked) g reached).mono fun started g₁ reached₁ => ?_
  cases started with
  | error e => exact ⟨_, _, rfl, reached₁⟩
  | ok stream => exact streamLoop_walks walks reached₁

theorem settleStream_walks (walks : Walks M At config request) {parts : List String}
    {outcome : Except Exn Unit} (reached : At (.read asked parts outcome) g) :
    Holds M (settleStream outcome)
      (fun r g' => ∃ succeeded pendingResult, r = .ok (succeeded, pendingResult) ∧
        At (.settled asked parts succeeded pendingResult) g') g := by
  rw [settleStream.eq_def]
  split
  · rename_i exc
    apply Holds.bind
    rw [Prog.attempt, holds_andThen]
    refine (walks (.report asked parts exc) g reached).mono fun sent g₁ reached₁ => ?_
    exact ⟨_, _, rfl, reached₁⟩
  · rename_i other
    refine ⟨_, _, rfl, walks.pass (.succeed asked parts outcome ?_) reached⟩
    rintro exc rfl
    exact other exc rfl

theorem bookStream_walks (walks : Walks M At config request) {parts : List String} {succeeded : Bool}
    {pendingResult : Except Exn Unit} (reached : At (.settled asked parts succeeded pendingResult) g) :
    Holds M (bookStream config request providerName asked.body asked.promptTokens asked.cacheKey succeeded
      parts) (fun r => At (onOk (fun _ => .streamBooked pendingResult) r)) g := by
  cases succeeded with
  | true =>
    have counts : bookStream config request providerName asked.body asked.promptTokens asked.cacheKey
        true parts = (do
          call (.metric (.providerCallDuration providerName .success))
          countTextTokens (String.join parts) asked.body.model) >>= fun (completionTokens : ℕ) =>
        recordUsage request providerName asked.body.model asked.promptTokens completionTokens false >>=
          fun _ => cacheStream config asked.body asked.cacheKey (String.join parts) asked.promptTokens
            completionTokens := (Prog.bind_assoc _ _ _).symm
    rw [counts]
    refine walks.step (.countText providerName asked parts pendingResult) reached (fun _ _ now => now)
      fun completionTokens g₁ reached₁ => ?_
    refine walks.step (.billStream providerName asked parts completionTokens pendingResult) reached₁
      (fun _ _ now => now) fun _ g₂ reached₂ => ?_
    exact walks (.keepStream asked parts completionTokens pendingResult) g₂ reached₂
  | false =>
    have counts : bookStream config request providerName asked.body asked.promptTokens asked.cacheKey
        false parts = (do
          call (.metric (.providerCallDuration providerName .error))
          call (.metric (.chatCompletions providerName .error))
          countTextTokens (String.join parts) asked.body.model) >>= fun _ => pure () := by
      simp only [Prog.bind_assoc]
      rfl
    rw [counts]
    exact walks.step (.failStream providerName asked parts pendingResult) reached (fun _ _ now => now)
      fun _ _ now => now

theorem streamChatCompletion_walks (walks : Walks M At config request) (reached : At (.streaming asked) g) :
    Holds M (streamChatCompletion config request providerName asked.body asked.promptTokens asked.cacheKey)
      (fun r => At (.ended (streamEnd r))) g := by
  apply Holds.bind
  refine (readUpstream_walks walks reached).mono ?_
  rintro _ g₁ ⟨parts, outcome, rfl, reached₁⟩
  apply Holds.bind
  refine (settleStream_walks walks reached₁).mono ?_
  rintro _ g₂ ⟨succeeded, pendingResult, rfl, reached₂⟩
  apply Holds.bind
  apply Holds.bind
  refine (bookStream_walks walks reached₂).mono fun booked g₃ reached₃ => ?_
  cases booked with
  | error e => exact reached₃
  | ok _ =>
    refine walks.step (.freeStream pendingResult) reached₃ (fun _ _ now => now) fun _ g₄ reached₄ => ?_
    refine (walks (.endStream pendingResult) g₄ reached₄).mono fun closed g₅ now => ?_
    cases closed <;> exact now

variable (asked) in
theorem missed_walks (walks : Walks M At config request) (reached : At (.missed asked) g) :
    Holds M (if asked.body.stream = true then pure (.stream .provider
        (streamChatCompletion config request providerName asked.body asked.promptTokens asked.cacheKey))
      else answerFromProvider config request providerName asked.body asked.promptTokens asked.cacheKey)
      (Delivers M At) g := by
  split
  · rename_i streams
    exact deliverStream_walks walks (.beginMissed asked streams)
      (fun g₁ reached₁ => streamChatCompletion_walks walks reached₁) reached
  · rename_i plain
    exact answerFromProvider_walks walks (Bool.eq_false_iff.mpr plain) reached

theorem answer_walks (walks : Walks M At config request) {body : ChatCompletionRequest}
    {promptTokens : ℕ} (reached : At (.screened body promptTokens) g) :
    Holds M (answer config request providerName body promptTokens) (Delivers M At) g := by
  rw [answer]
  split
  · rename_i enabled
    refine walks.step (.lookUp body promptTokens enabled) reached (fun _ _ now => now)
      fun cached g₁ reached₁ => ?_
    refine walks.step (.noteLookup _ cached) reached₁ (fun _ _ now => now) fun _ g₂ reached₂ => ?_
    cases cached with
    | some response => exact answerFromCache_walks walks reached₂
    | none => exact missed_walks ⟨body, promptTokens, some _⟩ walks reached₂
  · rename_i disabled
    have missed := walks.pass (.uncached body promptTokens (Bool.eq_false_iff.mpr disabled)) reached
    exact missed_walks ⟨body, promptTokens, none⟩ walks missed

theorem screen_walks (walks : Walks M At config request) {promptTokens : ℕ}
    (reached : At (.admitted promptTokens) g) :
    Holds M (screen config request providerName)
      (fun r => At (onOk (fun body => .screened body promptTokens) r)) g := by
  rw [screen, holds_handle]
  refine (walks (.screen promptTokens) g reached).mono fun r g₁ reached₁ => ?_
  cases r with
  | ok body => exact reached₁
  | error exc =>
    cases exc with
    | http e =>
      have bound : (do
          call (.metric (.chatCompletions providerName .blocked))
          releaseSlot request
          releaseLockIfKeyed request
          Prog.raise (.http e) : GatewayProg ChatCompletionRequest) = (do
          call (.metric (.chatCompletions providerName .blocked))
          releaseSlot request
          releaseLockIfKeyed request) >>= fun _ => Prog.raise (.http e) := by
        simp only [Prog.bind_assoc]
      simp only [bound]
      exact walks.step (.block providerName e) reached₁ (fun _ _ now => now) fun _ _ now => now
    | _ => exact reached₁

theorem enforceLimits_walks (walks : Walks M At config request) {promptTokens : ℕ}
    (known : resolve config.providers request.body.model = .ok providerName)
    (reached : At (.counted promptTokens) g) :
    Holds M (enforceLimits request providerName promptTokens)
      (fun r => At (onOk (fun _ => .admitted promptTokens) r)) g := by
  have refused (reason : String) (exc : HttpException) (g : G) (reached : At (.refused exc) g) :
      Holds M (do
        call (.metric (.rateLimitRejections reason))
        call (.metric (.chatCompletions providerName .rateLimited))
        releaseLockIfKeyed request
        Prog.raise (.http exc) : GatewayProg Unit) (fun r g' => (∃ e, r = .error e ∧ At (.ended (.error e)) g'))
        g := by
    have bound : (do
        call (.metric (.rateLimitRejections reason))
        call (.metric (.chatCompletions providerName .rateLimited))
        releaseLockIfKeyed request
        Prog.raise (.http exc) : GatewayProg Unit) = (do
        call (.metric (.rateLimitRejections reason))
        call (.metric (.chatCompletions providerName .rateLimited))
        releaseLockIfKeyed request) >>= fun _ => Prog.raise (.http exc) := by
      simp only [Prog.bind_assoc]
    rw [bound]
    exact walks.step (.refuse providerName reason exc) reached (fun e _ now => ⟨e, rfl, now⟩)
      fun _ _ now => ⟨_, rfl, now⟩
  have acquires (g : G) (reached : At (.limited promptTokens) g) : Holds M (do
      let acquired ← call (.acquireConcurrencySlot request.tenant.tenantId
        request.tenant.maxConcurrentRequests)
      if acquired then pure ()
      else
        call (.metric (.rateLimitRejections "concurrency_limit_exceeded"))
        call (.metric (.chatCompletions providerName .rateLimited))
        releaseLockIfKeyed request
        Prog.raise (.http (tooManyRequests request.tenant.maxConcurrentRequests)))
      (fun r => At (onOk (fun _ => .admitted promptTokens) r)) g := by
    refine walks.step (.acquire promptTokens) reached (fun _ _ now => now) fun acquired g₁ reached₁ => ?_
    cases acquired with
    | true => exact reached₁
    | false =>
      refine (refused _ _ g₁ reached₁).mono ?_
      rintro _ g₂ ⟨e, rfl, now⟩
      exact now
  apply Holds.bind
  rw [holds_handle]
  refine (walks (.limit providerName promptTokens known) g reached).mono fun r g₁ reached₁ => ?_
  cases r with
  | ok _ => exact acquires g₁ reached₁
  | error exc =>
    cases exc with
    | rateLimit e =>
      refine (refused _ _ g₁ reached₁).mono ?_
      rintro _ g₂ ⟨e, rfl, now⟩
      exact now
    | _ => exact reached₁

theorem process_walks (walks : Walks M At config request) (reached : At .locked g) :
    Holds M (process config request) (Delivers M At) g := by
  rw [process]
  split
  · rename_i message unknown
    exact walks.step (.unknown unknown) reached (fun _ _ now => now) fun _ _ now => now
  · rename_i providerName known
    refine walks.step (.count known) reached (fun _ _ now => now) fun promptTokens g₁ reached₁ => ?_
    apply Holds.bind
    refine (enforceLimits_walks walks known reached₁).mono fun r g₂ reached₂ => ?_
    cases r with
    | error e => exact reached₂
    | ok _ =>
      apply Holds.bind
      refine (screen_walks walks reached₂).mono fun r g₃ reached₃ => ?_
      cases r with
      | error e => exact reached₃
      | ok body => exact answer_walks walks reached₃

theorem lockAndProcess_walks (walks : Walks M At config request) (reached : At .fresh g) :
    Holds M (lockAndProcess config request) (Delivers M At) g := by
  rw [lockAndProcess]
  split
  · rename_i unkeyed
    exact process_walks walks (walks.pass (.unlocked unkeyed) reached)
  · rename_i key keyed
    refine walks.step (.lock keyed) reached (fun _ _ now => now) fun acquired g₁ reached₁ => ?_
    cases acquired with
    | true => exact process_walks walks reached₁
    | false => exact reached₁

theorem serve_walks (walks : Walks M At config request) (reached : At .start g) :
    Holds M (serve config request) (fun r => At (.ended r)) g := by
  apply Holds.bind
  rw [chatCompletions]
  split
  · rename_i key keyed plain
    refine walks.step (.replay keyed plain) reached (fun _ _ now => now) fun cached g₁ reached₁ => ?_
    cases cached with
    | some content => exact reached₁
    | none => exact lockAndProcess_walks walks reached₁
  · rename_i other
    refine lockAndProcess_walks walks (walks.pass (.unreplayed ?_) reached)
    cases key_eq : request.key with
    | none => exact .inl rfl
    | some key =>
      right
      cases stream_eq : request.body.stream with
      | true => rfl
      | false => exact (other key key_eq stream_eq).elim

end Walks
end AegisGateway.RequestStages
