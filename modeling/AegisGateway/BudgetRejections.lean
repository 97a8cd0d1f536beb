import AegisGateway.RequestStages
import AegisGateway.TenantIsolation

set_option autoImplicit false

/-!
# What a rejected request takes from the budget

The budget is reserved by the third of the four limiters. The fourth, the concurrency slot,
may still refuse the request, and nothing gives the reservation back.
-/
namespace AegisGateway.BudgetRejections
open EffectProgram TransitionRuns ProgramPool CellStore RedisCommands TenantIsolation RequestStages

/-- The answers 429 of the gateway's own limiters. A 429 of the upstream is passed on with
another type. -/
def LimitRejection (exc : HttpException) : Prop :=
  exc.statusCode = 429 ∧ ∃ message code, exc.detail = openaiError message "rate_limit_error" code

section Exceptions

/-- What the packages raise: the gateway's own exceptions are raised by its own code only. -/
def foreign : Exn → Bool
  | .http _ | .rateLimit _ => false
  | _ => true

def raisesForeign : GatewayEvent → Bool
  | ⟨.streamChatCompletion _, .ok stream⟩ => stream.ending.all foreign
  | ⟨_, .error exc⟩ => foreign exc
  | _ => true

/-- The exception is not answered as a limiter's rejection. -/
def Ordinary (exc : Exn) : Prop := ∀ e, exc = .http e → ¬ LimitRejection e

theorem ordinary_of_foreign {exc : Exn} (h : foreign exc = true) : Ordinary exc := by
  rintro e rfl
  cases h

theorem providerError_ordinary (exc : ProviderError) :
    Ordinary (.http (providerErrorToHttpException exc)) := by
  have upstream (status : ℤ) (message code : String) :
      Ordinary (.http ⟨status, openaiError message "upstream_error" code, []⟩) := by
    rintro _ ⟨⟩ ⟨_, message', code', eq⟩
    simp [openaiError] at eq
  cases exc <;> exact upstream _ _ _

theorem injectionBlocked_ordinary : Ordinary (.http injectionBlocked) := by
  rintro _ ⟨⟩ ⟨status, _⟩
  simp [injectionBlocked] at status

end Exceptions

section Monitor

/-- The key belongs to no tenant's monthly budget. -/
def NotBudget (key : String) : Prop := ∀ tenantId month, key ≠ budgetKey tenantId month

theorem notBudget_text (lib : Libraries) (tenantId : Uuid) {key : RedisKey}
    (other : key.family ≠ .budget) :
    NotBudget (key.text lib tenantId) := by
  intro tenantId' month same
  have same : key.text lib tenantId = (RedisKey.budget month).text lib tenantId' := same
  obtain ⟨_, rfl, _⟩ := text_parts same
  exact other (families_differ same)

/-- The calls of a request: none but the reservation is about a budget, and the slot is asked for
under the tenant's limit. -/
def Regular (limit : ℤ) : GatewayOp → Prop
  | .checkTokenBucket key _ _ _ | .getCachedCompletion key | .storeCachedCompletion key _ _ => NotBudget key
  | .acquireConcurrencySlot _ cap => cap = limit
  | _ => True

/-- Whether the budget may have been reserved, and whether the slot was refused after that. -/
structure Reservation where
  spent : Bool
  refused : Bool

def reserves : GatewayEvent → Bool
  | ⟨.checkAndReserveBudget _ _ _, .ok result⟩ => result.allowed
  | ⟨.checkAndReserveBudget _ _ _, .error _⟩ => true
  | _ => false

def refuses : GatewayEvent → Bool
  | ⟨.acquireConcurrencySlot _ _, .ok false⟩ => true
  | _ => false

def budgetMonitor (limit : ℤ) : Monitor GatewayOp GatewayRet Exn Reservation where
  permits _ op := Regular limit op
  answers _ op o := raisesForeign ⟨op, o⟩ = true
  advance g op o := ⟨g.spent || reserves ⟨op, o⟩, g.refused || (g.spent && refuses ⟨op, o⟩)⟩

/-- The calls that the monitor of the calls looks at. -/
def watched : GatewayOp → Bool
  | .checkAndReserveBudget _ _ _ | .acquireConcurrencySlot _ _ => true
  | _ => false

variable {limit : ℤ} {α β : Type}

theorem unwatched_advance {g : Reservation} {op : GatewayOp} (unwatched : watched op = false)
    (o : Except Exn (GatewayRet op)) : (budgetMonitor limit).advance g op o = g := by
  have unreserved : reserves ⟨op, o⟩ = false := by
    cases op <;> first
      | rfl
      | cases unwatched
  have unrefused : refuses ⟨op, o⟩ = false := by
    cases op <;> first
      | rfl
      | cases unwatched
  simp [budgetMonitor, unreserved, unrefused]

/-- The program keeps to the regular calls and ends with no limiter's rejection. -/
def Passing (limit : ℤ) (p : GatewayProg α) : Prop :=
  ∀ g, Holds (budgetMonitor limit) p (fun r _ => ∀ exc, r = .error exc → Ordinary exc) g

theorem passing_pure (a : α) : Passing limit (pure a) := by
  rintro g exc ⟨⟩

theorem passing_raise {exc : Exn} (h : Ordinary exc) : Passing limit (Prog.raise exc : GatewayProg α) := by
  rintro g _ ⟨⟩
  exact h

theorem raised_ordinary {op : GatewayOp} {exc : Exn} (h : raisesForeign ⟨op, .error exc⟩ = true) :
    Ordinary exc := by
  apply ordinary_of_foreign
  cases op <;> exact h

theorem passing_call {op : GatewayOp} (regular : Regular limit op) : Passing limit (call op) := by
  refine fun g => ⟨regular, fun o granted => ?_⟩
  cases o with
  | ok a => rintro exc ⟨⟩
  | error e =>
    rintro exc ⟨⟩
    exact raised_ordinary granted

/-- The kinds of calls whose arguments decide whether they are regular. -/
def keyedKinds : List OpKind := [.limiter, .acquireSlot, .readCache, .writeCache]

/-- The call has no part in the limits. -/
abbrev Unlimited (op : GatewayOp) : Prop := keyedKinds.contains op.kind = false

theorem Unlimited.regular {op : GatewayOp} (unlimited : Unlimited op) : Regular limit op := by
  cases op <;> trivial

theorem Unlimited.unwatched {op : GatewayOp} (unlimited : Unlimited op) : watched op = false := by
  cases op <;> first
    | rfl
    | cases unlimited

theorem passing_plain {op : GatewayOp} (unlimited : Unlimited op) : Passing limit (call op) :=
  passing_call unlimited.regular

theorem Passing.bind {p : GatewayProg α} {f : α → GatewayProg β} (h : Passing limit p)
    (hf : ∀ a, Passing limit (f a)) : Passing limit (p >>= f) := by
  intro g
  apply Holds.bind
  refine (h g).mono fun r g' ordinary => ?_
  cases r with
  | ok a => exact hf a g'
  | error e =>
    rintro exc ⟨⟩
    exact ordinary e rfl

theorem Passing.handle {p : GatewayProg α} {h : Exn → GatewayProg α} (hp : Passing limit p)
    (hh : ∀ exc, Ordinary exc → Passing limit (h exc)) : Passing limit (p.handle h) := by
  intro g
  rw [holds_handle]
  refine (hp g).mono fun r g' ordinary => ?_
  cases r with
  | ok a => rintro exc ⟨⟩
  | error e => exact hh e (ordinary e rfl) g'

end Monitor

section Pieces
variable {config : GatewayConfig} {request : ChatRequest} {providerName : String}
  {body : ChatCompletionRequest} {promptTokens : ℕ} {limit : ℤ}

theorem encodingFor_passing (model : String) : Passing limit (encodingFor model) := by
  refine (passing_plain rfl).handle fun exc ordinary => ?_
  cases exc with
  | keyError => exact passing_plain rfl
  | _ => exact passing_raise ordinary

theorem countTextTokens_passing (text model : String) : Passing limit (countTextTokens text model) :=
  (encodingFor_passing model).bind fun _ => passing_plain rfl

theorem countPromptTokens_passing (messages : List ChatMessage) (model : String) :
    Passing limit (countPromptTokens messages model) := by
  have content (encoding : String) (c : MessageContent) : Passing limit (contentTokens encoding c) := by
    cases c with
    | text s => exact passing_plain rfl
    | _ => exact passing_pure 0
  have name (encoding : String) (message : ChatMessage) :
      Passing limit (nameTokens encoding message) := by
    rw [nameTokens]
    split
    · exact (passing_plain rfl).bind fun _ => passing_pure _
    · exact passing_pure 0
  have each (encoding : String) (numTokens : ℕ) :
      Passing limit (countMessages encoding messages numTokens) := by
    induction messages generalizing numTokens with
    | nil => exact passing_pure _
    | cons message rest ih =>
      refine (passing_plain rfl).bind fun _ => (content encoding _).bind fun _ => ?_
      exact (name encoding message).bind fun _ => ih _
  exact (encodingFor_passing model).bind fun encoding => (each encoding 0).bind fun _ => passing_pure _

theorem redactMessage_passing (message : ChatMessage) : Passing limit (redactMessage message) := by
  have redacts (text : String) : Passing limit (redact text) := by
    rw [redact]
    split
    · exact passing_pure _
    · refine (passing_plain rfl).bind fun findings => ?_
      split
      · exact passing_pure _
      · exact (passing_plain rfl).bind fun _ => passing_pure _
  rw [redactMessage]
  split
  · refine (redacts _).bind fun result => ?_
    split
    · exact passing_pure _
    · exact passing_pure _
  all_goals exact passing_pure _

theorem redactEach_passing (messages : List ChatMessage) : Passing limit (redactEach messages) := by
  induction messages with
  | nil => exact passing_pure _
  | cons message rest ih =>
    exact (redactMessage_passing message).bind fun _ => ih.bind fun _ => passing_pure _

theorem writeAuditEvent_passing (tenantId : Option Uuid) (eventType : String)
    (correlationId : Option String) (detail : JsonObject) :
    Passing limit (writeAuditEvent auditSession tenantId eventType correlationId detail) :=
  (passing_plain rfl).bind fun _ => passing_plain rfl

theorem redactionStep_passing : Passing limit (redactionStep request) := by
  rw [redactionStep]
  split
  · refine Passing.bind ((redactEach_passing _).bind fun _ => passing_pure _) fun redacted => ?_
    obtain ⟨messages, entityTypes⟩ := redacted
    simp only
    split
    · refine (passing_plain rfl).bind fun _ => ?_
      exact (writeAuditEvent_passing _ _ _ _).bind fun _ => passing_pure _
    · exact passing_pure _
  · exact passing_pure _

theorem detectionStep_passing (messages : List ChatMessage) :
    Passing limit (detectionStep config.lib request messages) := by
  rw [detectionStep]
  split
  · refine (passing_plain rfl).bind fun verdict => ?_
    split
    · refine (passing_plain rfl).bind fun _ => (writeAuditEvent_passing _ _ _ _).bind fun _ => ?_
      split
      · exact passing_raise injectionBlocked_ordinary
      · exact passing_pure _
    · exact passing_pure _
  · exact passing_pure _

theorem runSecurityPipeline_passing : Passing limit (runSecurityPipeline config.lib request) :=
  redactionStep_passing.bind fun messages => (detectionStep_passing messages).bind fun _ => passing_pure _

theorem releaseLock_passing : Passing limit (releaseLockIfKeyed request) := by
  rw [releaseLockIfKeyed]
  split
  · exact passing_plain rfl
  · exact passing_pure _

theorem recordUsage_passing (model : String) (p c : ℤ) (cacheHit : Bool) :
    Passing limit (recordUsage request providerName model p c cacheHit) := by
  refine Passing.bind (passing_plain rfl) fun _ => Passing.bind (passing_plain rfl) fun _ => ?_
  refine Passing.bind (passing_plain rfl) fun _ => (passing_plain rfl).bind fun _ => ?_
  refine (passing_plain rfl).bind fun _ => (passing_plain rfl).bind fun _ => ?_
  exact passing_plain rfl

theorem storeAndRelease_passing (responseJson : String) :
    Passing limit (storeAndReleaseIfKeyed request responseJson) := by
  rw [storeAndReleaseIfKeyed]
  split
  · exact (passing_plain rfl).bind fun _ => passing_plain rfl
  · exact passing_pure _

theorem withUsage_passing (response : ChatCompletionResponse) :
    Passing limit (withUsage body promptTokens response) := by
  rw [withUsage]
  split
  · exact passing_pure _
  · exact (countTextTokens_passing _ _).bind fun _ => passing_pure _

theorem storeCachedCompletion_passing {key : String} (unbudgeted : NotBudget key)
    (response : ChatCompletionResponse) : Passing limit (storeCachedCompletion config key response) :=
  (passing_plain rfl).bind fun _ => passing_call unbudgeted

theorem storeIfCaching_passing {cacheKey : Option String} (unbudgeted : ∀ key ∈ cacheKey, NotBudget key)
    (response : ChatCompletionResponse) : Passing limit (storeIfCaching config cacheKey response) := by
  cases cacheKey with
  | none => exact passing_pure _
  | some key => exact storeCachedCompletion_passing (unbudgeted key rfl) response

theorem cacheStream_passing {cacheKey : Option String} (unbudgeted : ∀ key ∈ cacheKey, NotBudget key)
    (text : String) (tokens : ℕ) :
    Passing limit (cacheStream config body cacheKey text promptTokens tokens) := by
  cases cacheKey with
  | none => exact passing_pure _
  | some key =>
    rw [cacheStream]
    split
    · refine (passing_plain rfl).bind fun hex => (passing_plain rfl).bind fun created => ?_
      exact storeCachedCompletion_passing (unbudgeted key rfl) _
    · exact passing_pure _

theorem completionKey_unbudgeted :
    NotBudget (computeCacheKey config.lib request.tenant.tenantId body) :=
  @notBudget_text config.lib request.tenant.tenantId (.completion body) (by simp [RedisKey.family])

theorem getCachedCompletion_passing :
    Passing limit (getCachedCompletion config.lib (computeCacheKey config.lib request.tenant.tenantId body)) := by
  have looked : Passing limit (call (.getCachedCompletion
      (computeCacheKey config.lib request.tenant.tenantId body))) := passing_call completionKey_unbudgeted
  refine looked.bind fun raw => ?_
  cases raw with
  | none => exact passing_pure _
  | some text =>
    simp only
    split
    · exact passing_pure _
    · exact passing_raise (ordinary_of_foreign rfl)

theorem chunkContents_foreign {chunk : Json} {exc : Exn} (raised : chunkContents chunk = .error exc) :
    foreign exc = true := by
  cases chunk with
  | obj members =>
    simp only [chunkContents] at raised
    split at raised
    · split at raised <;> cases raised
      rfl
    · cases raised
  | _ =>
    cases raised
    rfl

end Pieces

section Requests
variable {config : GatewayConfig} {request : ChatRequest} {providerName : String} {promptTokens : ℕ}
  {limit : ℤ} {α : Type}

/-- Nothing was reserved, or the slot was refused after the reservation. -/
def Reservation.Excused (g : Reservation) : Prop := g.spent = false ∨ g.refused = true

/-- A limiter's rejection leaves no reservation behind, unless it is the slot's. -/
def ExcusedRejection (r : Except Exn α) (g : Reservation) : Prop :=
  ∀ exc, r = .error (.http exc) → LimitRejection exc → g.Excused

theorem enforceRequestLimits_reserves (tenant : TenantContext) (model : String) :
    Holds (budgetMonitor limit) (enforceRequestLimits tenant providerName model promptTokens)
      (fun r g => ∀ exc, r = .error exc → foreign exc = true ∨ ∃ e, exc = .rateLimit e ∧ g.Excused)
      ⟨false, false⟩ := by
  have rpm : NotBudget (rpmBucketKey tenant.tenantId) :=
    @notBudget_text silentLibraries tenant.tenantId .rpm (by simp [RedisKey.family])
  have tpm : NotBudget (tpmBucketKey tenant.tenantId) :=
    @notBudget_text silentLibraries tenant.tenantId .tpm (by simp [RedisKey.family])
  refine Holds.call_bind rpm (fun result _ => ?_) fun e granted => ?_
  · split
    · rintro _ ⟨⟩
      exact .inr ⟨_, rfl, .inl rfl⟩
    · refine Holds.call_bind tpm (fun result _ => ?_) fun e granted => ?_
      · split
        · rintro _ ⟨⟩
          exact .inr ⟨_, rfl, .inl rfl⟩
        · simp only
          split
          · refine Holds.call_bind trivial (fun month _ => ?_) fun e granted => ?_
            · refine Holds.call_bind trivial (fun budget _ => ?_) fun e granted => ?_
              · split
                · rename_i denied
                  rintro _ ⟨⟩
                  exact .inr ⟨_, rfl, .inl denied⟩
                · rintro _ ⟨⟩
              · rintro _ ⟨⟩
                exact .inl granted
            · rintro _ ⟨⟩
              exact .inl granted
          · rintro _ ⟨⟩
      · rintro _ ⟨⟩
        exact .inl granted
  · rintro _ ⟨⟩
    exact .inl granted

/-- If it raises, the exception is no limiter's rejection. -/
def RaisesOrdinary (outcome : Except Exn Unit) : Prop := ∀ exc, outcome = .error exc → Ordinary exc

/-- Before the limits, after a refusal and at the end it is as is asked; after the limits all that
is raised is ordinary. -/
def limitStages {G : Type} (before : G → Prop) (refused : HttpException → G → Prop)
    (ended : Except Exn Answer → G → Prop) : Assertions G :=
  let unbudgeted (asked : Asked) : Prop := ∀ key ∈ asked.cacheKey, NotBudget key
  { Assertions.until (fun _ => True) ended with
    start := before
    fresh := before
    locked := before
    counted := fun _ => before
    refused := refused
    blocked := fun exc _ => Ordinary (.http exc)
    looked := fun asked _ _ => unbudgeted asked
    missed := fun asked _ => unbudgeted asked
    answered := fun asked _ _ => unbudgeted asked
    raised := fun exc _ => Ordinary exc
    received := fun asked _ _ => unbudgeted asked
    completed := fun asked _ _ _ => unbudgeted asked
    replayed := fun _ outcome _ => RaisesOrdinary outcome
    replayBilled := fun outcome _ => RaisesOrdinary outcome
    streaming := fun asked _ => unbudgeted asked
    reading := fun asked _ _ ending _ _ => unbudgeted asked ∧ ending.all foreign = true
    read := fun asked _ outcome _ => unbudgeted asked ∧ RaisesOrdinary outcome
    settled := fun asked _ _ outcome _ => unbudgeted asked ∧ RaisesOrdinary outcome
    texted := fun asked _ _ outcome _ => unbudgeted asked ∧ RaisesOrdinary outcome
    streamBilled := fun asked _ _ outcome _ => unbudgeted asked ∧ RaisesOrdinary outcome
    streamBooked := fun outcome _ => RaisesOrdinary outcome
    streamFreed := fun outcome _ => RaisesOrdinary outcome }

/-- What a monitor needs of the limits for the rest of the request to follow: a refusal by them is
what their calls leave behind, and the other calls keep what holds before them and after it. -/
structure Limiting {G : Type} (M : Monitor GatewayOp GatewayRet Exn G) (request : ChatRequest)
    (before : G → Prop) (refused : HttpException → G → Prop) (ended : Except Exn Answer → G → Prop) :
    Prop where
  permits : ∀ g op, Regular request.tenant.maxConcurrentRequests op → M.permits g op
  answers : ∀ g op o, M.answers g op o → raisesForeign ⟨op, o⟩ = true
  before_kept : ∀ g op o, Unlimited op → before g → before (M.advance g op o)
  refused_kept : ∀ exc g op o, Unlimited op → refused exc g → refused exc (M.advance g op o)
  limits : ∀ providerName promptTokens g, before g →
    Holds M (enforceRequestLimits request.tenant providerName request.body.model promptTokens)
      (fun r g' => ∀ exc, r = .error exc →
        foreign exc = true ∨ ∃ e, exc = .rateLimit e ∧ refused (rateLimitHttpException e) g') g
  slot : ∀ g, refused (tooManyRequests request.tenant.maxConcurrentRequests)
    (M.advance g (.acquireConcurrencySlot request.tenant.tenantId request.tenant.maxConcurrentRequests)
      (.ok false))
  returned : ∀ answer g, ended (.ok answer) g
  ordinary : ∀ exc g, Ordinary exc → ended (.error exc) g
  refusal : ∀ exc g, refused exc g → ended (.error (.http exc)) g

section Limiting
variable {G : Type} {M : Monitor GatewayOp GatewayRet Exn G} {before : G → Prop}
  {refused : HttpException → G → Prop} {ended : Except Exn Answer → G → Prop} {g : G}
  {p : GatewayProg α} {kinds : List OpKind}

theorem Limiting.passing (limiting : Limiting M request before refused ended)
    (h : Passing request.tenant.maxConcurrentRequests p) (g : G) :
    Holds M p (fun r _ => ∀ exc, r = .error exc → Ordinary exc) g := by
  have follows (g₀ : Reservation) (g : G) (ends : Holds (budgetMonitor
      request.tenant.maxConcurrentRequests) p (fun r _ => ∀ exc, r = .error exc → Ordinary exc) g₀) :
      Holds M p (fun r _ => ∀ exc, r = .error exc → Ordinary exc) g := by
    clear h
    induction p generalizing g₀ g with
    | done r => exact ends
    | call op next ih =>
      refine ⟨limiting.permits g op ends.1, fun o granted => ?_⟩
      exact ih o _ _ (ends.2 o (limiting.answers g op o granted))
  exact follows ⟨false, false⟩ g (h _)

theorem Limiting.keeps (limiting : Limiting M request before refused ended) {P : G → Prop}
    (kept : ∀ g op o, Unlimited op → P g → P (M.advance g op o)) (uses : UsesKinds kinds p)
    (apart : ∀ kind ∈ kinds, keyedKinds.contains kind = false)
    (h : Passing request.tenant.maxConcurrentRequests p) (holds : P g) :
    Holds M p (fun r g' => P g' ∧ ∀ exc, r = .error exc → Ordinary exc) g := by
  have plain : p.Uses Unlimited := uses.mono fun op mem => apart _ mem
  have keeping := plain.keeps (fun g op unlimited => limiting.permits g op unlimited.regular) kept holds
  exact keeping.and (limiting.passing h g)

theorem Limiting.early (limiting : Limiting M request before refused ended) {next : α → Stage}
    (uses : UsesKinds kinds p) (apart : ∀ kind ∈ kinds, keyedKinds.contains kind = false)
    (h : Passing request.tenant.maxConcurrentRequests p) (reached : before g)
    (returned : ∀ a g, before g → (limitStages before refused ended).Reached (next a) g) :
    Holds M p (fun r => (limitStages before refused ended).Reached (onOk next r)) g := by
  refine (limiting.keeps limiting.before_kept uses apart h reached).mono ?_
  rintro (e | a) g' ⟨now, ordinary⟩
  · exact limiting.ordinary e g' (ordinary e rfl)
  · exact returned a g' now

theorem Limiting.goes (limiting : Limiting M request before refused ended) {next : α → Stage}
    (h : Passing request.tenant.maxConcurrentRequests p)
    (returned : ∀ a g, (limitStages before refused ended).Reached (next a) g) :
    Holds M p (fun r => (limitStages before refused ended).Reached (onOk next r)) g := by
  refine (limiting.passing h g).mono ?_
  rintro (e | a) g' ordinary
  · exact limiting.ordinary e g' (ordinary e rfl)
  · exact returned a g'

theorem Limiting.streamEnd (limiting : Limiting M request before refused ended)
    {outcome : Except Exn Unit} (ordinary : RaisesOrdinary outcome) : ended (streamEnd outcome) g := by
  cases outcome with
  | ok u => exact limiting.returned _ g
  | error e => exact limiting.ordinary e g (ordinary e rfl)

end Limiting

theorem modelNotFound_ordinary (message : String) : Ordinary (.http (modelNotFound message)) := by
  rintro _ ⟨⟩ ⟨status, _⟩
  simp [modelNotFound] at status

theorem keyInUse_ordinary : Ordinary (.http keyInUse) := by
  rintro _ ⟨⟩ ⟨status, _⟩
  simp [keyInUse] at status

theorem limit_walks {G : Type} {M : Monitor GatewayOp GatewayRet Exn G} {before : G → Prop}
    {refused : HttpException → G → Prop} {ended : Except Exn Answer → G → Prop}
    (limiting : Limiting M request before refused ended) (config : GatewayConfig) :
    Walks M (limitStages before refused ended).Reached config request := by
  intro α stage p next piece g reached
  cases piece with
  | @replay key =>
    have replays : UsesKinds [.readResponse] (call (.getCachedResponse request.tenant.tenantId key)) :=
      usesKinds_call rfl
    refine limiting.early replays (by decide) (passing_plain rfl) reached fun cached g now => ?_
    cases cached with
    | some content => exact limiting.returned _ g
    | none => exact now
  | @lock key =>
    have acquires : UsesKinds [.acquireLock] (call (.tryAcquireLock request.tenant.tenantId key)) :=
      usesKinds_call rfl
    refine limiting.early acquires (by decide) (passing_plain rfl) reached fun acquired g now => ?_
    cases acquired with
    | true => exact now
    | false => exact limiting.ordinary _ g keyInUse_ordinary
  | unknown =>
    refine limiting.early (releaseLockIfKeyed_uses request) (by decide) releaseLock_passing reached
      fun _ g _ => ?_
    exact limiting.ordinary _ g (modelNotFound_ordinary _)
  | count =>
    exact limiting.early (countPromptTokens_uses _ _) (by decide) (countPromptTokens_passing _ _) reached
      fun _ _ now => now
  | limit providerName promptTokens =>
    refine (limiting.limits providerName promptTokens g reached).mono fun r g ended => ?_
    cases r with
    | ok u => trivial
    | error exc =>
      rcases ended exc rfl with other | ⟨e, rfl, refused⟩
      · have ordinary := limiting.ordinary exc g (ordinary_of_foreign other)
        cases exc with
        | rateLimit exceeded => cases other
        | _ => exact ordinary
      · exact refused
  | acquire promptTokens =>
    refine ⟨limiting.permits _ _ rfl, fun o granted => ?_⟩
    cases o with
    | error e => exact limiting.ordinary e _ (raised_ordinary (limiting.answers _ _ _ granted))
    | ok acquired =>
      cases acquired with
      | true => trivial
      | false => exact limiting.slot g
  | refuse providerName reason exc =>
    have uses : UsesKinds [.metric, .releaseLock] (do
        call (.metric (.rateLimitRejections reason))
        call (.metric (.chatCompletions providerName .rateLimited))
        releaseLockIfKeyed request) := (usesKinds_call rfl).bind fun _ =>
      (usesKinds_call rfl).bind fun _ => (releaseLockIfKeyed_uses request).weaken (by decide)
    refine (limiting.keeps (limiting.refused_kept exc) uses (by decide) ?_ reached).mono ?_
    · exact (passing_plain rfl).bind fun _ => (passing_plain rfl).bind fun _ => releaseLock_passing
    · rintro (e | _) g' ⟨now, ordinary⟩
      · exact limiting.ordinary e g' (ordinary e rfl)
      · exact limiting.refusal exc g' now
  | screen promptTokens =>
    refine (limiting.passing runSecurityPipeline_passing g).mono fun r g' ordinary => ?_
    rcases r with e | body
    · cases e with
      | http exc => exact ordinary _ rfl
      | _ => exact limiting.ordinary _ g' (ordinary _ rfl)
    · trivial
  | block providerName exc =>
    refine limiting.goes ?_ fun _ g => limiting.ordinary _ g reached
    exact (passing_plain rfl).bind fun _ => (passing_plain rfl).bind fun _ => releaseLock_passing
  | lookUp body promptTokens =>
    refine limiting.goes getCachedCompletion_passing fun cached _ => ?_
    rintro key ⟨⟩
    exact completionKey_unbudgeted
  | uncached => exact fun key keyed => by cases keyed
  | noteLookup asked cached =>
    refine limiting.goes (passing_plain rfl) fun _ _ => ?_
    cases cached with
    | some response => trivial
    | none => exact reached
  | freeHit | dump | beginHit => exact limiting.goes (passing_plain rfl) fun _ _ => trivial
  | billHit | bill => exact limiting.goes (recordUsage_passing _ _ _ _) fun _ _ => trivial
  | unbilledHit | unlocked | unreplayed | unbilledReplay => exact reached
  | replayChunks cached =>
    have yields : Passing request.tenant.maxConcurrentRequests (do
        call (.yieldFrame (.chunk (cachedChunk cached)))
        call (.yieldFrame .finished)) := (passing_plain rfl).bind fun _ => passing_plain rfl
    exact (limiting.passing yields g).mono fun r _ ordinary => ordinary
  | billReplay => exact limiting.goes (recordUsage_passing _ _ _ _) fun _ _ => reached
  | endReplay outcome =>
    refine (limiting.passing releaseLock_passing g).mono fun closed g' ordinary => ?_
    cases closed with
    | ok u => exact limiting.streamEnd reached
    | error e => exact limiting.ordinary e g' (ordinary e rfl)
  | callProvider asked =>
    refine ⟨limiting.permits _ _ trivial, fun o granted => ?_⟩
    cases o with
    | ok received => exact reached
    | error e =>
      have ordinary : Ordinary e := raised_ordinary (limiting.answers _ _ _ granted)
      cases e with
      | provider exc => trivial
      | _ => exact ordinary
  | fail providerName exc =>
    have counted : Passing request.tenant.maxConcurrentRequests (do
        call (.metric (.providerCallDuration providerName .error))
        call (.metric (.chatCompletions providerName .error))
        releaseLockIfKeyed request) :=
      (passing_plain rfl).bind fun _ => (passing_plain rfl).bind fun _ => releaseLock_passing
    refine (limiting.passing counted g).mono fun r g' ordinary => ?_
    cases r with
    | ok u => exact providerError_ordinary exc
    | error e => exact ordinary e rfl
  | freeRaised exc => exact limiting.goes (passing_plain rfl) fun _ g => limiting.ordinary exc g reached
  | freeAnswered | beginMissed | freeStream => exact limiting.goes (passing_plain rfl) fun _ _ => reached
  | complete providerName asked received =>
    refine limiting.goes ?_ fun _ _ => reached
    exact (passing_plain rfl).bind fun _ => withUsage_passing received
  | keep asked response usage => exact limiting.goes (storeIfCaching_passing reached response) fun _ _ => trivial
  | send text => exact limiting.goes (storeAndRelease_passing text) fun _ g => limiting.returned _ g
  | startUpstream asked =>
    refine ⟨limiting.permits _ _ trivial, fun o granted => ?_⟩
    have foreign := limiting.answers _ _ _ granted
    cases o with
    | ok stream => exact ⟨reached, foreign⟩
    | error e =>
      refine ⟨reached, ?_⟩
      rintro _ ⟨⟩
      exact raised_ordinary foreign
  | yieldChunk asked sent chunk rest ending parts contents =>
    refine ⟨limiting.permits _ _ trivial, fun o granted => ?_⟩
    cases o with
    | ok u => exact reached
    | error e =>
      refine ⟨reached.1, ?_⟩
      rintro _ ⟨⟩
      exact raised_ordinary (limiting.answers _ _ _ granted)
  | unreadable asked sent chunk rest ending parts exc raised =>
    refine ⟨reached.1, ?_⟩
    rintro _ ⟨⟩
    exact ordinary_of_foreign (chunkContents_foreign raised)
  | breakOff asked sent parts exc =>
    refine ⟨reached.1, ?_⟩
    rintro _ ⟨⟩
    exact ordinary_of_foreign reached.2
  | finish asked sent parts =>
    refine ⟨limiting.permits _ _ trivial, fun o granted => ⟨reached.1, ?_⟩⟩
    rintro exc rfl
    exact raised_ordinary (limiting.answers _ _ _ granted)
  | report asked parts exc =>
    refine ⟨limiting.permits _ _ trivial, fun o granted => ⟨reached.1, ?_⟩⟩
    rintro exc rfl
    exact raised_ordinary (limiting.answers _ _ _ granted)
  | succeed => exact reached
  | countText providerName asked parts =>
    refine limiting.goes ?_ fun _ _ => reached
    exact (passing_plain rfl).bind fun _ => countTextTokens_passing _ _
  | billStream => exact limiting.goes (recordUsage_passing _ _ _ _) fun _ _ => reached
  | keepStream => exact limiting.goes (cacheStream_passing reached.1 _ _) fun _ _ => reached.2
  | failStream providerName asked parts =>
    refine limiting.goes ?_ fun _ _ => reached.2
    exact (passing_plain rfl).bind fun _ => (passing_plain rfl).bind fun _ => countTextTokens_passing _ _
  | endStream => exact limiting.goes releaseLock_passing fun _ _ => limiting.streamEnd reached

/-- The reservation is settled unless the request has passed the limits. -/
theorem budget_limiting (request : ChatRequest) :
    Limiting (budgetMonitor request.tenant.maxConcurrentRequests) request (· = ⟨false, false⟩)
      (fun _ g => g.Excused) ExcusedRejection where
  permits _ _ regular := regular
  answers _ _ _ granted := granted
  before_kept _ _ o unlimited unspent := (unwatched_advance unlimited.unwatched o).trans unspent
  refused_kept _ _ _ o unlimited settled := (unwatched_advance unlimited.unwatched o).symm ▸ settled
  limits _ _ _ unspent := unspent ▸ enforceRequestLimits_reserves _ _
  slot g := by
    cases spent : g.spent with
    | false => exact .inl (by simp [budgetMonitor, reserves, spent])
    | true => exact .inr (by simp [budgetMonitor, refuses, spent])
  returned _ _ := by
    rintro exc ⟨⟩
  ordinary _ _ ordinary := by
    rintro e ⟨⟩ rejection
    exact absurd rejection (ordinary e rfl)
  refusal _ _ settled _ _ _ := settled

theorem serve_accounted (config : GatewayConfig) (request : ChatRequest) :
    Holds (budgetMonitor request.tenant.maxConcurrentRequests) (serve config request) ExcusedRejection
      ⟨false, false⟩ :=
  serve_walks (limit_walks (budget_limiting request) config) rfl

end Requests

section Wire

/-- No command and no other call of a request raises an exception of the gateway's own. -/
def wireForeign : WireEvent → Bool
  | ⟨.redis _, .ok (.answered (.error exc))⟩ | ⟨.redis _, .ok (.lost exc _)⟩
  | ⟨.redis _, .error exc⟩ => foreign exc
  | ⟨.outside op, o⟩ => raisesForeign ⟨op, o⟩
  | _ => true

/-- The budget script may have reserved something: it did, or its answer is not known. -/
def wireReserves : WireEvent → Bool
  | ⟨.redis (.budgetScript _ _ _), .ok (.answered (.ok result))⟩ => result.allowed
  | ⟨.redis (.budgetScript _ _ _), _⟩ => true
  | _ => false

/-- What an INCR of the concurrency counter is answered. -/
def incrAnswer : WireEvent → List ℤ
  | ⟨.redis (.incr _), .ok (.answered (.ok current))⟩ => [current]
  | _ => []

def wirePermits : WireOp → Prop
  | .redis (.budgetScript _ _ _) | .outside _ => True
  | .redis cmd => NotBudget cmd.key

/-- Whether the budget may have been reserved, and what the INCRs after that were answered. -/
structure WireReservation where
  spent : Bool
  counts : List ℤ

def wireMonitor : Monitor WireOp WireRet Exn WireReservation where
  permits _ op := wirePermits op
  answers _ op o := wireForeign ⟨op, o⟩ = true
  advance g op o :=
    ⟨g.spent || wireReserves ⟨op, o⟩, if g.spent then incrAnswer ⟨op, o⟩ ++ g.counts else g.counts⟩

/-- The commands know of the reservation what the call knows, and count every refusal. -/
def Known (limit : ℤ) (g : Reservation) (w : WireReservation) : Prop :=
  w.spent = g.spent ∧ (g.refused = true → ∃ current ∈ w.counts, limit < current)

variable {limit : ℤ} {g : Reservation} {w : WireReservation}

theorem redis_holds {cmd : RedisCommand} {Q : Except Exn (RedisRet cmd) → WireReservation → Prop}
    (permitted : wirePermits (.redis cmd))
    (answered : ∀ result, (∀ exc, result = .error exc → foreign exc = true) →
      Q result (wireMonitor.advance w (.redis cmd) (.ok (.answered result))))
    (lost : ∀ exc carriedOut, foreign exc = true →
      Q (.error exc) (wireMonitor.advance w (.redis cmd) (.ok (.lost exc carriedOut))))
    (failed : ∀ exc, foreign exc = true →
      Q (.error exc) (wireMonitor.advance w (.redis cmd) (.error exc))) :
    Holds wireMonitor (redis cmd) Q w := by
  refine Holds.call_bind permitted (fun reply granted => ?_) failed
  cases reply with
  | answered result =>
    refine answered result ?_
    rintro exc rfl
    exact granted
  | lost exc carriedOut => exact lost exc carriedOut granted

/-- The commands that neither reserve nor count. -/
def quietCommand : RedisCommand → Bool
  | .budgetScript _ _ _ | .incr _ => false
  | _ => true

theorem quiet_advance {cmd : RedisCommand} (quiet : quietCommand cmd = true)
    (o : Except Exn (WireRet (.redis cmd))) : wireMonitor.advance w (.redis cmd) o = w := by
  have unreserved : wireReserves ⟨.redis cmd, o⟩ = false := by
    cases cmd <;> first
      | rfl
      | cases quiet
  have uncounted : incrAnswer ⟨.redis cmd, o⟩ = [] := by
    cases cmd <;> first
      | rfl
      | cases quiet
  simp [wireMonitor, unreserved, uncounted]

theorem quiet_redis {cmd : RedisCommand} {Q : Except Exn (RedisRet cmd) → WireReservation → Prop}
    (quiet : quietCommand cmd = true) (key : NotBudget cmd.key)
    (ends : ∀ result, (∀ exc, result = .error exc → foreign exc = true) → Q result w) :
    Holds wireMonitor (redis cmd) Q w := by
  have permitted : wirePermits (.redis cmd) := by cases cmd <;> first | exact key | trivial
  have raised (exc : Exn) (other : foreign exc = true) : Q (.error exc) w := by
    refine ends _ ?_
    rintro _ ⟨⟩
    exact other
  refine redis_holds permitted (fun result other => ?_) (fun exc _ other => ?_) fun exc other => ?_
  · rw [quiet_advance quiet]
    exact ends result other
  · rw [quiet_advance quiet]
    exact raised exc other
  · rw [quiet_advance quiet]
    exact raised exc other

theorem quiet_dropped {cmd : RedisCommand} {Q : Except Exn Unit → WireReservation → Prop}
    (quiet : quietCommand cmd = true) (key : NotBudget cmd.key)
    (ends : ∀ result, (∀ exc, result = .error exc → foreign exc = true) → Q result w) :
    Holds wireMonitor (do let _ ← redis cmd) Q w := by
  apply Holds.bind
  refine quiet_redis quiet key fun result other => ?_
  cases result with
  | ok a =>
    refine ends (.ok ()) ?_
    rintro _ ⟨⟩
  | error exc =>
    refine ends (.error exc) ?_
    rintro _ ⟨⟩
    exact other exc rfl

theorem raisesForeign_result {op : GatewayOp} (plain : answersStream op = false)
    {o : Except Exn (GatewayRet op)} (other : ∀ exc, o = .error exc → foreign exc = true) :
    raisesForeign ⟨op, o⟩ = true := by
  cases o with
  | ok a => cases op <;> first | rfl | cases plain
  | error exc => cases op <;> exact other exc rfl

/-- What the commands of a call must end in: the call's answer, and a state that is in step. -/
def Carried (limit : ℤ) (g : Reservation) (op : GatewayOp) (o : Except Exn (GatewayRet op))
    (w : WireReservation) : Prop :=
  raisesForeign ⟨op, o⟩ = true ∧ Known limit ((budgetMonitor limit).advance g op o) w

theorem unwatched_carried {op : GatewayOp} (unwatched : watched op = false) (plain : answersStream op = false)
    (known : Known limit g w) (o : Except Exn (GatewayRet op))
    (other : ∀ exc, o = .error exc → foreign exc = true) : Carried limit g op o w := by
  refine ⟨raisesForeign_result plain other, ?_⟩
  rw [unwatched_advance unwatched]
  exact known

theorem outside_carried {op : GatewayOp} (unwatched : watched op = false) (known : Known limit g w) :
    Holds wireMonitor (ask (.outside op)) (Carried limit g op) w := by
  refine ⟨trivial, fun o granted => ⟨granted, ?_⟩⟩
  rw [unwatched_advance unwatched]
  simpa [wireMonitor, wireReserves, incrAnswer] using known

theorem reserve_carried (key : String) (increment cap : ℚ) (known : Known limit g w) :
    Holds wireMonitor (redis (.budgetScript key increment cap))
      (Carried limit g (.checkAndReserveBudget key increment cap)) w := by
  obtain ⟨spent, refused⟩ := known
  have counted (e : WireEvent) (o : Except Exn (RedisRet (.budgetScript key increment cap)))
      (same : wireReserves e = reserves ⟨.checkAndReserveBudget key increment cap, o⟩)
      (uncounted : incrAnswer e = []) :
      Known limit ((budgetMonitor limit).advance g (.checkAndReserveBudget key increment cap) o)
        (wireMonitor.advance w e.1 e.2) := by
    refine ⟨?_, ?_⟩
    · simp [wireMonitor, budgetMonitor, spent, same]
    · simpa [wireMonitor, budgetMonitor, refuses, uncounted] using refused
  refine redis_holds trivial (fun result other => ⟨?_, ?_⟩) (fun exc carriedOut other => ⟨other, ?_⟩)
    fun exc other => ⟨other, ?_⟩
  · exact raisesForeign_result rfl other
  · refine counted ⟨.redis (.budgetScript key increment cap), .ok (.answered result)⟩ result ?_ rfl
    cases result <;> rfl
  · exact counted ⟨.redis (.budgetScript key increment cap), .ok (.lost exc carriedOut)⟩ (.error exc) rfl rfl
  · exact counted ⟨.redis (.budgetScript key increment cap), .error exc⟩ (.error exc) rfl rfl

theorem slot_known {limit : ℤ} {g : Reservation} {w : WireReservation} {current : ℤ} {key : String}
    {tenantId : Uuid} {o : Except Exn Bool} (known : Known limit g w)
    (above : o = .ok false → limit < current) :
    Known limit ((budgetMonitor limit).advance g (.acquireConcurrencySlot tenantId limit) o)
      (wireMonitor.advance w (.redis (.incr key)) (.ok (.answered (.ok current)))) := by
  obtain ⟨spent, refused⟩ := known
  refine ⟨?_, fun now => ?_⟩
  · simp [wireMonitor, budgetMonitor, wireReserves, reserves, spent]
  · have kept : (∃ n ∈ w.counts, limit < n) → ∃ n ∈ (wireMonitor.advance w (.redis (.incr key))
        (.ok (.answered (.ok current)))).counts, limit < n := by
      rintro ⟨n, mem, more⟩
      refine ⟨n, ?_, more⟩
      simp only [wireMonitor]
      split
      · exact List.mem_append_right _ mem
      · exact mem
    simp only [budgetMonitor, Bool.or_eq_true, Bool.and_eq_true] at now
    rcases now with before | ⟨reserved, refuses⟩
    · exact kept (refused before)
    · have none : o = .ok false := by
        cases o with
        | error exc => cases refuses
        | ok acquired =>
          cases acquired with
          | true => cases refuses
          | false => rfl
      refine ⟨current, ?_, above none⟩
      simp [wireMonitor, incrAnswer, spent, reserved]

theorem slot_carried (tenantId : Uuid) (known : Known limit g w) :
    Holds wireMonitor (RedisCommands.acquireConcurrencySlot tenantId limit)
      (Carried limit g (.acquireConcurrencySlot tenantId limit)) w := by
  have key : NotBudget (concurrencyKey tenantId) :=
    @notBudget_text silentLibraries tenantId .concurrency (by simp [RedisKey.family])
  have unanswered (exc : Exn) (other : foreign exc = true)
      (reply : Except Exn (Reply ℤ)) (uncounted : incrAnswer ⟨.redis (.incr (concurrencyKey tenantId)), reply⟩ = []) :
      Carried limit g (.acquireConcurrencySlot tenantId limit) (.error exc)
        (wireMonitor.advance w (.redis (.incr (concurrencyKey tenantId))) reply) := by
    refine ⟨other, ?_⟩
    simpa [wireMonitor, budgetMonitor, wireReserves, reserves, refuses, uncounted, Known] using known
  apply Holds.bind
  refine redis_holds key (fun result other => ?_) (fun exc carriedOut other => ?_) fun exc other => ?_
  · cases result with
    | error exc => exact unanswered exc (other exc rfl) _ rfl
    | ok current =>
      have ends (o : Except Exn Bool) (above : o = .ok false → limit < current)
          (other : ∀ exc, o = .error exc → foreign exc = true) :
          Carried limit g (.acquireConcurrencySlot tenantId limit) o (wireMonitor.advance w
            (.redis (.incr (concurrencyKey tenantId))) (.ok (.answered (.ok current)))) :=
        ⟨raisesForeign_result rfl other, slot_known known above⟩
      have failed (exc : Exn) (other : foreign exc = true) := ends (.error exc) (by simp) (by
        rintro _ ⟨⟩
        exact other)
      have counted : Holds wireMonitor (if current > limit then do
            let _ ← redis (.decr (concurrencyKey tenantId))
            return false
          else return true : WireProg Bool) (Carried limit g (.acquireConcurrencySlot tenantId limit))
          (wireMonitor.advance w (.redis (.incr (concurrencyKey tenantId)))
            (.ok (.answered (.ok current)))) := by
        split
        · rename_i above
          apply Holds.bind
          refine quiet_redis rfl key fun result other => ?_
          cases result with
          | ok n => exact ends (.ok false) (fun _ => above) (by simp)
          | error exc => exact failed exc (other exc rfl)
        · exact ends (.ok true) (by simp) (by simp)
      apply Holds.bind
      rw [expireFirst]
      split
      · refine quiet_dropped rfl key fun result other => ?_
        cases result with
        | ok u => exact counted
        | error exc => exact failed exc (other exc rfl)
      · exact counted
  · exact unanswered exc other _ rfl
  · exact unanswered exc other _ rfl

theorem commands_carried (op : GatewayOp) (known : Known limit g w) (regular : Regular limit op) :
    Holds wireMonitor (commands op) (Carried limit g op) w := by
  have lock (t : Uuid) (key : String) : NotBudget (lockKey t key) :=
    @notBudget_text silentLibraries t (.lock key) (by simp [RedisKey.family])
  have response (t : Uuid) (key : String) : NotBudget (responseKey t key) :=
    @notBudget_text silentLibraries t (.response key) (by simp [RedisKey.family])
  have concurrency (t : Uuid) : NotBudget (concurrencyKey t) :=
    @notBudget_text silentLibraries t .concurrency (by simp [RedisKey.family])
  have passed (op : GatewayOp) (unwatched : watched op = false) (plain : answersStream op = false) :=
    unwatched_carried unwatched plain known
  cases op with
  | getCachedResponse t key => exact quiet_redis rfl (response t key) (passed (.getCachedResponse t key) rfl rfl)
  | tryAcquireLock t key => exact quiet_redis rfl (lock t key) (passed (.tryAcquireLock t key) rfl rfl)
  | releaseLock t key => exact quiet_dropped rfl (lock t key) (passed (.releaseLock t key) rfl rfl)
  | storeResponse t key responseJson =>
    exact quiet_dropped rfl (response t key) (passed (.storeResponse t key responseJson) rfl rfl)
  | checkTokenBucket key capacity refillPerSecond cost =>
    exact quiet_redis rfl regular (passed (.checkTokenBucket key capacity refillPerSecond cost) rfl rfl)
  | checkAndReserveBudget key increment cap => exact reserve_carried key increment cap known
  | acquireConcurrencySlot t cap =>
    cases regular
    exact slot_carried t known
  | releaseConcurrencySlot t => exact quiet_dropped rfl (concurrency t) (passed (.releaseConcurrencySlot t) rfl rfl)
  | getCachedCompletion key => exact quiet_redis rfl regular (passed (.getCachedCompletion key) rfl rfl)
  | storeCachedCompletion key responseJson ttlSeconds =>
    exact quiet_dropped rfl regular (passed (.storeCachedCompletion key responseJson ttlSeconds) rfl rfl)
  | _ => exact outside_carried rfl known

/-- A limiter's rejection leaves no reservation behind, unless an INCR found no slot free. -/
def WireAccounted (limit : ℤ) (r : Except Exn Answer) (w : WireReservation) : Prop :=
  ∀ exc, r = .error (.http exc) → LimitRejection exc →
    w.spent = false ∨ ∃ current ∈ w.counts, limit < current

theorem serveWire_accounted (config : GatewayConfig) (request : ChatRequest) :
    Holds wireMonitor (serveWire config request)
      (WireAccounted request.tenant.maxConcurrentRequests) ⟨false, []⟩ := by
  have start : Known request.tenant.maxConcurrentRequests ⟨false, false⟩ ⟨false, []⟩ :=
    ⟨rfl, by simp⟩
  refine (Holds.expand (R := Known request.tenant.maxConcurrentRequests)
    (fun g w op known => commands_carried op known) start (serve_accounted config request)).mono ?_
  rintro r w ⟨g, ⟨spent, refused⟩, accounted⟩ exc raised rejection
  rcases accounted exc raised rejection with unspent | refusal
  · exact .inl (spent.trans unspent)
  · exact .inr (refused refusal)

end Wire
end AegisGateway.BudgetRejections
