import AegisGateway.RequestStages

set_option autoImplicit false

/-!
# The gates before the provider

Whatever the calls of a request come to, the provider is called at most once,
after every gate has let the request through, and with the redacted body.
-/
namespace AegisGateway.ProviderGates
open EffectProgram Pricing RequestStages

/-- The body that the call hands to the provider. -/
def providerBody : GatewayOp → Option ChatCompletionRequest
  | .chatCompletion body => some body
  | .streamChatCompletion body => some body
  | _ => none

/-- A part of the past is a run of the program that returned this value. -/
def RanIn {α : Type} (past : List GatewayEvent) (p : GatewayProg α) (a : α) : Prop :=
  ∃ part, part <:+: past ∧ Runs p part (.ok a)

/-- The script allowed the request. -/
def Allowed (past : List GatewayEvent) (key : String) (capacity : ℤ) (refillPerSecond : ℚ)
    (cost : ℤ) : Prop :=
  ∃ result, result.allowed = true ∧
    ⟨.checkTokenBucket key capacity refillPerSecond cost, .ok result⟩ ∈ past

def BudgetAllowed (past : List GatewayEvent) (tenant : TenantContext) (estimate : ℚ) : Prop :=
  ∃ month result, result.allowed = true ∧ ⟨.utcMonth, .ok month⟩ ∈ past ∧
    ⟨.checkAndReserveBudget (budgetKey tenant.tenantId month) estimate
      tenant.monthlyBudgetUsd.value, .ok result⟩ ∈ past

/-- The limits passed for this count of prompt tokens. -/
structure LimitsPassed (past : List GatewayEvent) (tenant : TenantContext)
    (providerName model : String) (promptTokens : ℕ) : Prop where
  rpm : Allowed past (rpmBucketKey tenant.tenantId) tenant.rateLimitRpm (tenant.rateLimitRpm / 60) 1
  tpm : Allowed past (tpmBucketKey tenant.tenantId) tenant.rateLimitTpm (tenant.rateLimitTpm / 60)
    promptTokens
  budget : estimatePromptCostUsd model promptTokens providerName = 0 ∨
    BudgetAllowed past tenant (estimatePromptCostUsd model promptTokens providerName)

/-- The message as it is forwarded: a string content is the redactor's output for it. -/
def Redacted (past : List GatewayEvent) (enabled : Bool) (received forwarded : ChatMessage) : Prop :=
  match received.content with
  | .text s =>
    if enabled then
      ∃ result, RanIn past (redact s) result ∧
        forwarded = { received with content := .text result.redactedText }
    else forwarded = received
  | .null | .parts _ => forwarded = received

/-- The detector's score for the forwarded user text did not reach the threshold. -/
def Unflagged (past : List GatewayEvent) (tenant : TenantContext) (messages : List ChatMessage) :
    Prop :=
  ∃ verdict, ⟨.detect (userText messages), .ok verdict⟩ ∈ past ∧
    tenant.injectionDetectionThreshold.reachedBy verdict.score = false

/-- The detector's score for the forwarded user text was below the threshold. -/
def ScoredBelow (past : List GatewayEvent) (tenant : TenantContext) (messages : List ChatMessage) :
    Prop :=
  ∃ verdict, ⟨.detect (userText messages), .ok verdict⟩ ∈ past ∧
    tenant.injectionDetectionThreshold.above verdict.score = true

/-- A score that does not reach a threshold is below it, unless there is no number to be below. -/
theorem scoredBelow_iff {past : List GatewayEvent} {tenant : TenantContext}
    {messages : List ChatMessage} (unflagged : Unflagged past tenant messages) :
    ScoredBelow past tenant messages ↔ tenant.injectionDetectionThreshold ≠ .nan := by
  constructor
  · rintro ⟨verdict, _, below⟩
    exact ((PyFloat.above_iff _ _).mp below).2
  · intro number
    obtain ⟨verdict, mem, passed⟩ := unflagged
    exact ⟨verdict, mem, (PyFloat.above_iff _ _).mpr ⟨passed, number⟩⟩

/-- The security pipeline let the request through, and this is the body to forward. -/
structure Screened (request : ChatRequest) (past : List GatewayEvent)
    (body : ChatCompletionRequest) : Prop where
  detector : request.tenant.injectionDetectionEnabled = true →
    request.tenant.injectionDetectionMode = .block → Unflagged past request.tenant body.messages
  fields : body = { request.body with messages := body.messages }
  messages : List.Forall₂ (Redacted past request.tenant.piiRedactionEnabled)
    request.body.messages body.messages

structure Gated (config : GatewayConfig) (request : ChatRequest) (past : List GatewayEvent)
    (body : ChatCompletionRequest) : Prop extends Screened request past body where
  limits : ∃ providerName promptTokens,
    resolve config.providers request.body.model = .ok providerName ∧
    RanIn past (countPromptTokens request.body.messages request.body.model) promptTokens ∧
    LimitsPassed past request.tenant providerName request.body.model promptTokens
  slot : ⟨.acquireConcurrencySlot request.tenant.tenantId request.tenant.maxConcurrentRequests,
    .ok true⟩ ∈ past

/-- Every gate let the request through, in block mode with a score below the threshold. -/
structure PastEveryGate (config : GatewayConfig) (request : ChatRequest) (past : List GatewayEvent)
    (body : ChatCompletionRequest) : Prop extends Gated config request past body where
  below : request.tenant.injectionDetectionEnabled = true →
    request.tenant.injectionDetectionMode = .block → ScoredBelow past request.tenant body.messages

section Growing
variable {past past' : List GatewayEvent}

theorem RanIn.grow {α : Type} {p : GatewayProg α} {a : α} (h : RanIn past p a)
    (grown : past <:+: past') : RanIn past' p a := by
  obtain ⟨part, inside, run⟩ := h
  exact ⟨part, inside.trans grown, run⟩

theorem Redacted.grow {enabled : Bool} {received forwarded : ChatMessage}
    (h : Redacted past enabled received forwarded) (grown : past <:+: past') :
    Redacted past' enabled received forwarded := by
  unfold Redacted at h ⊢
  split
  · rename_i content
    rw [content] at h
    simp only at h
    split
    · rename_i on
      rw [if_pos on] at h
      obtain ⟨result, ran, eq⟩ := h
      exact ⟨result, ran.grow grown, eq⟩
    · rename_i off
      rw [if_neg off] at h
      exact h
  all_goals
    rename_i content
    rw [content] at h
    exact h

theorem LimitsPassed.grow {tenant : TenantContext} {providerName model : String} {promptTokens : ℕ}
    (h : LimitsPassed past tenant providerName model promptTokens) (grown : past <:+: past') :
    LimitsPassed past' tenant providerName model promptTokens := by
  obtain ⟨⟨rpm, rpm_ok, rpm_mem⟩, ⟨tpm, tpm_ok, tpm_mem⟩, budget⟩ := h
  refine ⟨⟨rpm, rpm_ok, grown.subset rpm_mem⟩, ⟨tpm, tpm_ok, grown.subset tpm_mem⟩, ?_⟩
  refine budget.imp_right ?_
  rintro ⟨month, result, ok, month_mem, mem⟩
  exact ⟨month, result, ok, grown.subset month_mem, grown.subset mem⟩

theorem Screened.grow {request : ChatRequest} {body : ChatCompletionRequest}
    (h : Screened request past body) (grown : past <:+: past') : Screened request past' body := by
  refine ⟨fun enabled block => ?_, h.fields, h.messages.imp fun _ _ m => m.grow grown⟩
  obtain ⟨verdict, mem, below⟩ := h.detector enabled block
  exact ⟨verdict, grown.subset mem, below⟩

theorem Gated.grow {config : GatewayConfig} {request : ChatRequest} {body : ChatCompletionRequest}
    (h : Gated config request past body) (grown : past <:+: past') :
    Gated config request past' body := by
  obtain ⟨providerName, promptTokens, resolved, counted, limits⟩ := h.limits
  exact ⟨h.toScreened.grow grown,
    ⟨providerName, promptTokens, resolved, counted.grow grown, limits.grow grown⟩,
    grown.subset h.slot⟩

end Growing

theorem enforceRequestLimits_passed {tenant : TenantContext} {providerName model : String}
    {promptTokens : ℕ} {t : List GatewayEvent}
    (run : Runs (enforceRequestLimits tenant providerName model promptTokens) t (.ok ())) :
    LimitsPassed t tenant providerName model promptTokens := by
  obtain ⟨t₁, rpm, t₂, rfl, checked, rest⟩ := runs_bind_ok run
  rw [runs_perform checked]
  split at rest
  · cases (runs_done rest).2
  rename_i rpm_allowed
  obtain ⟨t₃, tpm, t₄, rfl, checked, rest⟩ := runs_bind_ok rest
  rw [runs_perform checked]
  split at rest
  · cases (runs_done rest).2
  rename_i tpm_allowed
  refine ⟨⟨rpm, by simpa using rpm_allowed, by simp⟩, ⟨tpm, by simpa using tpm_allowed, by simp⟩, ?_⟩
  simp only at rest
  split at rest
  · rename_i costs
    obtain ⟨t₅, month, t₆, rfl, clock, rest⟩ := runs_bind_ok rest
    rw [runs_perform clock]
    obtain ⟨t₇, budget, t₈, rfl, checked, rest⟩ := runs_bind_ok rest
    rw [runs_perform checked]
    split at rest
    · cases (runs_done rest).2
    rename_i budget_allowed
    exact .inr ⟨month, budget, by simpa using budget_allowed, by simp, by simp⟩
  · rename_i free
    exact .inl (le_antisymm (not_lt.mp free) (estimatePromptCostUsd_nonneg _ _ _))

theorem sortedSet_ne_nil {items : List String} (h : items ≠ []) : sortedSet items ≠ [] := by
  obtain ⟨item, mem⟩ := List.exists_mem_of_ne_nil items h
  have kept : item ∈ sortedSet items := by
    rw [sortedSet, List.mem_insertionSort, List.mem_dedup]
    exact mem
  exact List.ne_nil_of_mem kept

theorem redact_unchanged {text : String} {t : List GatewayEvent} {result : PiiRedactionResult}
    (run : Runs (redact text) t (.ok result)) (none_found : result.entityTypes = []) :
    result.redactedText = text := by
  rw [redact] at run
  split at run
  · cases (runs_done run).2
    rfl
  obtain ⟨t₁, findings, t₂, rfl, _, rest⟩ := runs_bind_ok run
  split at rest
  · cases (runs_done rest).2
    rfl
  rename_i found
  obtain ⟨t₃, anonymized, t₄, rfl, _, rest⟩ := runs_bind_ok rest
  cases (runs_done rest).2
  exact absurd none_found (sortedSet_ne_nil found)

theorem redactMessage_redacted {message forwarded : ChatMessage} {entityTypes : List String}
    {t : List GatewayEvent} (run : Runs (redactMessage message) t (.ok (forwarded, entityTypes))) :
    Redacted t true message forwarded := by
  obtain ⟨role, content, extra⟩ := message
  cases content with
  | text s =>
    obtain ⟨t₁, result, t₂, rfl, redacted, rest⟩ := runs_bind_ok run
    refine ⟨result, ⟨t₁, (List.prefix_append _ _).isInfix, redacted⟩, ?_⟩
    by_cases found : result.entityTypes ≠ []
    · rw [if_pos found] at rest
      cases (runs_done rest).2
      rfl
    · rw [if_neg found] at rest
      cases (runs_done rest).2
      rw [redact_unchanged redacted (not_not.mp found)]
  | null =>
    cases (runs_done run).2
    rfl
  | parts items =>
    cases (runs_done run).2
    rfl

theorem redactEach_redacted {messages forwarded : List ChatMessage} {entityTypes : List String}
    {t : List GatewayEvent} (run : Runs (redactEach messages) t (.ok (forwarded, entityTypes))) :
    List.Forall₂ (Redacted t true) messages forwarded := by
  induction messages generalizing forwarded entityTypes t with
  | nil =>
    cases (runs_done run).2
    exact .nil
  | cons message rest ih =>
    obtain ⟨t₁, ⟨first, firstTypes⟩, t₂, rfl, one, others⟩ := runs_bind_ok run
    obtain ⟨t₃, ⟨more, moreTypes⟩, t₄, rfl, all, rest⟩ := runs_bind_ok others
    cases (runs_done rest).2
    refine .cons ((redactMessage_redacted one).grow (List.prefix_append _ _).isInfix) ?_
    exact (ih all).imp fun _ _ h => h.grow (List.infix_append' _ _ _)

theorem redacted_disabled (past : List GatewayEvent) (messages : List ChatMessage) :
    List.Forall₂ (Redacted past false) messages messages := by
  refine List.forall₂_same.mpr fun message _ => ?_
  rw [Redacted]
  split <;> simp

theorem redactionStep_redacted {request : ChatRequest} {forwarded : List ChatMessage}
    {t : List GatewayEvent} (run : Runs (redactionStep request) t (.ok forwarded)) :
    List.Forall₂ (Redacted t request.tenant.piiRedactionEnabled) request.body.messages forwarded := by
  rw [redactionStep] at run
  split at run
  · rename_i enabled
    rw [enabled]
    obtain ⟨t₁, ⟨messages, entityTypes⟩, t₂, rfl, redacted, rest⟩ := runs_bind_ok run
    obtain ⟨t₃, ⟨each, types⟩, t₄, rfl, looped, sorted⟩ := runs_bind_ok redacted
    cases (runs_done sorted).2
    have same : forwarded = messages := by
      simp only at rest
      split at rest
      · obtain ⟨_, _, _, _, _, rest⟩ := runs_bind_ok rest
        obtain ⟨_, _, _, _, _, rest⟩ := runs_bind_ok rest
        cases (runs_done rest).2
        rfl
      · cases (runs_done rest).2
        rfl
    subst same
    refine (redactEach_redacted looped).imp fun _ _ h => h.grow ?_
    rw [List.append_assoc]
    exact (List.prefix_append _ _).isInfix
  · rename_i disabled
    cases (runs_done run).2
    rw [Bool.eq_false_iff.mpr disabled]
    exact redacted_disabled t _

theorem detectionStep_scored {lib : Libraries} {request : ChatRequest} {messages : List ChatMessage}
    {t : List GatewayEvent} (run : Runs (detectionStep lib request messages) t (.ok ()))
    (enabled : request.tenant.injectionDetectionEnabled = true)
    (block : request.tenant.injectionDetectionMode = .block) :
    Unflagged t request.tenant messages := by
  rw [detectionStep] at run
  simp only [enabled, if_true] at run
  obtain ⟨t₁, verdict, t₂, rfl, detected, rest⟩ := runs_bind_ok run
  rw [runs_perform detected]
  split at rest
  · obtain ⟨_, _, _, _, _, rest⟩ := runs_bind_ok rest
    obtain ⟨_, _, _, _, _, rest⟩ := runs_bind_ok rest
    cases (runs_done rest).2
  · rename_i passed
    exact ⟨verdict, by simp, Bool.eq_false_iff.mpr passed⟩

theorem runSecurityPipeline_screened {lib : Libraries} {request : ChatRequest}
    {body : ChatCompletionRequest} {t : List GatewayEvent}
    (run : Runs (runSecurityPipeline lib request) t (.ok body)) : Screened request t body := by
  obtain ⟨t₁, messages, t₂, rfl, redacted, rest⟩ := runs_bind_ok run
  obtain ⟨t₃, _, t₄, rfl, detected, rest⟩ := runs_bind_ok rest
  cases (runs_done rest).2
  refine ⟨fun enabled block => ?_, rfl, ?_⟩
  · obtain ⟨verdict, mem, below⟩ := detectionStep_scored detected enabled block
    exact ⟨verdict, by simp [mem], below⟩
  · exact (redactionStep_redacted redacted).imp fun _ _ h => h.grow (List.prefix_append _ _).isInfix

theorem screen_screened {config : GatewayConfig} {request : ChatRequest} {providerName : String}
    {body : ChatCompletionRequest} {t : List GatewayEvent}
    (run : Runs (screen config request providerName) t (.ok body)) : Screened request t body := by
  apply runSecurityPipeline_screened
  apply runs_handle_ok _ run
  intro exc
  cases exc with
  | http e => exact .after fun _ => .after fun _ => .after fun _ => Prog.neverReturns_raise _
  | _ => exact Prog.neverReturns_raise _

section Serving
variable (config : GatewayConfig) (request : ChatRequest)

def NoProviderCall (t : List GatewayEvent) : Prop := ∀ e ∈ t, providerBody e.1 = none

/-- A provider call is the first one, past every gate and with the right body. -/
def permits (past : List GatewayEvent) (op : GatewayOp) : Prop :=
  ∀ body, providerBody op = some body → Gated config request past body ∧ NoProviderCall past

def gateMonitor : Monitor GatewayOp GatewayRet Exn (List GatewayEvent) :=
  historyMonitor (permits config request)

/-- Every kind of call but those to the provider. -/
def freeKinds : List OpKind :=
  [.readResponse, .acquireLock, .releaseLock, .storeResponse, .tokenizer, .limiter, .acquireSlot,
    .releaseSlot, .redactor, .detector, .security, .audit, .usage, .metric, .readCache, .writeCache,
    .begin, .yield, .clock, .dump, .cost]

theorem free_of_kind {op : GatewayOp} (kind : op.kind ∈ freeKinds) : providerBody op = none := by
  cases op with
  | chatCompletion body => exact absurd kind (by simp [GatewayOp.kind, freeKinds])
  | streamChatCompletion body => exact absurd kind (by simp [GatewayOp.kind, freeKinds])
  | _ => rfl

variable {config request} {α : Type} {p : GatewayProg α} {past : List GatewayEvent}

theorem free_permits (past : List GatewayEvent) (op : GatewayOp) (kind : op.kind ∈ freeKinds) :
    permits config request past op := by
  intro body called
  rw [free_of_kind kind] at called
  cases called

theorem free_holds (free : UsesKinds freeKinds p) (clear : NoProviderCall past) :
    Holds (gateMonitor config request) p
      (fun r past' => ∃ new, past' = past ++ new ∧ Runs p new r ∧ NoProviderCall past') past := by
  refine (free.holds_history free_permits past).mono ?_
  rintro r past' ⟨new, rfl, run⟩
  refine ⟨new, rfl, run, ?_⟩
  intro e mem
  rcases List.mem_append.mp mem with mem | mem
  · exact clear e mem
  · exact free_of_kind (free.of_runs run e mem)

theorem free_permitted (free : UsesKinds freeKinds p) (past : List GatewayEvent) :
    Holds (gateMonitor config request) p (fun _ _ => True) past :=
  (free.holds_history free_permits past).mono fun _ _ _ => trivial

variable (config request) in
/-- The tokens that were counted passed the limits of the provider that was found. -/
def Limited (promptTokens : ℕ) (past : List GatewayEvent) : Prop :=
  ∃ providerName, resolve config.providers request.body.model = .ok providerName ∧
    RanIn past (countPromptTokens request.body.messages request.body.model) promptTokens ∧
    LimitsPassed past request.tenant providerName request.body.model promptTokens

variable (config request) in
/-- Past every gate, and before the call to the provider. -/
def Ready (body : ChatCompletionRequest) (past : List GatewayEvent) : Prop :=
  Gated config request past body ∧ NoProviderCall past

variable (config request) in
/-- The gates in the order of the handler, each adding what it has established. -/
def gateStages : Assertions (List GatewayEvent) :=
  { Assertions.until (fun _ => True) fun _ _ => True with
    start := NoProviderCall
    fresh := NoProviderCall
    locked := NoProviderCall
    counted := fun promptTokens past => NoProviderCall past ∧
      RanIn past (countPromptTokens request.body.messages request.body.model) promptTokens
    limited := fun promptTokens past => NoProviderCall past ∧ Limited config request promptTokens past
    admitted := fun promptTokens past =>
      NoProviderCall past ∧ Limited config request promptTokens past ∧
        ⟨.acquireConcurrencySlot request.tenant.tenantId request.tenant.maxConcurrentRequests, .ok true⟩ ∈
          past
    screened := fun body _ => Ready config request body
    looked := fun asked _ => Ready config request asked.body
    missed := fun asked => Ready config request asked.body
    streaming := fun asked => Ready config request asked.body }

theorem Limited.grow {past past' : List GatewayEvent} {promptTokens : ℕ}
    (h : Limited config request promptTokens past) (grown : past <:+: past') :
    Limited config request promptTokens past' := by
  obtain ⟨providerName, resolved, counted, limits⟩ := h
  exact ⟨providerName, resolved, counted.grow grown, limits.grow grown⟩

theorem free_leads {next : Except Exn α → Stage} (free : UsesKinds freeKinds p) (clear : NoProviderCall past)
    (leads : ∀ r new, Runs p new r → NoProviderCall (past ++ new) → past <:+: past ++ new →
      (gateStages config request).Reached (next r) (past ++ new)) :
    Holds (gateMonitor config request) p (fun r => (gateStages config request).Reached (next r)) past := by
  refine (free_holds free clear).mono ?_
  rintro r _ ⟨new, rfl, run, clear'⟩
  exact leads r new run clear' (List.prefix_append _ _).isInfix

theorem called_leads {next : Except Exn α → Stage} (free : UsesKinds freeKinds p)
    (leads : ∀ r past, (gateStages config request).Reached (next r) past) :
    Holds (gateMonitor config request) p (fun r => (gateStages config request).Reached (next r)) past :=
  (free_permitted free past).mono fun r past' _ => leads r past'

theorem called_goes {next : α → Stage} (free : UsesKinds freeKinds p)
    (returned : ∀ a past, (gateStages config request).Reached (next a) past) :
    Holds (gateMonitor config request) p (fun r => (gateStages config request).Reached (onOk next r))
      past := by
  refine called_leads free fun r past => ?_
  cases r with
  | ok a => exact returned a past
  | error e => trivial

theorem asks_provider {op : GatewayOp} {body : ChatCompletionRequest}
    {Q : Except Exn (GatewayRet op) → List GatewayEvent → Prop} (asks : providerBody op = some body)
    (ready : Ready config request body past) (leads : ∀ r past, Q r past) :
    Holds (gateMonitor config request) (call op) Q past := by
  refine ⟨fun body' asks' => ?_, fun r _ => leads r _⟩
  obtain rfl := Option.some.inj (asks.symm.trans asks')
  exact ready

theorem gate_walks (config : GatewayConfig) (request : ChatRequest) :
    Walks (gateMonitor config request) (gateStages config request).Reached config request := by
  intro α stage p next piece past reached
  cases piece with
  | replay =>
    refine free_leads (usesKinds_call rfl) reached fun r new _ clear _ => ?_
    rcases r with e | _ | content
    · trivial
    · exact clear
    · trivial
  | lock =>
    refine free_leads (usesKinds_call rfl) reached fun r new _ clear _ => ?_
    rcases r with e | _ | _
    · trivial
    · trivial
    · exact clear
  | unreplayed | unlocked => exact reached
  | count =>
    refine free_leads ((countPromptTokens_uses _ _).weaken (by decide)) reached
      fun r new run clear _ => ?_
    cases r with
    | error e => trivial
    | ok promptTokens => exact ⟨clear, new, (List.suffix_append _ _).isInfix, run⟩
  | limit providerName promptTokens known =>
    obtain ⟨clear, counted⟩ := reached
    refine free_leads ((enforceRequestLimits_uses _ _ _ _).weaken (by decide)) clear
      fun r new run clear' grown => ?_
    cases r with
    | error e => cases e <;> trivial
    | ok _ =>
      refine ⟨clear', providerName, known, counted.grow grown, ?_⟩
      exact (enforceRequestLimits_passed run).grow (List.suffix_append _ _).isInfix
  | acquire =>
    obtain ⟨clear, limited⟩ := reached
    refine free_leads (usesKinds_call rfl) clear fun r new run clear' grown => ?_
    rcases r with e | _ | _
    · trivial
    · trivial
    · refine ⟨clear', limited.grow grown, ?_⟩
      rw [runs_perform run]
      exact List.mem_append_right _ (.head _)
  | screen =>
    obtain ⟨clear, ⟨providerName, resolved, counted, limits⟩, slot⟩ := reached
    refine free_leads ((runSecurityPipeline_uses _ _).weaken (by decide)) clear
      fun r new run clear' grown => ?_
    cases r with
    | error e => cases e <;> trivial
    | ok body =>
      refine ⟨?_, clear'⟩
      constructor
      · exact (runSecurityPipeline_screened run).grow (List.suffix_append _ _).isInfix
      · exact ⟨providerName, _, resolved, counted.grow grown, limits.grow grown⟩
      · exact grown.subset slot
  | lookUp =>
    obtain ⟨gated, clear⟩ := reached
    refine free_leads ((getCachedCompletion_uses _ _).weaken (by decide)) clear
      fun r new _ clear' grown => ?_
    cases r with
    | error e => trivial
    | ok cached => exact ⟨gated.grow grown, clear'⟩
  | uncached => exact reached
  | noteLookup asked cached =>
    obtain ⟨gated, clear⟩ := reached
    refine free_leads (usesKinds_call rfl) clear fun r new _ clear' grown => ?_
    cases r with
    | error e => trivial
    | ok _ =>
      cases cached with
      | some response => trivial
      | none => exact ⟨gated.grow grown, clear'⟩
  | callProvider =>
    refine asks_provider rfl reached fun r _ => ?_
    rcases r with e | _
    · cases e <;> trivial
    · trivial
  | beginMissed =>
    obtain ⟨gated, clear⟩ := reached
    refine free_leads (usesKinds_call rfl) clear fun r new _ clear' grown => ?_
    cases r with
    | error e => trivial
    | ok _ => exact ⟨gated.grow grown, clear'⟩
  | startUpstream => exact asks_provider rfl reached fun r _ => by cases r <;> trivial
  | unknown =>
    exact called_goes ((releaseLockIfKeyed_uses _).weaken (by decide)) fun _ _ => trivial
  | refuse | block | fail =>
    refine called_leads ((usesKinds_call rfl).bind fun _ => (usesKinds_call rfl).bind fun _ =>
      (releaseLockIfKeyed_uses _).weaken (by decide)) fun r _ => ?_
    cases r <;> trivial
  | billHit | billReplay | bill | billStream =>
    exact called_goes ((recordUsage_uses _ _ _ _ _ _).weaken (by decide)) fun _ _ => trivial
  | complete => exact called_goes ((complete_uses _ _ _).weaken (by decide)) fun _ _ => trivial
  | keep => exact called_goes ((storeIfCaching_uses _ _ _).weaken (by decide)) fun _ _ => trivial
  | send => exact called_goes ((storeAndReleaseIfKeyed_uses _ _).weaken (by decide)) fun _ _ => trivial
  | replayChunks cached => exact called_leads ((replayChunks_uses cached).weaken (by decide)) fun _ _ => trivial
  | countText => exact called_goes ((countText_uses _ _ _).weaken (by decide)) fun _ _ => trivial
  | keepStream => exact called_goes ((cacheStream_uses _ _ _ _ _ _).weaken (by decide)) fun _ _ => trivial
  | failStream => exact called_goes ((failStream_uses _ _ _).weaken (by decide)) fun _ _ => trivial
  | endReplay | endStream =>
    refine called_leads ((releaseLockIfKeyed_uses _).weaken (by decide)) fun r _ => ?_
    cases r <;> trivial
  | unbilledHit | unbilledReplay | unreadable | breakOff | succeed => trivial
  | _ => exact called_leads (usesKinds_call rfl) fun r _ => by cases r <;> trivial

theorem serve_permitted (config : GatewayConfig) (request : ChatRequest) :
    Holds (gateMonitor config request) (serve config request) (fun _ _ => True) [] :=
  serve_walks (gate_walks config request) (List.forall_mem_nil _)

end Serving

/-- The provider is called once and past every gate, unless a tenant that blocks has a threshold
that no score is below. -/
theorem past_every_gate_iff (config : GatewayConfig) (request : ChatRequest)
    (before after : List GatewayEvent) (e : GatewayEvent) (r : Except Exn Answer)
    (body : ChatCompletionRequest) (run : Runs (serve config request) (before ++ e :: after) r)
    (called : providerBody e.1 = some body) :
    PastEveryGate config request before body ∧ NoProviderCall before ∧ NoProviderCall after ↔
      (request.tenant.injectionDetectionEnabled = true →
        request.tenant.injectionDetectionMode = .block →
          request.tenant.injectionDetectionThreshold ≠ .nan) := by
  obtain ⟨gated, first⟩ := (serve_permitted config request).permitted run body called
  constructor
  · rintro ⟨past, -, -⟩ enabled block
    exact (scoredBelow_iff (gated.detector enabled block)).mp (past.below enabled block)
  · intro number
    refine ⟨⟨gated, fun enabled block => ?_⟩, first, ?_⟩
    · exact (scoredBelow_iff (gated.detector enabled block)).mpr (number enabled block)
    intro e' mem
    by_contra again
    obtain ⟨body', called'⟩ := Option.ne_none_iff_exists'.mp again
    obtain ⟨between, rest, rfl⟩ := List.append_of_mem mem
    -- a second call would have the first one in its past
    rw [← List.cons_append, ← List.append_assoc] at run
    have only_first := ((serve_permitted config request).permitted run body' called').2
    rw [only_first e (by simp)] at called
    cases called

/-- A request of a tenant with redaction, and blocking from this score on. -/
def guardedChat (threshold : PyFloat) : ChatRequest :=
  ⟨helloRequest false,
    { helloTenant with
      piiRedactionEnabled := true
      injectionDetectionEnabled := true
      injectionDetectionThreshold := threshold }, none, none⟩

def quietVerdict : InjectionVerdict := ⟨0, false, false⟩

def guardedPast (threshold : PyFloat) : List GatewayEvent :=
  admission (guardedChat threshold) ++ [⟨.analyze "hello", .ok ([] : List String)⟩,
    ⟨.detect "hello", .ok quietVerdict⟩]

theorem guardedChat_screened (config : GatewayConfig) {threshold : PyFloat}
    (passed : threshold.reachedBy quietVerdict.score = false) :
    Runs (screen config (guardedChat threshold) "ollama") [⟨.analyze "hello", .ok ([] : List String)⟩,
      ⟨.detect "hello", .ok quietVerdict⟩] (.ok (helloRequest false)) := by
  refine Runs.handle ?_ _
  refine .call (.call ?_)
  change Runs (Prog.andThen (if threshold.reachedBy quietVerdict.score = true then _ else pure ()) _) _ _
  rw [if_neg (by simp [passed])]
  exact .done _

/-- The provider is called where the score does not reach the threshold. -/
theorem guardedChat_forwarded {threshold : PyFloat} (passed : threshold.reachedBy quietVerdict.score = false) :
    Runs (serve helloConfig (guardedChat threshold))
      (guardedPast threshold ++ ⟨.chatCompletion (helloRequest false), .error .cancelled⟩ ::
        [⟨.releaseConcurrencySlot helloTenantId, .ok ()⟩]) (.error .cancelled) := by
  have called : Runs (answer helloConfig (guardedChat threshold) "ollama" (helloRequest false) 8)
      [⟨.chatCompletion (helloRequest false), .error .cancelled⟩,
        ⟨.releaseConcurrencySlot helloTenantId, .ok ()⟩] (.error .cancelled) := .call (.call (.done _))
  exact (chatCompletions_local (guardedChat threshold) rfl
    ((guardedChat_screened helloConfig passed).bind called)).raised _

theorem past_every_gate_iff_hello :
    PastEveryGate helloConfig (guardedChat (.finite (3 / 4))) (guardedPast (.finite (3 / 4)))
      (helloRequest false) :=
  ((past_every_gate_iff _ _ _ _ _ _ _ (guardedChat_forwarded (by decide +kernel)) rfl).mpr
    (by decide)).1

/-- Whatever a text scores, it is not below `NaN`, and the request is forwarded. -/
theorem nan_threshold_forwards : ¬ ∀ config request before after e r body,
    Runs (serve config request) (before ++ e :: after) r → providerBody e.1 = some body →
    PastEveryGate config request before body ∧ NoProviderCall before ∧ NoProviderCall after := by
  intro gated
  have past := (gated _ _ _ _ _ _ _ (guardedChat_forwarded (rfl : PyFloat.nan.reachedBy _ = false)) rfl).1
  obtain ⟨verdict, -, below⟩ := past.below rfl rfl
  cases below

end AegisGateway.ProviderGates
