import AegisGateway.RequestStages

set_option autoImplicit false

/-!
# Special tokens in ordinary texts

With its default arguments tiktoken's `encode` raises a `ValueError` for a text that holds a
special token of the encoding. The texts it is given are those of the request and of the answer,
so that a request with healthy services can still end with that error. `ends_mapped_iff` says
exactly which texts and answers let it end with a response or an error of its own.
-/
namespace AegisGateway.SpecialTokens
open EffectProgram RequestStages

section Services

/-- The encodings that tiktoken has for models, and the special tokens of each. -/
structure Tiktoken where
  modelEncoding : String → Option String
  specialTokens : String → List String

/-- `_encoding_for`. -/
def Tiktoken.encodingFor (tiktoken : Tiktoken) (model : String) : String :=
  (tiktoken.modelEncoding model).getD fallbackEncoding

/-- The text holds no special token of the encoding. -/
def Tiktoken.plain (tiktoken : Tiktoken) (encoding text : String) : Bool :=
  (tiktoken.specialTokens encoding).all fun token => !decide (token.toList <:+: text.toList)

/-- Tiktoken, the responses that pydantic can dump, and the costs that doubles can hold. -/
structure Packages extends Tiktoken where
  dumpable : ChatCompletionResponse → Bool
  costs : CostFunction

/-- These counts have a cost, and it is not negative. -/
def Packages.costed (packages : Packages) (model : String) (promptTokens completionTokens : ℤ)
    (providerName : String) : Bool :=
  (packages.costs model promptTokens completionTokens providerName).any fun cost => 0 ≤ cost

/-- By how much a metric goes up. -/
def increment : Metric → ℚ
  | .usageCostUsd _ cost => cost
  | .usageTokens _ _ tokens => tokens
  | _ => 1

/-- The packages and the counters as they are, every other service healthy, and a client that may
leave at the start of a stream or at a yield. -/
def serves (packages : Packages) : GatewayEvent → Bool
  | ⟨.encodingForModel model, .ok encoding⟩ => packages.modelEncoding model = some encoding
  | ⟨.encodingForModel model, .error .keyError⟩ => packages.modelEncoding model = none
  | ⟨.getEncoding name, .ok encoding⟩ => encoding = name
  | ⟨.encode encoding text, .ok _⟩ => packages.plain encoding text
  | ⟨.encode encoding text, .error (.other name)⟩ =>
    !packages.plain encoding text && name = "ValueError"
  | ⟨.modelDumpJson response, .ok _⟩ => packages.dumpable response
  | ⟨.modelDumpJson response, .error (.other _)⟩ => !packages.dumpable response
  | ⟨.calculateCostUsd model promptTokens completionTokens providerName, o⟩ =>
    pricedBy packages.costs ⟨.calculateCostUsd model promptTokens completionTokens providerName, o⟩
  | ⟨.metric m, .ok _⟩ => 0 ≤ increment m
  | ⟨.metric m, .error (.other name)⟩ => increment m < 0 && name = "ValueError"
  | ⟨.streamChatCompletion _, .ok stream⟩ => stream.ending.isNone
  | ⟨.beginStream _, .error exc⟩ => !exc.isException
  | ⟨.yieldFrame _, .error exc⟩ => !exc.isException
  | ⟨_, .ok _⟩ => true
  | ⟨_, .error _⟩ => false

end Services

section Texts

def stringTexts : MessageContent → List String
  | .text s => [s]
  | .null | .parts _ => []

def nameTexts : Json → List String
  | .str name => [name]
  | _ => []

/-- The texts of a message that `count_prompt_tokens` encodes. -/
def countedTexts (message : ChatMessage) : List String :=
  message.role :: (stringTexts message.content ++ nameTexts (Json.get message.extra "name"))

/-- The counters go up. -/
def nonnegative (usage : Usage) : Bool := 0 ≤ usage.promptTokens && 0 ≤ usage.completionTokens

/-- The choices of the chunk can be iterated. -/
def readable (chunk : Json) : Bool := (chunkContents chunk).isOk

/-- The parts of the completion that the chunks bring. -/
def contents (chunks : List Json) : List String :=
  chunks.flatMap fun chunk => (chunkContents chunk).toOption.getD []

end Texts

section Events

/-- A stored response, or a lock that is held. -/
def answersEarly : GatewayEvent → Bool
  | ⟨.getCachedResponse _ _, .ok raw⟩ => raw.isSome
  | ⟨.tryAcquireLock _ _, .ok acquired⟩ => !acquired
  | _ => false

/-- The client has gone before the stream started. -/
def unstarts : GatewayEvent → Bool
  | ⟨.beginStream _, .error _⟩ => true
  | _ => false

/-- The client has gone. -/
def leaves : GatewayEvent → Bool
  | ⟨.beginStream _, .error _⟩ => true
  | ⟨.yieldFrame _, .error _⟩ => true
  | _ => false

/-- A chunk is handed to the client. -/
def hands : GatewayOp → Bool
  | .yieldFrame (.chunk _) => true
  | _ => false

def upstreamChunks : GatewayEvent → Option (List Json)
  | ⟨.streamChatCompletion _, .ok stream⟩ => some stream.chunks
  | _ => none

variable (lib : Libraries) (packages : Packages) (model : String)

/-- The tokens of the answer can be counted, and its usage recorded. -/
def bookable (response : ChatCompletionResponse) : Bool :=
  match response.usage with
  | some usage => nonnegative usage
  | none => packages.plain (packages.encodingFor model) (completionText response.choices)

/-- An answer of the provider that is not bookable, an entry of the cache that is no response, a
response that cannot be dumped, or counts without a cost. -/
def breaks : GatewayEvent → Bool
  | ⟨.chatCompletion _, .ok response⟩ => !bookable packages model response
  | ⟨.modelDumpJson response, _⟩ => !packages.dumpable response
  | ⟨.calculateCostUsd model promptTokens completionTokens providerName, _⟩ =>
    !packages.costed model promptTokens completionTokens providerName
  | ⟨.getCachedCompletion _, .ok raw⟩ => raw.any fun text => (lib.modelValidateJson text).isNone
  | _ => false

/-- An entry of the cache with a negative usage. -/
def owes : GatewayEvent → Bool
  | ⟨.getCachedCompletion _, .ok raw⟩ => raw.any fun text => (lib.modelValidateJson text).any
      fun response => response.usage.any fun usage => !nonnegative usage
  | _ => false

end Events

/-- What a request has met with. -/
structure Seen where
  early : Bool
  broken : Bool
  owing : Bool
  unstarted : Bool
  left : Bool
  upstreams : List (List Json)
  handed : ℕ

section Watching
variable (lib : Libraries) (packages : Packages) (model : String)

def Seen.empty : Seen := ⟨false, false, false, false, false, [], 0⟩

def Seen.add (g : Seen) (e : GatewayEvent) : Seen where
  early := answersEarly e || g.early
  broken := breaks lib packages model e || g.broken
  owing := owes lib e || g.owing
  unstarted := unstarts e || g.unstarted
  left := leaves e || g.left
  upstreams := match upstreamChunks e with
    | some chunks => g.upstreams ++ [chunks]
    | none => g.upstreams
  handed := g.handed + (hands e.1).toNat

def seen (t : List GatewayEvent) : Seen where
  early := t.any answersEarly
  broken := t.any (breaks lib packages model)
  owing := t.any (owes lib)
  unstarted := t.any unstarts
  left := t.any leaves
  upstreams := t.filterMap upstreamChunks
  handed := t.countP fun e => hands e.1

def textMonitor : Monitor GatewayOp GatewayRet Exn Seen where
  permits _ _ := True
  answers _ op o := serves packages ⟨op, o⟩ = true
  advance g op o := g.add lib packages model ⟨op, o⟩

theorem textMonitor_after (t : List GatewayEvent) :
    (textMonitor lib packages model).after .empty t = seen lib packages model t := by
  induction t using List.reverseRecOn with
  | nil => rfl
  | append_singleton t e ih =>
    rw [Monitor.after_concat, ih]
    cases chunks_eq : upstreamChunks e <;> cases hands_eq : hands e.1 <;>
      simp [textMonitor, Seen.add, seen, List.filterMap_append, chunks_eq, hands_eq, Bool.or_comm]

end Watching

section Rules
variable (config : GatewayConfig) (packages : Packages) (request : ChatRequest) {α β : Type}

abbrev TextHolds (p : GatewayProg α) (Q : Except Exn α → Seen → Prop) (g : Seen) : Prop :=
  Holds (textMonitor config.lib packages request.body.model) p Q g

/-- The program meets with nothing. It returns if the condition holds, and raises a `ValueError`
if not. -/
abbrev Counts (P : Prop) (p : GatewayProg α) : Prop :=
  ReturnsIff (textMonitor config.lib packages request.body.model) valueError P p

abbrev Returns (p : GatewayProg α) : Prop := Counts config packages request True p

variable {config packages request}

/-- The calls that always return, and are not watched. -/
def returningKinds : List OpKind :=
  [.releaseLock, .storeResponse, .limiter, .acquireSlot, .releaseSlot, .redactor, .detector, .security,
    .audit, .usage, .writeCache, .clock]

theorem returns_call {op : GatewayOp} (kind : returningKinds.contains op.kind = true) :
    Returns config packages request (call op) := by
  intro g
  refine ⟨trivial, fun o well => ?_⟩
  cases op <;> first
    | (cases o with
        | error e => cases well
        | ok a => exact ⟨rfl, .inl ⟨trivial, a, rfl⟩⟩)
    | cases kind

theorem metric_counts (m : Metric) :
    Counts config packages request (0 ≤ increment m) (call (.metric m)) := by
  intro g
  refine ⟨trivial, fun o well => ?_⟩
  cases o with
  | ok u =>
    have up : 0 ≤ increment m := of_decide_eq_true well
    exact ⟨rfl, .inl ⟨up, u, rfl⟩⟩
  | error e =>
    cases e with
    | other name =>
      obtain ⟨down, rfl⟩ : increment m < 0 ∧ name = "ValueError" := by
        simpa [textMonitor, serves] using well
      exact ⟨rfl, .inr ⟨not_le_of_gt down, rfl⟩⟩
    | _ => cases well

theorem encode_counts (encoding text : String) :
    Counts config packages request (packages.plain encoding text = true)
      (call (.encode encoding text)) := by
  intro g
  refine ⟨trivial, fun o well => ?_⟩
  cases o with
  | ok n => exact ⟨rfl, .inl ⟨well, n, rfl⟩⟩
  | error e =>
    cases e with
    | other name =>
      obtain ⟨held, rfl⟩ : packages.plain encoding text = false ∧ name = "ValueError" := by
        simpa [textMonitor, serves] using well
      exact ⟨rfl, .inr ⟨by rw [held]; exact Bool.false_ne_true, rfl⟩⟩
    | _ => cases well

theorem encodingFor_keeps (model : String) (g : Seen) :
    TextHolds config packages request (encodingFor model)
      (fun r g' => g' = g ∧ r = .ok (packages.encodingFor model)) g := by
  rw [TextHolds, encodingFor, holds_handle, Tiktoken.encodingFor]
  refine ⟨trivial, fun o well => ?_⟩
  cases o with
  | ok encoding =>
    have known : packages.modelEncoding model = some encoding := of_decide_eq_true well
    rw [known]
    exact ⟨rfl, rfl⟩
  | error e =>
    cases e with
    | keyError =>
      have unknown : packages.modelEncoding model = none := of_decide_eq_true well
      refine ⟨trivial, fun o well => ?_⟩
      cases o with
      | ok encoding =>
        have named : encoding = fallbackEncoding := of_decide_eq_true well
        rw [unknown, named]
        exact ⟨rfl, rfl⟩
      | error e => cases well
    | _ => cases well

theorem gone_of_yield {frame : Frame} {exc : Exn}
    (well : serves packages ⟨.yieldFrame frame, .error exc⟩ = true) : exc.isException = false := by
  simpa [serves] using well

theorem gone_of_begin {source : StreamSource} {exc : Exn}
    (well : serves packages ⟨.beginStream source, .error exc⟩ = true) : exc.isException = false := by
  simpa [serves] using well

end Rules

section Steps
variable {config : GatewayConfig} {packages : Packages} {request : ChatRequest}

theorem contentTokens_counts (encoding : String) (content : MessageContent) :
    Counts config packages request (∀ text ∈ stringTexts content, packages.plain encoding text = true)
      (contentTokens encoding content) := by
  cases content with
  | text s => exact (encode_counts encoding s).congr (by simp [stringTexts])
  | null => exact (returnsIff_pure 0).congr (by simp [stringTexts])
  | parts items => exact (returnsIff_pure 0).congr (by simp [stringTexts])

theorem nameTokens_counts (encoding : String) (message : ChatMessage) :
    Counts config packages request
      (∀ text ∈ nameTexts (Json.get message.extra "name"), packages.plain encoding text = true)
      (nameTokens encoding message) := by
  rw [nameTokens]
  generalize Json.get message.extra "name" = value
  cases value with
  | str name =>
    refine ((encode_counts encoding name).bind fun tokens => returnsIff_pure _).congr ?_
    simp [nameTexts]
  | _ => exact (returnsIff_pure 0).congr (by simp [nameTexts])

theorem countMessages_counts (encoding : String) (messages : List ChatMessage) (numTokens : ℕ) :
    Counts config packages request
      (∀ message ∈ messages, ∀ text ∈ countedTexts message, packages.plain encoding text = true)
      (countMessages encoding messages numTokens) := by
  induction messages generalizing numTokens with
  | nil => exact (returnsIff_pure numTokens).congr (by simp)
  | cons message rest ih =>
    refine ReturnsIff.congr ((encode_counts encoding message.role).bind fun role =>
      (contentTokens_counts encoding message.content).bind fun content =>
        (nameTokens_counts encoding message).bind fun name => ih _) ?_
    simp only [countedTexts, List.forall_mem_cons, List.forall_mem_append, and_assoc]

theorem countPromptTokens_counts (messages : List ChatMessage) (model : String) :
    Counts config packages request
      (∀ message ∈ messages, ∀ text ∈ countedTexts message,
        packages.plain (packages.encodingFor model) text = true)
      (countPromptTokens messages model) := by
  intro g
  apply Holds.bind
  refine (encodingFor_keeps model g).mono ?_
  rintro _ _ ⟨rfl, rfl⟩
  exact ((countMessages_counts _ messages 0).bind fun n => returnsIff_pure _).congr (by simp) _

theorem countTextTokens_counts (text model : String) :
    Counts config packages request (packages.plain (packages.encodingFor model) text = true)
      (countTextTokens text model) := by
  intro g
  apply Holds.bind
  refine (encodingFor_keeps model g).mono ?_
  rintro _ _ ⟨rfl, rfl⟩
  exact encode_counts _ text _

theorem writeAuditEvent_returns (tenantId : Option Uuid) (eventType : String)
    (correlationId : Option String) (detail : JsonObject) :
    Returns config packages request
      (writeAuditEvent auditSession tenantId eventType correlationId detail) :=
  (returns_call rfl).before fun _ => returns_call rfl

theorem count_returns {m : Metric} (one : increment m = 1) :
    Returns config packages request (call (.metric m)) :=
  (metric_counts m).congr (by simp [one])

theorem releaseLock_returns : Returns config packages request (releaseLockIfKeyed request) := by
  rw [releaseLockIfKeyed]
  split
  · exact returns_call rfl
  · exact returnsIff_pure ()

theorem storeAndRelease_returns (responseJson : String) :
    Returns config packages request (storeAndReleaseIfKeyed request responseJson) := by
  rw [storeAndReleaseIfKeyed]
  split
  · exact (returns_call rfl).before fun _ => returns_call rfl
  · exact returnsIff_pure ()

theorem redactMessage_returns (message : ChatMessage) :
    Returns config packages request (redactMessage message) := by
  have redacts (text : String) : Returns config packages request (redact text) := by
    rw [redact]
    split
    · exact returnsIff_pure _
    · refine (returns_call rfl).before fun findings => ?_
      split
      · exact returnsIff_pure _
      · exact (returns_call rfl).before fun _ => returnsIff_pure _
  rw [redactMessage]
  split
  · refine (redacts _).before fun result => ?_
    split <;> exact returnsIff_pure _
  · exact returnsIff_pure _
  · exact returnsIff_pure _

theorem redactEach_returns (messages : List ChatMessage) :
    Returns config packages request (redactEach messages) := by
  induction messages with
  | nil => exact returnsIff_pure _
  | cons message rest ih =>
    exact (redactMessage_returns message).before fun redacted => ih.before fun _ => returnsIff_pure _

theorem redactionStep_returns : Returns config packages request (redactionStep request) := by
  rw [redactionStep]
  split
  · refine ReturnsIff.before ((redactEach_returns _).before fun _ => returnsIff_pure _) ?_
    rintro ⟨messages, entityTypes⟩
    simp only
    split
    · refine (count_returns rfl).before fun _ => ?_
      exact (writeAuditEvent_returns _ _ _ _).before fun _ => returnsIff_pure _
    · exact returnsIff_pure _
  · exact returnsIff_pure _

/-- The usage is recorded, or its counts have no cost or are negative. -/
def Recorded (promptTokens completionTokens : ℤ) (g : Seen) (r : Except Exn Unit) (g' : Seen) : Prop :=
  ((∃ u, r = .ok u) ∧ g' = g ∧ 0 ≤ promptTokens ∧ 0 ≤ completionTokens) ∨
    (∃ name, r = .error (.other name)) ∧
      (g'.broken = true ∨ g' = g ∧ ¬ (0 ≤ promptTokens ∧ 0 ≤ completionTokens))

theorem metrics_count (providerName : String) {cost : ℚ} (promptTokens completionTokens : ℤ) :
    Counts config packages request (0 ≤ cost ∧ 0 ≤ promptTokens ∧ 0 ≤ completionTokens) (do
      call (.metric (.usageCostUsd providerName cost))
      call (.metric (.usageTokens providerName "prompt" promptTokens))
      call (.metric (.usageTokens providerName "completion" completionTokens))) := by
  refine ReturnsIff.congr ((metric_counts _).bind fun _ => (metric_counts _).bind fun _ => metric_counts _)
    ?_
  simp only [increment, Int.cast_nonneg_iff]

theorem recordUsage_keeps (providerName model : String) (promptTokens completionTokens : ℤ)
    (cacheHit : Bool) (g : Seen) :
    TextHolds config packages request
      (recordUsage request providerName model promptTokens completionTokens cacheHit)
      (Recorded promptTokens completionTokens g) g := by
  refine (returns_call rfl).followed fun _ => ⟨trivial, fun o well => ?_⟩
  cases costed : packages.costed model promptTokens completionTokens providerName with
  | true =>
    have same : g.add config.lib packages request.body.model
        ⟨.calculateCostUsd model promptTokens completionTokens providerName, o⟩ = g := by
      simp [Seen.add, breaks, costed, answersEarly, owes, unstarts, leaves, upstreamChunks, hands]
    obtain ⟨cost, known, least⟩ := (Option.any_eq_true _ _).mp costed
    cases o with
    | error e =>
      cases e with
      | other name =>
        have raises : packages.costs model promptTokens completionTokens providerName = none := by
          simpa [textMonitor, serves, pricedBy] using well
        rw [known] at raises
        cases raises
      | _ => cases well
    | ok cost' =>
      have isCost : packages.costs model promptTokens completionTokens providerName = some cost' := by
        simpa [textMonitor, serves, pricedBy] using well
      obtain rfl : cost = cost' := Option.some.inj (known.symm.trans isCost)
      change TextHolds config packages request (_ >>= _) _ (g.add _ _ _ _)
      rw [same]
      refine (returns_call rfl).followed fun _ => (count_returns rfl).followed fun _ => ?_
      refine (metrics_count providerName promptTokens completionTokens g).mono ?_
      rintro r _ ⟨rfl, ⟨⟨_, counts⟩, a, rfl⟩ | ⟨negative, rfl⟩⟩
      · exact .inl ⟨⟨a, rfl⟩, rfl, counts⟩
      · exact .inr ⟨⟨_, rfl⟩, .inr ⟨rfl, fun counts => negative ⟨of_decide_eq_true least, counts⟩⟩⟩
  | false =>
    have broken : (g.add config.lib packages request.body.model
        ⟨.calculateCostUsd model promptTokens completionTokens providerName, o⟩).broken = true := by
      simp [Seen.add, breaks, costed]
    cases o with
    | error e =>
      cases e with
      | other name => exact .inr ⟨⟨name, rfl⟩, .inl broken⟩
      | _ => cases well
    | ok cost =>
      have known : packages.costs model promptTokens completionTokens providerName = some cost := by
        simpa [textMonitor, serves, pricedBy] using well
      have negative : ¬ 0 ≤ cost := by
        intro least
        simp [Packages.costed, known, least] at costed
      change TextHolds config packages request (_ >>= _) _ (g.add _ _ _ _)
      refine (returns_call rfl).followed fun _ => (count_returns rfl).followed fun _ => ?_
      refine (metrics_count providerName promptTokens completionTokens _).mono ?_
      rintro r _ ⟨rfl, ⟨⟨least, _⟩, a, rfl⟩ | ⟨_, rfl⟩⟩
      · exact (negative least).elim
      · exact .inr ⟨⟨_, rfl⟩, .inl broken⟩

theorem modelDumpJson_keeps (response : ChatCompletionResponse) (g : Seen) :
    TextHolds config packages request (call (.modelDumpJson response))
      (fun r g' => ((∃ text, r = .ok text) ∧ g' = g) ∨
        (∃ name, r = .error (.other name)) ∧ g'.broken = true) g := by
  refine ⟨trivial, fun o well => ?_⟩
  cases o with
  | ok text =>
    have dumped : packages.dumpable response = true := well
    refine .inl ⟨⟨text, rfl⟩, ?_⟩
    simp [textMonitor, Seen.add, breaks, dumped, answersEarly, owes, unstarts, leaves, upstreamChunks,
      hands]
  | error e =>
    cases e with
    | other name =>
      have undumped : packages.dumpable response = false := by simpa [textMonitor, serves] using well
      refine .inr ⟨⟨name, rfl⟩, ?_⟩
      simp [textMonitor, Seen.add, breaks, undumped]
    | _ => cases well

end Steps

section Ends
variable (packages : Packages) (request : ChatRequest) {α : Type}

/-- An unknown model, a likely injection, a key in use, and the limits. -/
def ownStatuses : List ℤ := [400, 403, 409, 429]

/-- A response, an error that the handler maps itself, or a client that has gone. -/
def Responds (left : Bool) : Except Exn α → Prop
  | .ok _ => True
  | .error (.http exc) => exc.statusCode ∈ ownStatuses
  | .error exc => exc.isException = false ∧ left = true

/-- Nothing that was met with ends the request with an unhandled exception. -/
structure Seen.Clear (g : Seen) : Prop where
  whole : g.broken = false
  paid : g.owing = true → g.unstarted = true
  streamed : ∀ chunks ∈ g.upstreams,
    packages.plain (packages.encodingFor request.body.model)
        (String.join (contents (chunks.take g.handed))) = true ∧
      (g.left = true ∨ ∀ chunk ∈ chunks, readable chunk = true)

def RespondsWhenClear (r : Except Exn α) (g : Seen) : Prop := Responds g.left r ↔ g.Clear packages request

variable {packages request} {g : Seen}

theorem mapped_status {left : Bool} {exc : HttpException} (statusCode : ℤ)
    (own : statusCode ∈ ownStatuses) (status : exc.statusCode = statusCode) :
    Responds left (.error (.http exc) : Except Exn α) := by
  rw [← status] at own
  exact own

theorem mapped_gone {exc : Exn} (gone : exc.isException = false) :
    Responds true (.error exc : Except Exn α) := by
  cases exc with
  | http e => cases gone
  | _ => exact ⟨gone, rfl⟩

theorem responds_error {β : Type} {exc : Exn} :
    RespondsWhenClear packages request (.error exc : Except Exn α) g ↔
      RespondsWhenClear packages request (.error exc : Except Exn β) g := by
  cases exc <;> exact Iff.rfl

theorem not_mapped_other {left : Bool} {name : String} :
    ¬ Responds left (.error (.other name) : Except Exn α) := by
  rintro ⟨gone, _⟩
  cases gone

theorem clear_unmet {left : Bool} {handed : ℕ} :
    ({ Seen.empty with left := left, handed := handed } : Seen).Clear packages request where
  whole := rfl
  paid owed := absurd owed Bool.false_ne_true
  streamed := List.forall_mem_nil _

theorem clear_owing_iff {owing left : Bool} {handed : ℕ} :
    ({ Seen.empty with owing := owing, left := left, handed := handed } : Seen).Clear packages request ↔
      owing = false := by
  constructor
  · intro clear
    cases owing with
    | true => exact (clear.paid rfl).symm
    | false => rfl
  · rintro rfl
    exact clear_unmet

theorem clear_broken_iff {broken : Bool} :
    ({ Seen.empty with broken := broken } : Seen).Clear packages request ↔ broken = false := by
  constructor
  · exact fun clear => clear.whole
  · rintro rfl
    exact clear_unmet

end Ends

section Refusals
variable {config : GatewayConfig} {packages : Packages} {request : ChatRequest} {providerName : String}
  {promptTokens : ℕ}

/-- The program returns, or it ends with an error of this status. -/
def Passes {α : Type} (statusCode : ℤ) (r : Except Exn α) : Prop :=
  (∃ a, r = .ok a) ∨ ∃ exc, r = .error (.http exc) ∧ exc.statusCode = statusCode

theorem enforceRequestLimits_keeps (tenant : TenantContext) (model : String) (g : Seen) :
    TextHolds config packages request (enforceRequestLimits tenant providerName model promptTokens)
      (fun r g' => g' = g ∧ ((∃ u, r = .ok u) ∨ ∃ exc, r = .error (.rateLimit exc))) g := by
  refine (returns_call rfl).followed fun rpm => ?_
  split
  · exact ⟨rfl, .inr ⟨_, rfl⟩⟩
  · refine (returns_call rfl).followed fun tpm => ?_
    split
    · exact ⟨rfl, .inr ⟨_, rfl⟩⟩
    · simp only
      split
      · refine (returns_call rfl).followed fun month => (returns_call rfl).followed fun budget => ?_
        split
        · exact ⟨rfl, .inr ⟨_, rfl⟩⟩
        · exact ⟨rfl, .inl ⟨_, rfl⟩⟩
      · exact ⟨rfl, .inl ⟨_, rfl⟩⟩

theorem detectionStep_keeps (messages : List ChatMessage) (g : Seen) :
    TextHolds config packages request (detectionStep config.lib request messages)
      (fun r g' => g' = g ∧ Passes 403 r) g := by
  rw [detectionStep]
  split
  · refine (returns_call rfl).followed fun verdict => ?_
    split
    · refine (count_returns rfl).followed fun _ => (writeAuditEvent_returns _ _ _ _).followed fun _ => ?_
      split
      · exact ⟨rfl, .inr ⟨injectionBlocked, rfl, rfl⟩⟩
      · exact ⟨rfl, .inl ⟨_, rfl⟩⟩
    · exact ⟨rfl, .inl ⟨_, rfl⟩⟩
  · exact ⟨rfl, .inl ⟨_, rfl⟩⟩

/-- The body goes on with other messages, or the request is blocked. -/
def Screened (request : ChatRequest) (r : Except Exn ChatCompletionRequest) : Prop :=
  (∃ messages, r = .ok { request.body with messages := messages }) ∨
    ∃ exc, r = .error (.http exc) ∧ exc.statusCode = 403

theorem runSecurityPipeline_keeps (g : Seen) :
    TextHolds config packages request (runSecurityPipeline config.lib request)
      (fun r g' => g' = g ∧ Screened request r) g := by
  refine redactionStep_returns.followed fun messages => ?_
  apply Holds.bind
  refine (detectionStep_keeps messages g).mono ?_
  rintro r _ ⟨rfl, ⟨u, rfl⟩ | refused⟩
  · exact ⟨rfl, .inl ⟨messages, rfl⟩⟩
  · obtain ⟨exc, rfl, status⟩ := refused
    exact ⟨rfl, .inr ⟨exc, rfl, status⟩⟩

end Refusals

section Upstream

/-- Whether the usage of a cached response is negative. -/
def negative (cached : ChatCompletionResponse) : Bool := cached.usage.any fun usage => !nonnegative usage

theorem contents_append (chunks chunks' : List Json) :
    contents (chunks ++ chunks') = contents chunks ++ contents chunks' := List.flatMap_append

theorem contents_single {chunk : Json} {parts : List String} (read : chunkContents chunk = .ok parts) :
    contents [chunk] = parts := by
  simp [contents, read, Except.toOption]

theorem chunkContents_raises {chunk : Json} {exc : Exn} (raised : chunkContents chunk = .error exc) :
    ∃ name, exc = .other name := by
  cases chunk with
  | obj members =>
    simp only [chunkContents] at raised
    split at raised
    · split at raised
      · cases raised
      · cases raised
      · cases raised
      · cases raised
        exact ⟨_, rfl⟩
    · cases raised
  | _ =>
    cases raised
    exact ⟨_, rfl⟩

/-- The upstream's chunks are known, and so many of them have been handed over. -/
def reading (chunks : List Json) (left : Bool) (handed : ℕ) : Seen :=
  { Seen.empty with upstreams := [chunks], left := left, handed := handed }

/-- How reading the chunks can end: all of them are read, the client has gone, or one of them is
not readable. -/
def ReadingEnds (chunks : List Json) (left : Bool) : Except Exn Unit → Prop
  | .ok _ => ∀ chunk ∈ chunks, readable chunk = true
  | .error exc => exc.isException = false ∧ left = true ∨
    (∃ name, exc = .other name) ∧ left = false ∧ ¬ ∀ chunk ∈ chunks, readable chunk = true

/-- The parts are those of the chunks that were handed over. -/
def ReadUpstream (parts : List String) (outcome : Except Exn Unit) (g : Seen) : Prop :=
  ∃ chunks left handed, g = reading chunks left handed ∧ parts = contents (chunks.take handed) ∧
    ReadingEnds chunks left outcome

theorem ReadUpstream.not_provider {parts : List String} {exc : ProviderError} {g : Seen}
    (read : ReadUpstream parts (.error (.provider exc)) g) : False := by
  obtain ⟨chunks, left, handed, rfl, rfl, ⟨gone, _⟩ | ⟨⟨name, other⟩, _⟩⟩ := read
  · cases gone
  · cases other

variable {packages : Packages} {request : ChatRequest}

theorem reading_clear_iff {chunks : List Json} {left : Bool} {handed : ℕ} :
    (reading chunks left handed).Clear packages request ↔
      packages.plain (packages.encodingFor request.body.model)
          (String.join (contents (chunks.take handed))) = true ∧
        (left = true ∨ ∀ chunk ∈ chunks, readable chunk = true) := by
  constructor
  · exact fun isClear => isClear.streamed chunks (.head _)
  · intro streamed
    refine ⟨rfl, fun owed => absurd owed Bool.false_ne_true, ?_⟩
    exact List.forall_mem_singleton.mpr streamed

theorem ReadUpstream.responds {parts : List String} {outcome : Except Exn Unit} {g : Seen}
    (read : ReadUpstream parts outcome g)
    (encoded : packages.plain (packages.encodingFor request.body.model) (String.join parts) = true) :
    RespondsWhenClear packages request outcome g := by
  obtain ⟨chunks, left, handed, rfl, rfl, ended⟩ := read
  rw [RespondsWhenClear, reading_clear_iff]
  cases outcome with
  | ok u => exact iff_of_true trivial ⟨encoded, .inr ended⟩
  | error exc =>
    rcases ended with ⟨gone, rfl⟩ | ⟨⟨name, rfl⟩, rfl, unreadable⟩
    · exact iff_of_true (mapped_gone gone) ⟨encoded, .inl rfl⟩
    · refine iff_of_false not_mapped_other ?_
      rintro ⟨_, left | all⟩
      · cases left
      · exact unreadable all

theorem ReadUpstream.unclear {parts : List String} {outcome : Except Exn Unit} {g : Seen}
    (read : ReadUpstream parts outcome g)
    (held : ¬ packages.plain (packages.encodingFor request.body.model) (String.join parts) = true) :
    ¬ g.Clear packages request := by
  obtain ⟨chunks, left, handed, rfl, rfl, _⟩ := read
  exact fun isClear => held (reading_clear_iff.mp isClear).1

end Upstream

section Requests
variable (config : GatewayConfig) (packages : Packages) (request : ChatRequest)

/-- The texts that count for the limits hold no special token. -/
def PromptPlain : Prop :=
  ∀ message ∈ request.body.messages, ∀ text ∈ countedTexts message,
    packages.plain (packages.encodingFor request.body.model) text = true

/-- The request ends as it should exactly if nothing was in the way. The prompt is counted unless
the request is answered early or has no provider. -/
def Ended {α : Type} (r : Except Exn α) (g : Seen) : Prop :=
  Responds g.left r ↔
    (g.early = false → (∃ name, resolve config.providers request.body.model = .ok name) →
      PromptPlain packages request) ∧ g.Clear packages request

/-- What has been met with at each stage. -/
def endStages : Assertions Seen :=
  let plain (P : Prop) : Prop := PromptPlain packages request ∧ P
  let same (asked : Asked) : Prop := asked.body.model = request.body.model
  { Assertions.until (fun g => plain (g = .empty)) (Ended config packages request) with
    start := (· = .empty)
    fresh := (· = .empty)
    locked := (· = .empty)
    refused := fun exc g => plain (exc.statusCode = 429 ∧ g = .empty)
    blocked := fun exc g => plain (exc.statusCode = 403 ∧ g = .empty)
    screened := fun body _ g => plain (body.model = request.body.model ∧ g = .empty)
    looked := fun asked cached g =>
      plain (same asked ∧ g = { Seen.empty with owing := cached.any negative })
    hit := fun _ cached g => plain (g = { Seen.empty with owing := negative cached })
    freedHit := fun _ cached g => plain (g = { Seen.empty with owing := negative cached })
    missed := fun asked g => plain (same asked ∧ g = .empty)
    answered := fun asked received g => plain (same asked ∧
      g = { Seen.empty with broken := !bookable packages request.body.model received })
    failed := fun _ _ => False
    raised := fun _ _ => False
    received := fun asked received g => plain (same asked ∧
      g = { Seen.empty with broken := !bookable packages request.body.model received })
    completed := fun _ _ usage g => plain (g = { Seen.empty with broken := !nonnegative usage })
    kept := fun _ _ usage g => plain (g = { Seen.empty with broken := !nonnegative usage })
    billed := fun _ _ g => plain (g.Clear packages request)
    dumped := fun _ _ g => plain (g.Clear packages request)
    replaying := fun cached g => plain (g = { Seen.empty with owing := negative cached })
    replayed := fun cached outcome g => plain (∃ left handed, Responds left outcome ∧
      g = { Seen.empty with owing := negative cached, left := left, handed := handed })
    replayBilled := fun outcome g => plain (Responds g.left outcome ∧ g.Clear packages request)
    streaming := fun asked g => plain (same asked ∧ g = .empty)
    reading := fun asked sent rest ending parts g => plain (same asked ∧ ending = none ∧
      (∀ chunk ∈ sent, readable chunk = true) ∧ parts = contents sent ∧
        g = reading (sent ++ rest) false sent.length)
    read := fun asked parts outcome g => plain (same asked ∧ ReadUpstream parts outcome g)
    settled := fun asked parts succeeded outcome g =>
      plain (same asked ∧ succeeded = true ∧ ReadUpstream parts outcome g)
    texted := fun _ _ _ outcome g => plain (RespondsWhenClear packages request outcome g)
    streamBilled := fun _ _ _ outcome g => plain (RespondsWhenClear packages request outcome g)
    streamBooked := fun outcome g => plain (RespondsWhenClear packages request outcome g)
    streamFreed := fun outcome g => plain (RespondsWhenClear packages request outcome g) }

variable {config packages request} {α : Type} {p : GatewayProg α} {g : Seen}

theorem ended_responds {r : Except Exn α} (settled : RespondsWhenClear packages request r g)
    (plain : PromptPlain packages request) : Ended config packages request r g := by
  constructor
  · exact fun mapped => ⟨fun _ _ => plain, settled.mp mapped⟩
  · exact fun both => settled.mpr both.2

theorem ended_clear {r : Except Exn α} (mapped : Responds g.left r)
    (uncounted : g.early = false → (∃ name, resolve config.providers request.body.model = .ok name) →
      PromptPlain packages request) (clear : g.Clear packages request) :
    Ended config packages request r g := iff_of_true mapped ⟨uncounted, clear⟩

theorem ended_other {name : String} (unclear : ¬ g.Clear packages request) :
    Ended config packages request (.error (.other name) : Except Exn α) g :=
  iff_of_false not_mapped_other fun both => unclear both.2

theorem ended_broken {name : String} (broken : g.broken = true) :
    Ended config packages request (.error (.other name) : Except Exn α) g :=
  ended_other fun isClear => Bool.false_ne_true (isClear.whole.symm.trans broken)

theorem ended_early {r : Except Exn α} (mapped : Responds false r) :
    Ended config packages request r { Seen.empty with early := true } := by
  refine ended_clear mapped (fun uncounted => ?_) ⟨rfl, fun owed => ?_, List.forall_mem_nil _⟩
  · cases uncounted
  · cases owed

theorem mapped_streamEnd {left : Bool} {r : Except Exn Unit} (mapped : Responds left r) :
    Responds left (streamEnd r) := by
  cases r with
  | ok u => trivial
  | error e => cases e <;> exact mapped

theorem responds_streamEnd {r : Except Exn Unit} (settled : RespondsWhenClear packages request r g) :
    RespondsWhenClear packages request (streamEnd r) g := by
  cases r with
  | ok u => exact settled
  | error e => exact responds_error.mp settled

theorem returns_goes {next : α → Stage} (returns : Returns config packages request p)
    (returned : ∀ a, (endStages config packages request).Reached (next a) g) :
    TextHolds config packages request p
      (fun r => (endStages config packages request).Reached (onOk next r)) g := by
  refine (returns g).mono ?_
  rintro r _ ⟨rfl, ⟨_, a, rfl⟩ | ⟨fails, _⟩⟩
  · exact returned a
  · exact (fails trivial).elim

theorem counts_goes {P : Prop} {next : α → Stage} (counts : Counts config packages request P p)
    (returned : P → ∀ a, (endStages config packages request).Reached (next a) g)
    (raised : ¬ P → Ended config packages request (.error valueError : Except Exn Answer) g) :
    TextHolds config packages request p
      (fun r => (endStages config packages request).Reached (onOk next r)) g := by
  refine (counts g).mono ?_
  rintro r _ ⟨rfl, ⟨holds, a, rfl⟩ | ⟨fails, rfl⟩⟩
  · exact returned holds a
  · exact raised fails

theorem records_goes {next : Unit → Stage} (providerName model : String) (p c : ℤ) (cacheHit : Bool)
    (returned : 0 ≤ p ∧ 0 ≤ c → (endStages config packages request).Reached (next ()) g)
    (unclear : ¬ (0 ≤ p ∧ 0 ≤ c) → ¬ g.Clear packages request) :
    TextHolds config packages request (recordUsage request providerName model p c cacheHit)
      (fun r => (endStages config packages request).Reached (onOk next r)) g := by
  refine (recordUsage_keeps providerName model p c cacheHit g).mono ?_
  rintro r g' (⟨⟨u, rfl⟩, rfl, counts⟩ | ⟨⟨name, rfl⟩, broken | ⟨rfl, negative⟩⟩)
  · exact returned counts
  · exact ended_broken broken
  · exact ended_other (unclear negative)

theorem getCachedCompletion_keeps (key : String) :
    TextHolds config packages request (getCachedCompletion config.lib key)
      (fun r g => (∃ cached, r = .ok cached ∧ g = { Seen.empty with owing := cached.any negative }) ∨
        (∃ name, r = .error (.other name)) ∧ g.broken = true) .empty := by
  refine ⟨trivial, fun o well => ?_⟩
  cases o with
  | error e => cases well
  | ok raw =>
    cases raw with
    | none => exact .inl ⟨none, rfl, rfl⟩
    | some text =>
      simp only [Prog.andThen, Prog.onValue]
      cases parsed : config.lib.modelValidateJson text with
      | none =>
        refine .inr ⟨⟨_, rfl⟩, ?_⟩
        simp [textMonitor, Seen.add, breaks, parsed]
      | some cached =>
        refine .inl ⟨some cached, rfl, ?_⟩
        simp [textMonitor, Seen.add, Seen.empty, answersEarly, breaks, owes, unstarts, leaves,
          upstreamChunks, hands, negative, parsed]

theorem replayChunks_keeps (chunk : Json) (owing : Bool) :
    TextHolds config packages request (do
        call (.yieldFrame (.chunk chunk))
        call (.yieldFrame .finished))
      (fun r g => ∃ left handed, Responds left r ∧
        g = { Seen.empty with owing := owing, left := left, handed := handed })
      { Seen.empty with owing := owing } := by
  refine ⟨trivial, fun o well => ?_⟩
  cases o with
  | error e =>
    have gone : e.isException = false := gone_of_yield well
    exact ⟨true, 1, mapped_gone gone, rfl⟩
  | ok u =>
    refine ⟨trivial, fun o well => ?_⟩
    cases o with
    | error e =>
      have gone : e.isException = false := gone_of_yield well
      exact ⟨true, 1, mapped_gone gone, rfl⟩
    | ok u => exact ⟨false, 1, trivial, rfl⟩

/-- What is met with when a response is dumped: nothing, or that it cannot be. -/
def Dumped (g : Seen) (r : Except Exn α) (g' : Seen) : Prop :=
  ((∃ a, r = .ok a) ∧ g' = g) ∨ (∃ name, r = .error (.other name)) ∧ g'.broken = true

theorem dumps_goes {next : α → Stage} (dumped : TextHolds config packages request p (Dumped g) g)
    (returned : ∀ a, (endStages config packages request).Reached (next a) g) :
    TextHolds config packages request p
      (fun r => (endStages config packages request).Reached (onOk next r)) g := by
  refine dumped.mono ?_
  rintro r g' (⟨⟨a, rfl⟩, rfl⟩ | ⟨⟨name, rfl⟩, broken⟩)
  · exact returned a
  · exact ended_broken broken

theorem returns_dumped (returns : Returns config packages request p) (g : Seen) :
    TextHolds config packages request p (Dumped g) g := by
  refine (returns g).mono ?_
  rintro r _ ⟨rfl, ⟨_, a, rfl⟩ | ⟨fails, _⟩⟩
  · exact .inl ⟨⟨a, rfl⟩, rfl⟩
  · exact (fails trivial).elim

theorem storeCachedCompletion_keeps (key : String) (response : ChatCompletionResponse) (g : Seen) :
    TextHolds config packages request (storeCachedCompletion config key response) (Dumped g) g := by
  apply Holds.bind
  refine (modelDumpJson_keeps response g).mono ?_
  rintro r g' (⟨⟨text, rfl⟩, rfl⟩ | ⟨⟨name, rfl⟩, broken⟩)
  · exact returns_dumped (returns_call rfl) _
  · exact .inr ⟨⟨name, rfl⟩, broken⟩

theorem storeIfCaching_keeps (cacheKey : Option String) (response : ChatCompletionResponse) (g : Seen) :
    TextHolds config packages request (storeIfCaching config cacheKey response) (Dumped g) g := by
  cases cacheKey with
  | some key => exact storeCachedCompletion_keeps key response g
  | none => exact returns_dumped (returnsIff_pure ()) g

theorem cacheStream_keeps (body : ChatCompletionRequest) (cacheKey : Option String) (text : String)
    (p c : ℕ) (g : Seen) :
    TextHolds config packages request (cacheStream config body cacheKey text p c) (Dumped g) g := by
  cases cacheKey with
  | none => exact returns_dumped (returnsIff_pure ()) g
  | some key =>
    rw [cacheStream.eq_def]
    simp only
    split
    · exact (returns_call rfl).followed fun hex => (returns_call rfl).followed fun created =>
        storeCachedCompletion_keeps _ _ _
    · exact returns_dumped (returnsIff_pure ()) g

theorem withUsage_counts {body : ChatCompletionRequest} {promptTokens : ℕ}
    (same : body.model = request.body.model) (received : ChatCompletionResponse) (g : Seen) :
    TextHolds config packages request (withUsage body promptTokens received)
      (fun r g' => g' = g ∧
        ((∃ response usage, r = .ok (response, usage) ∧
            nonnegative usage = bookable packages request.body.model received) ∨
          r = .error valueError ∧ bookable packages request.body.model received = false)) g := by
  rw [withUsage]
  cases used : received.usage with
  | some usage => exact ⟨rfl, .inl ⟨received, usage, rfl, by rw [bookable, used]⟩⟩
  | none =>
    have encodes : bookable packages request.body.model received =
        packages.plain (packages.encodingFor body.model) (completionText received.choices) := by
      rw [bookable, used, same]
    refine (countTextTokens_counts _ _).step (fun held => ?_) fun plain completionTokens => ?_
    · exact ⟨rfl, .inr ⟨rfl, encodes.trans (Bool.eq_false_iff.mpr held)⟩⟩
    · refine ⟨rfl, .inl ⟨_, _, rfl, ?_⟩⟩
      rw [encodes, plain]
      simp [nonnegative]

theorem negative_clear_iff {cached : ChatCompletionResponse} {usage : Usage} {left : Bool} {handed : ℕ}
    (used : cached.usage = some usage) :
    ({ Seen.empty with owing := negative cached, left := left, handed := handed } : Seen).Clear packages
      request ↔ 0 ≤ usage.promptTokens ∧ 0 ≤ usage.completionTokens := by
  rw [clear_owing_iff]
  simp [negative, used, nonnegative]

theorem end_walks (config : GatewayConfig) (packages : Packages) (request : ChatRequest) :
    Walks (textMonitor config.lib packages request.body.model)
      (endStages config packages request).Reached config request := by
  intro α stage p next piece g reached
  cases piece with
  | replay =>
    obtain rfl : g = .empty := reached
    refine ⟨trivial, fun o well => ?_⟩
    cases o with
    | error e => cases well
    | ok cached =>
      cases cached with
      | none => exact rfl
      | some content => exact ended_early trivial
  | lock =>
    obtain rfl : g = .empty := reached
    refine ⟨trivial, fun o well => ?_⟩
    cases o with
    | error e => cases well
    | ok acquired =>
      cases acquired with
      | true => exact rfl
      | false => exact ended_early (mapped_status 409 (by decide) rfl)
  | unknown unknown =>
    obtain rfl : g = .empty := reached
    refine returns_goes releaseLock_returns fun _ => ?_
    refine ended_clear (mapped_status 400 (by decide) rfl) ?_ clear_unmet
    rintro _ ⟨name, known⟩
    rw [unknown] at known
    cases known
  | count known =>
    obtain rfl : g = .empty := reached
    refine counts_goes (countPromptTokens_counts _ _) (fun plain _ => ⟨plain, rfl⟩) fun held => ?_
    exact iff_of_false not_mapped_other fun both => held (both.1 rfl ⟨_, known⟩)
  | limit =>
    refine (enforceRequestLimits_keeps _ _ g).mono ?_
    rintro r _ ⟨rfl, ⟨u, rfl⟩ | ⟨exc, rfl⟩⟩
    · exact reached
    · exact ⟨reached.1, rfl, reached.2⟩
  | acquire =>
    refine returns_goes (returns_call rfl) fun acquired => ?_
    cases acquired with
    | true => exact reached
    | false => exact ⟨reached.1, rfl, reached.2⟩
  | refuse providerName reason exc =>
    obtain ⟨plain, status, rfl⟩ := reached
    refine returns_goes ?_ fun _ => ?_
    · exact (count_returns rfl).before fun _ => (count_returns rfl).before fun _ => releaseLock_returns
    · exact ended_clear (mapped_status 429 (by decide) status) (fun _ _ => plain) clear_unmet
  | screen =>
    refine (runSecurityPipeline_keeps g).mono ?_
    rintro r _ ⟨rfl, ⟨messages, rfl⟩ | ⟨exc, rfl, status⟩⟩
    · exact ⟨reached.1, rfl, reached.2⟩
    · exact ⟨reached.1, status, reached.2⟩
  | block providerName exc =>
    obtain ⟨plain, status, rfl⟩ := reached
    refine returns_goes ?_ fun _ => ?_
    · exact (count_returns rfl).before fun _ => (returns_call rfl).before fun _ => releaseLock_returns
    · exact ended_clear (mapped_status 403 (by decide) status) (fun _ _ => plain) clear_unmet
  | lookUp body promptTokens =>
    obtain ⟨plain, same, rfl⟩ := reached
    refine (getCachedCompletion_keeps _).mono ?_
    rintro _ g (⟨cached, rfl, rfl⟩ | ⟨⟨name, rfl⟩, broken⟩)
    · exact ⟨plain, same, rfl⟩
    · exact ended_broken broken
  | uncached => exact reached
  | noteLookup asked cached =>
    obtain ⟨plain, same, rfl⟩ := reached
    refine returns_goes (count_returns rfl) fun _ => ?_
    cases cached with
    | some response => exact ⟨plain, rfl⟩
    | none => exact ⟨plain, same, rfl⟩
  | freeHit => exact returns_goes (returns_call rfl) fun _ => reached
  | billHit providerName body cached usage _ used =>
    obtain ⟨plain, rfl⟩ := reached
    exact records_goes _ _ _ _ _ (fun paid => ⟨plain, (negative_clear_iff used).mpr paid⟩)
      fun owed clear => owed ((negative_clear_iff used).mp clear)
  | unbilledHit body cached _ unused =>
    obtain ⟨plain, rfl⟩ := reached
    exact ⟨plain, clear_owing_iff.mpr (by rw [negative, unused]; rfl)⟩
  | beginHit body cached =>
    obtain ⟨plain, rfl⟩ := reached
    refine ⟨trivial, fun o well => ?_⟩
    cases o with
    | error e =>
      have gone : e.isException = false := gone_of_begin well
      exact ended_clear (mapped_gone gone) (fun _ _ => plain) ⟨rfl, fun _ => rfl, List.forall_mem_nil _⟩
    | ok u => exact ⟨plain, rfl⟩
  | replayChunks cached =>
    obtain ⟨plain, rfl⟩ := reached
    exact (replayChunks_keeps _ _).mono fun r g now => ⟨plain, now⟩
  | billReplay providerName cached outcome usage used =>
    obtain ⟨plain, left, handed, mapped, rfl⟩ := reached
    exact records_goes _ _ _ _ _ (fun paid => ⟨plain, mapped, (negative_clear_iff used).mpr paid⟩)
      fun owed clear => owed ((negative_clear_iff used).mp clear)
  | unbilledReplay cached outcome unused =>
    obtain ⟨plain, left, handed, mapped, rfl⟩ := reached
    exact ⟨plain, mapped, clear_owing_iff.mpr (by rw [negative, unused]; rfl)⟩
  | endReplay outcome =>
    obtain ⟨plain, mapped, clear⟩ := reached
    refine (releaseLock_returns g).mono ?_
    rintro r _ ⟨rfl, ⟨_, u, rfl⟩ | ⟨fails, _⟩⟩
    · refine ended_clear ?_ (fun _ _ => plain) clear
      cases outcome with
      | ok u => trivial
      | error e => exact mapped_streamEnd mapped
    · exact (fails trivial).elim
  | callProvider asked =>
    obtain ⟨plain, same, rfl⟩ := reached
    refine ⟨trivial, fun o well => ?_⟩
    cases o with
    | error e => cases well
    | ok received =>
      refine ⟨plain, same, ?_⟩
      change Seen.mk false (!bookable packages request.body.model received || false) _ _ _ _ _ = _
      rw [Bool.or_false]
      rfl
  | fail | freeRaised => exact reached.elim
  | freeAnswered => exact returns_goes (returns_call rfl) fun _ => reached
  | complete providerName asked received =>
    obtain ⟨plain, same, rfl⟩ := reached
    refine (count_returns rfl).followed fun _ => (withUsage_counts same received _).mono ?_
    rintro r _ ⟨rfl, ⟨response, usage, rfl, counts⟩ | ⟨rfl, unbookable⟩⟩
    · refine ⟨plain, ?_⟩
      rw [counts]
    · exact ended_broken (by rw [unbookable]; rfl)
  | keep asked response usage =>
    exact dumps_goes (storeIfCaching_keeps _ _ _) fun _ => reached
  | bill providerName asked response usage =>
    obtain ⟨plain, rfl⟩ := reached
    have counts : ({ Seen.empty with broken := !nonnegative usage } : Seen).Clear packages request ↔
        0 ≤ usage.promptTokens ∧ 0 ≤ usage.completionTokens := by
      rw [clear_broken_iff]
      simp [nonnegative]
    exact records_goes _ _ _ _ _ (fun paid => ⟨plain, counts.mpr paid⟩) fun owed clear =>
      owed (counts.mp clear)
  | dump response => exact dumps_goes (modelDumpJson_keeps response g) fun _ => reached
  | send text =>
    refine returns_goes (storeAndRelease_returns text) fun _ => ?_
    exact ended_clear trivial (fun _ _ => reached.1) reached.2
  | beginMissed asked =>
    obtain ⟨plain, same, rfl⟩ := reached
    refine ⟨trivial, fun o well => ?_⟩
    cases o with
    | error e =>
      have gone : e.isException = false := gone_of_begin well
      exact ended_clear (mapped_gone gone) (fun _ _ => plain) ⟨rfl, fun _ => rfl, List.forall_mem_nil _⟩
    | ok u => exact ⟨plain, same, rfl⟩
  | startUpstream asked =>
    obtain ⟨plain, same, rfl⟩ := reached
    refine ⟨trivial, fun o well => ?_⟩
    cases o with
    | error e => cases well
    | ok stream =>
      have complete : stream.ending = none := by simpa [textMonitor, serves] using well
      exact ⟨plain, same, complete, List.forall_mem_nil _, rfl, rfl⟩
  | yieldChunk asked sent chunk rest ending parts contents isContents =>
    obtain ⟨plain, same, complete, read, rfl, rfl⟩ := reached
    have now : SpecialTokens.contents (sent ++ [chunk]) = SpecialTokens.contents sent ++ contents := by
      rw [contents_append, contents_single isContents]
    refine ⟨trivial, fun o well => ?_⟩
    cases o with
    | error e =>
      have gone : e.isException = false := gone_of_yield well
      refine ⟨plain, same, sent ++ chunk :: rest, true, sent.length + 1, rfl, ?_, .inl ⟨gone, rfl⟩⟩
      have after : (sent ++ chunk :: rest).take (sent.length + 1) = sent ++ [chunk] := by
        rw [List.take_append, List.take_of_length_le (Nat.le_succ _), Nat.add_sub_cancel_left]
        rfl
      rw [after, now]
    | ok u =>
      have further : ∀ c ∈ sent ++ [chunk], readable c = true := by
        intro c mem
        rcases List.mem_append.mp mem with mem | mem
        · exact read c mem
        · rw [List.mem_singleton.mp mem, readable, isContents]
          rfl
      refine ⟨plain, same, complete, further, now.symm, ?_⟩
      rw [List.append_assoc, List.singleton_append, List.length_append]
      rfl
  | unreadable asked sent chunk rest ending parts exc raised =>
    obtain ⟨plain, same, complete, read, rfl, rfl⟩ := reached
    have unreadable : ¬ ∀ c ∈ sent ++ chunk :: rest, readable c = true := by
      intro all
      have isOk := all chunk (List.mem_append_right _ (.head _))
      rw [readable, raised] at isOk
      cases isOk
    refine ⟨plain, same, sent ++ chunk :: rest, false, sent.length, rfl, ?_,
      .inr ⟨chunkContents_raises raised, rfl, unreadable⟩⟩
    rw [List.take_left]
  | breakOff =>
    obtain ⟨plain, same, complete, _⟩ := reached
    cases complete
  | finish asked sent parts =>
    obtain ⟨plain, same, complete, read, rfl, rfl⟩ := reached
    have all : contents ((sent ++ []).take sent.length) = contents sent := by rw [List.take_left]
    refine ⟨trivial, fun o well => ?_⟩
    cases o with
    | ok u =>
      refine ⟨plain, same, sent ++ [], false, sent.length, rfl, all.symm, ?_⟩
      rw [List.append_nil]
      exact read
    | error e =>
      have gone : e.isException = false := gone_of_yield well
      exact ⟨plain, same, sent ++ [], true, sent.length, rfl, all.symm, .inl ⟨gone, rfl⟩⟩
  | report asked parts exc => exact reached.2.2.not_provider.elim
  | succeed asked parts outcome => exact ⟨reached.1, reached.2.1, rfl, reached.2.2⟩
  | countText providerName asked parts pendingResult =>
    obtain ⟨plain, same, _, read⟩ := reached
    refine counts_goes ((count_returns rfl).before fun _ => countTextTokens_counts _ _) ?_ ?_
    · intro encoded _
      rw [same] at encoded
      exact ⟨plain, read.responds encoded⟩
    · intro held
      rw [same] at held
      exact ended_other (read.unclear held)
  | billStream providerName asked parts completionTokens =>
    refine records_goes _ _ _ _ _ (fun _ => reached) fun negative => ?_
    exact (negative ⟨Int.natCast_nonneg _, Int.natCast_nonneg _⟩).elim
  | keepStream => exact dumps_goes (cacheStream_keeps _ _ _ _ _ _) fun _ => reached
  | failStream =>
    obtain ⟨_, _, failed, _⟩ := reached
    cases failed
  | freeStream => exact returns_goes (returns_call rfl) fun _ => reached
  | endStream =>
    refine returns_goes releaseLock_returns fun _ => ?_
    exact ended_responds (responds_streamEnd reached.2) reached.1
  | unreplayed | unlocked => exact reached

end Requests

section Runs
variable (config : GatewayConfig) (packages : Packages) (request : ChatRequest)

/-- The texts, the counts and the chunks that the request and the services' answers bring: no text
that is encoded holds a special token, no usage that is recorded is negative or without a cost, every
response can be dumped, an entry of the cache is a response, and the chunks that the client stays for
can be read. -/
structure Ordinary (t : List GatewayEvent) : Prop where
  prompt : (∀ e ∈ t, answersEarly e = false) →
    (∃ name, resolve config.providers request.body.model = .ok name) → PromptPlain packages request
  answer : ∀ body response, (⟨.chatCompletion body, .ok response⟩ : GatewayEvent) ∈ t →
    bookable packages request.body.model response = true
  entry : ∀ key text, (⟨.getCachedCompletion key, .ok (some text)⟩ : GatewayEvent) ∈ t →
    ∃ cached, config.lib.modelValidateJson text = some cached ∧
      (negative cached = true → ∃ e ∈ t, unstarts e = true)
  dumped : ∀ response o, (⟨.modelDumpJson response, o⟩ : GatewayEvent) ∈ t →
    packages.dumpable response = true
  costed : ∀ model promptTokens completionTokens providerName o,
    (⟨.calculateCostUsd model promptTokens completionTokens providerName, o⟩ : GatewayEvent) ∈ t →
      packages.costed model promptTokens completionTokens providerName = true
  stream : ∀ body stream, (⟨.streamChatCompletion body, .ok stream⟩ : GatewayEvent) ∈ t →
    packages.plain (packages.encodingFor request.body.model)
        (String.join (contents (stream.chunks.take (t.countP fun e => hands e.1)))) = true ∧
      ((∃ e ∈ t, leaves e = true) ∨ ∀ chunk ∈ stream.chunks, readable chunk = true)

variable {config packages request} {t : List GatewayEvent}

theorem Ordinary.unbroken (ordinary : Ordinary config packages request t) {e : GatewayEvent}
    (mem : e ∈ t) : breaks config.lib packages request.body.model e = false := by
  obtain ⟨op, o⟩ := e
  cases op with
  | chatCompletion body =>
    cases o with
    | error e => rfl
    | ok response =>
      change (!bookable packages request.body.model response) = false
      rw [ordinary.answer body response mem]
      rfl
  | getCachedCompletion key =>
    cases o with
    | error e => rfl
    | ok raw =>
      cases raw with
      | none => rfl
      | some text =>
        obtain ⟨cached, parsed, _⟩ := ordinary.entry key text mem
        change (config.lib.modelValidateJson text).isNone = false
        rw [parsed]
        rfl
  | modelDumpJson response =>
    rw [breaks.eq_def]
    simp only [ordinary.dumped response o mem, Bool.not_true]
  | calculateCostUsd model promptTokens completionTokens providerName =>
    rw [breaks.eq_def]
    simp only [ordinary.costed model promptTokens completionTokens providerName o mem, Bool.not_true]
  | _ => cases o <;> rfl

theorem owes_entry {e : GatewayEvent} (owing : owes config.lib e = true) :
    ∃ key text cached, e = ⟨.getCachedCompletion key, .ok (some text)⟩ ∧
      config.lib.modelValidateJson text = some cached ∧ negative cached = true := by
  obtain ⟨op, o⟩ := e
  cases op with
  | getCachedCompletion key =>
    cases o with
    | error e => cases owing
    | ok raw =>
      cases raw with
      | none => cases owing
      | some text =>
        obtain ⟨cached, parsed, owed⟩ := (Option.any_eq_true _ _).mp owing
        exact ⟨key, text, cached, rfl, parsed, owed⟩
  | _ => cases o <;> cases owing

theorem upstreamChunks_stream {e : GatewayEvent} {chunks : List Json}
    (isChunks : upstreamChunks e = some chunks) :
    ∃ body stream, e = ⟨.streamChatCompletion body, .ok stream⟩ ∧ stream.chunks = chunks := by
  obtain ⟨op, o⟩ := e
  cases op with
  | streamChatCompletion body =>
    cases o with
    | error e => cases isChunks
    | ok stream => exact ⟨body, stream, rfl, Option.some.inj isChunks⟩
  | _ => cases o <;> cases isChunks

theorem Ordinary.clear (ordinary : Ordinary config packages request t) :
    (seen config.lib packages request.body.model t).Clear packages request where
  whole := by
    refine List.any_eq_false.mpr fun e mem => ?_
    rw [ordinary.unbroken mem]
    exact Bool.false_ne_true
  paid owing := by
    obtain ⟨e, mem, owed⟩ := List.any_eq_true.mp owing
    obtain ⟨key, text, cached, rfl, parsed, isNegative⟩ := owes_entry owed
    obtain ⟨cached', parsed', unstarted⟩ := ordinary.entry key text mem
    rw [parsed] at parsed'
    cases parsed'
    exact List.any_eq_true.mpr (unstarted isNegative)
  streamed chunks mem := by
    obtain ⟨e, inRun, isChunks⟩ := List.mem_filterMap.mp mem
    obtain ⟨body, stream, rfl, rfl⟩ := upstreamChunks_stream isChunks
    obtain ⟨plain, staying⟩ := ordinary.stream body stream inRun
    exact ⟨plain, staying.imp_left List.any_eq_true.mpr⟩

theorem ordinary_of_clear
    (prompt : (∀ e ∈ t, answersEarly e = false) →
      (∃ name, resolve config.providers request.body.model = .ok name) → PromptPlain packages request)
    (clear : (seen config.lib packages request.body.model t).Clear packages request) :
    Ordinary config packages request t where
  prompt := prompt
  answer body response mem := by
    have unbroken := List.any_eq_false.mp clear.whole _ mem
    exact Bool.not_eq_false _ |>.mp fun unbookable => unbroken (by rw [breaks, unbookable]; rfl)
  entry key text mem := by
    have unbroken := List.any_eq_false.mp clear.whole _ mem
    cases parsed : config.lib.modelValidateJson text with
    | none =>
      refine (unbroken ?_).elim
      change (config.lib.modelValidateJson text).isNone = true
      rw [parsed]
      rfl
    | some cached =>
      refine ⟨cached, rfl, fun isNegative => List.any_eq_true.mp (clear.paid ?_)⟩
      refine List.any_eq_true.mpr ⟨_, mem, ?_⟩
      change (config.lib.modelValidateJson text).any negative = true
      rw [parsed]
      exact isNegative
  dumped response o mem := by
    have unbroken := List.any_eq_false.mp clear.whole _ mem
    refine Bool.not_eq_false _ |>.mp fun undumped => unbroken ?_
    rw [breaks.eq_def]
    simp only [undumped, Bool.not_false]
  costed model promptTokens completionTokens providerName o mem := by
    have unbroken := List.any_eq_false.mp clear.whole _ mem
    refine Bool.not_eq_false _ |>.mp fun uncosted => unbroken ?_
    rw [breaks.eq_def]
    simp only [uncosted, Bool.not_false]
  stream body stream mem := by
    obtain ⟨plain, staying⟩ := clear.streamed stream.chunks (List.mem_filterMap.mpr ⟨_, mem, rfl⟩)
    exact ⟨plain, staying.imp_left List.any_eq_true.mp⟩

/-- With healthy services, and whenever the client goes, a request ends with a response or with an
error of its own exactly if what it brings and meets with is ordinary. -/
theorem ends_mapped_iff (config : GatewayConfig) (packages : Packages) (request : ChatRequest)
    (t : List GatewayEvent) (r : Except Exn Answer) (run : Runs (serve config request) t r)
    (well : ∀ e ∈ t, serves packages e = true) :
    Responds (t.any leaves) r ↔ Ordinary config packages request t := by
  have ended := (serve_walks (end_walks config packages request) rfl).sound run (.of_each (fun e mem _ => well e mem) _)
  rw [textMonitor_after] at ended
  have early : (seen config.lib packages request.body.model t).early = false ↔
      ∀ e ∈ t, answersEarly e = false := by
    simp [seen]
  constructor
  · intro mapped
    obtain ⟨prompt, clear⟩ := ended.mp mapped
    exact ordinary_of_clear (fun uncounted => prompt (early.mpr uncounted)) clear
  · intro ordinary
    exact ended.mpr ⟨fun uncounted => ordinary.prompt (early.mp uncounted), ordinary.clear⟩

end Runs

/-- The encoding that local models fall back to, plain responses, and exact costs. -/
def cl100k : Packages where
  modelEncoding _ := none
  dumpable _ := true
  costs := exactCosts
  specialTokens _ :=
    ["<|endoftext|>", "<|fim_prefix|>", "<|fim_middle|>", "<|fim_suffix|>", "<|endofprompt|>"]

theorem ends_mapped_iff_hello :
    Responds (List.any (servedTrace (helloChat false none)) leaves)
        (.ok (.json helloDump [("X-Cache", "miss")]) : Except Exn Answer) ∧
      Ordinary helloConfig cl100k (helloChat false none) (servedTrace (helloChat false none)) := by
  have run := serve_local (helloChat false none) rfl rfl
  have well : ∀ e ∈ servedTrace (helloChat false none), serves cl100k e = true := by decide +kernel
  exact ⟨trivial, (ends_mapped_iff _ _ _ _ _ run well).mp trivial⟩

/-- A user who asks about a special token. -/
def tokenChat : ChatRequest :=
  ⟨⟨"llama3", [⟨"user", .text "What is <|endoftext|>?", []⟩], false, []⟩, helloTenant, none, none⟩

def tokenTrace : List GatewayEvent :=
  [⟨.encodingForModel "llama3", .error .keyError⟩, ⟨.getEncoding fallbackEncoding, .ok "cl100k_base"⟩,
    ⟨.encode "cl100k_base" "user", .ok (1 : ℕ)⟩,
    ⟨.encode "cl100k_base" "What is <|endoftext|>?", .error valueError⟩]

theorem tokenChat_raises : Runs (serve helloConfig tokenChat) tokenTrace (.error valueError) := by
  have resolved : resolve helloConfig.providers tokenChat.body.model = .ok "ollama" := by
    change resolve ["ollama"] "llama3" = _
    decide
  have counted : Runs (countPromptTokens tokenChat.body.messages tokenChat.body.model) tokenTrace
      (.error valueError) := .call (.call (.call (.call (.done _))))
  have processed : Runs (process helloConfig tokenChat) tokenTrace (.error valueError) := by
    rw [process, resolved]
    exact counted.raised _
  exact Runs.raised processed _

/-- The text of a stream that the client reads to its end. -/
def tokenChunk : Json :=
  .obj [("choices", .arr [.obj [("delta", .obj [("content", .str "<|endoftext|>")])]])]

def tokenStream : List GatewayEvent :=
  [⟨.beginStream .provider, .ok ()⟩,
    ⟨.streamChatCompletion (helloRequest true), .ok ⟨[tokenChunk], none⟩⟩,
    ⟨.yieldFrame (.chunk tokenChunk), .ok ()⟩, ⟨.yieldFrame .finished, .ok ()⟩,
    ⟨.metric (.providerCallDuration "ollama" .success), .ok ()⟩,
    ⟨.encodingForModel "llama3", .error .keyError⟩, ⟨.getEncoding fallbackEncoding, .ok "cl100k_base"⟩,
    ⟨.encode "cl100k_base" "<|endoftext|>", .error valueError⟩]

theorem tokenStream_raises :
    Runs (serve helloConfig (helloChat true none))
      (opening (helloChat true none) ++ (admission (helloChat true none) ++ []) ++ tokenStream)
      (.error valueError) := by
  have answered : Runs (do
      let body ← screen helloConfig (helloChat true none) "ollama"
      answer helloConfig (helloChat true none) "ollama" body 8) [] (.ok (.stream .provider
        (streamChatCompletion helloConfig (helloChat true none) "ollama" (helloRequest true) 8 none))) :=
    .done _
  have delivered : Runs (deliver (.stream .provider
      (streamChatCompletion helloConfig (helloChat true none) "ollama" (helloRequest true) 8 none)))
      tokenStream (.error valueError) :=
    .call (.call (.call (.call (.call (.call (.call (.call (.done _))))))))
  exact (chatCompletions_local (helloChat true none) rfl answered).bind delivered

/-- A special token in the prompt, and one in the streamed answer. -/
theorem special_token_raises :
    Runs (serve helloConfig tokenChat) tokenTrace (.error valueError) ∧
      (∀ e ∈ tokenTrace, serves cl100k e = true) ∧
      ¬ Responds (tokenTrace.any leaves) (.error valueError : Except Exn Answer) ∧
      ∃ t, Runs (serve helloConfig (helloChat true none)) t (.error valueError) ∧
        (∀ e ∈ t, serves cl100k e = true) ∧
        ¬ Responds (t.any leaves) (.error valueError : Except Exn Answer) := by
  refine ⟨tokenChat_raises, by decide +kernel, not_mapped_other, _, tokenStream_raises, ?_,
    not_mapped_other⟩
  decide +kernel

end AegisGateway.SpecialTokens
