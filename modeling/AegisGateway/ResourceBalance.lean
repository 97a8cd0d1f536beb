import AegisGateway.RequestStages

set_option autoImplicit false

/-!
# The slot and the lock of a request

What a request takes and gives back, for every outcome of its calls. A custody
follows the calls, and each piece of the handler is described by how it changes the custody.
-/
namespace AegisGateway.ResourceBalance
open EffectProgram RequestStages

section Events
variable (lib : Libraries) (request : ChatRequest)

def takesSlot : GatewayEvent → Bool
  | ⟨.acquireConcurrencySlot tenantId _, .ok acquired⟩ => acquired && tenantId = request.tenant.tenantId
  | _ => false

def releasesSlot : GatewayEvent → Bool
  | ⟨.releaseConcurrencySlot tenantId, .ok _⟩ => tenantId = request.tenant.tenantId
  | _ => false

def takesLock : GatewayEvent → Bool
  | ⟨.tryAcquireLock tenantId key, .ok acquired⟩ =>
    acquired && tenantId = request.tenant.tenantId && some key = request.key
  | _ => false

def releasesLock : GatewayEvent → Bool
  | ⟨.releaseLock tenantId key, .ok _⟩ => tenantId = request.tenant.tenantId && some key = request.key
  | _ => false

/-- Some clause of the code around the call catches this exception and cleans up. -/
def guarded : GatewayOp → Exn → Bool
  | .encodingForModel _, .keyError => true
  | .checkTokenBucket _ _ _ _, .rateLimit _ | .utcMonth, .rateLimit _
  | .checkAndReserveBudget _ _ _, .rateLimit _ => true
  | .analyze _, .http _ | .anonymize _ _, .http _ | .detect _, .http _
  | .setRlsContext none _, .http _ | .commitAuditLog _, .http _ | .metric .piiRedactions, .http _
  | .metric (.injectionDetections _), .http _ => true
  | .chatCompletion _, .provider _ => true
  | .streamChatCompletion _, _ | .yieldFrame _, _ => true
  | _, _ => false

/-- The answer is a cache entry that does not parse. -/
def unparsed : GatewayEvent → Bool
  | ⟨.getCachedCompletion _, .ok raw⟩ => raw.any fun text => (lib.modelValidateJson text).isNone
  | _ => false

/-- The call fails and nothing catches it. -/
def escapes (e : GatewayEvent) : Bool :=
  match e.2 with
  | .error exc => !guarded e.1 exc
  | .ok _ => unparsed lib e

/-- The calls between the slot and the provider call. -/
def holdsSlot : GatewayOp → Bool
  | .analyze _ | .anonymize _ _ | .detect _ | .setRlsContext none _ | .commitAuditLog _
  | .metric .piiRedactions | .metric (.injectionDetections _) | .metric (.chatCompletions _ .blocked)
  | .getCachedCompletion _ | .metric (.cacheLookups _) | .beginStream .provider => true
  | _ => false

def releases : GatewayOp → Bool
  | .releaseConcurrencySlot _ | .releaseLock _ _ => true
  | _ => false

/-- The commands that give a slot or a lock back succeed. -/
def ReleasesSucceed (t : List GatewayEvent) : Prop :=
  ∀ e ∈ t, releases e.1 = true → e.2.isOk = true

/-- What was taken was given back exactly once, and nothing else was. -/
structure Balanced (t : List GatewayEvent) : Prop where
  slot : t.countP (releasesSlot request) = if t.any (takesSlot request) then 1 else 0
  lock : t.countP (releasesLock request) = if t.any (takesLock request) then 1 else 0

/-- No failure escaped while something was held: none at all for the lock; for the slot
none before the provider call, and none at all if the provider streamed. -/
structure NothingEscaped (t : List GatewayEvent) : Prop where
  slot : t.any (takesSlot request) = true →
    t.any (fun e => escapes lib e && holdsSlot e.1) = false ∧
      (t.any (fun e => answersStream e.1) = true → t.any (escapes lib) = false)
  lock : t.any (takesLock request) = true → t.any (escapes lib) = false

end Events

/-- What the calls so far have taken and given back, and which of them escaped. -/
@[ext] structure Custody where
  lockTaken : Bool
  lockReleases : ℕ
  slotTaken : Bool
  slotReleases : ℕ
  escaped : Bool
  escapedHolding : Bool
  streamed : Bool

section Custodies
variable (lib : Libraries) (request : ChatRequest)

def Custody.add (g : Custody) (e : GatewayEvent) : Custody where
  lockTaken := takesLock request e || g.lockTaken
  lockReleases := g.lockReleases + (releasesLock request e).toNat
  slotTaken := takesSlot request e || g.slotTaken
  slotReleases := g.slotReleases + (releasesSlot request e).toNat
  escaped := escapes lib e || g.escaped
  escapedHolding := (escapes lib e && holdsSlot e.1) || g.escapedHolding
  streamed := answersStream e.1 || g.streamed

def Custody.empty : Custody := ⟨false, 0, false, 0, false, false, false⟩

def custody (t : List GatewayEvent) : Custody where
  lockTaken := t.any (takesLock request)
  lockReleases := t.countP (releasesLock request)
  slotTaken := t.any (takesSlot request)
  slotReleases := t.countP (releasesSlot request)
  escaped := t.any (escapes lib)
  escapedHolding := t.any fun e => escapes lib e && holdsSlot e.1
  streamed := t.any fun e => answersStream e.1

def custodyMonitor : Monitor GatewayOp GatewayRet Exn Custody where
  permits _ _ := True
  answers _ op o := releases op = true → o.isOk = true
  advance g op o := g.add lib request ⟨op, o⟩

theorem custodyMonitor_after (t : List GatewayEvent) :
    (custodyMonitor lib request).after .empty t = custody lib request t := by
  induction t using List.reverseRecOn with
  | nil => rfl
  | append_singleton t e ih =>
    rw [Monitor.after_concat, ih]
    simp [custodyMonitor, Custody.add, custody, List.countP_append, List.countP_singleton,
      Bool.or_comm, Bool.toNat]

theorem custodyMonitor_answers {t : List GatewayEvent} (succeed : ReleasesSucceed t) (g : Custody) :
    (custodyMonitor lib request).Answers g t := .of_each (fun e mem _ => succeed e mem) g

end Custodies

/-- The request is over: its custody is balanced exactly if nothing escaped. -/
def Settled (g : Custody) : Prop :=
  (g.slotReleases = (if g.slotTaken then 1 else 0) ∧ g.lockReleases = if g.lockTaken then 1 else 0) ↔
    (g.slotTaken = true → g.escapedHolding = false ∧ (g.streamed = true → g.escaped = false)) ∧
      (g.lockTaken = true → g.escaped = false)

theorem settled_iff {lib : Libraries} {request : ChatRequest} {t : List GatewayEvent}
    (settled : Settled (custody lib request t)) :
    Balanced request t ↔ NothingEscaped lib request t := by
  constructor
  · intro balanced
    obtain ⟨slot, lock⟩ := settled.mp ⟨balanced.slot, balanced.lock⟩
    exact ⟨slot, lock⟩
  · intro clean
    obtain ⟨slot, lock⟩ := settled.mpr ⟨clean.slot, clean.lock⟩
    exact ⟨slot, lock⟩

theorem settled_clean (locked held streamed : Bool) :
    Settled ⟨locked, locked.toNat, held, held.toNat, false, false, streamed⟩ := by
  cases locked <;> cases held <;> simp [Settled]

theorem settled_escape (locked held : Bool) :
    Settled ⟨locked, 0, held, held.toNat, true, false, false⟩ := by
  cases locked <;> cases held <;> simp [Settled]

theorem settled_escapeHolding (locked : Bool) : Settled ⟨locked, 0, true, 0, true, true, false⟩ := by
  simp [Settled]

/-- A failure in the `finally` block of a provider's stream. -/
theorem settled_stream (locked : Bool) : Settled ⟨locked, 0, true, 0, true, false, true⟩ := by
  simp [Settled]

section Pieces
variable (config : GatewayConfig) (request : ChatRequest)

abbrev CustodyHolds {α : Type} (p : GatewayProg α) (Q : Except Exn α → Custody → Prop) (g : Custody) : Prop :=
  Holds (custodyMonitor config.lib request) p Q g

/-- The program leaves the custody alone when it returns and marks it when it raises. -/
abbrev Marks {α : Type} (mark : Exn → Custody → Custody) (p : GatewayProg α) : Prop :=
  Steady (custodyMonitor config.lib request) mark p

def escape (_ : Exn) (g : Custody) : Custody := { g with escaped := true }

def escapeHolding (_ : Exn) (g : Custody) : Custody := { g with escaped := true, escapedHolding := true }

def unlessRateLimit : Exn → Custody → Custody
  | .rateLimit _, g => g
  | e, g => escape e g

def unlessHttp : Exn → Custody → Custody
  | .http _, g => g
  | e, g => escapeHolding e g

variable {config request} {m : Exn → Custody → Custody}

theorem marks_call {op : GatewayOp}
    (returned : ∀ g a, Custody.add config.lib request g ⟨op, .ok a⟩ = g)
    (raised : ∀ g e, Custody.add config.lib request g ⟨op, .error e⟩ = m e g) :
    Marks config request m (call op) :=
  steady_perform (fun _ => trivial) (fun g a _ => returned g a) fun g e _ => raised g e

/-- What catches the exceptions of a call, if its kind alone decides it. -/
inductive Clause where
  | nothing
  | nothingHolding
  | rateLimit
  | http
  | special
  deriving DecidableEq

def clause : GatewayOp → Clause
  | .checkTokenBucket _ _ _ _ | .utcMonth | .checkAndReserveBudget _ _ _ => .rateLimit
  | .analyze _ | .anonymize _ _ | .detect _ | .setRlsContext none _ | .commitAuditLog _
  | .metric .piiRedactions | .metric (.injectionDetections _) => .http
  | .getEncoding _ | .encode _ _ | .setRlsContext (some _) _ | .commitUsageRecord _
  | .storeCachedCompletion _ _ _ | .storeResponse _ _ _ | .timeTime | .uuid4Hex
  | .beginStream .cached | .metric (.providerCallDuration _ _) | .metric (.chatCompletions _ .success)
  | .metric (.chatCompletions _ .error) | .metric (.chatCompletions _ .rateLimited)
  | .metric (.rateLimitRejections _) | .metric (.usageCostUsd _ _)
  | .metric (.usageTokens _ _ _) | .modelDumpJson _ | .calculateCostUsd _ _ _ _ => .nothing
  | .metric (.chatCompletions _ .blocked) | .metric (.cacheLookups _)
  | .beginStream .provider => .nothingHolding
  | _ => .special

def Clause.mark : Clause → Exn → Custody → Custody
  | .rateLimit => unlessRateLimit
  | .http => unlessHttp
  | .nothingHolding => escapeHolding
  | .nothing | .special => escape

theorem call_marks {op : GatewayOp} {c : Clause} (ordinary : c ≠ .special) (h : clause op = c) :
    Marks config request c.mark (call op) := by
  subst h
  cases op with
  | metric metric =>
    cases metric with
    | chatCompletions providerName outcome =>
      cases outcome <;> exact marks_call (fun _ _ => rfl) fun _ e => by cases e <;> rfl
    | _ => exact marks_call (fun _ _ => rfl) fun _ e => by cases e <;> rfl
  | beginStream source =>
    cases source <;> exact marks_call (fun _ _ => rfl) fun _ e => by cases e <;> rfl
  | setRlsContext tenantId bypass =>
    cases tenantId <;> exact marks_call (fun _ _ => rfl) fun _ e => by cases e <;> rfl
  | _ =>
    first
    | exact absurd rfl ordinary
    | exact marks_call (fun _ _ => rfl) fun _ e => by cases e <;> rfl

theorem plain_marks {op : GatewayOp} (h : clause op = .nothing) :
    Marks config request escape (call op) :=
  call_marks (c := .nothing) (by decide) h

theorem holding_marks {op : GatewayOp} (h : clause op = .nothingHolding) :
    Marks config request escapeHolding (call op) :=
  call_marks (c := .nothingHolding) (by decide) h

theorem limiter_marks {op : GatewayOp} (h : clause op = .rateLimit) :
    Marks config request unlessRateLimit (call op) :=
  call_marks (c := .rateLimit) (by decide) h

theorem security_marks {op : GatewayOp} (h : clause op = .http) :
    Marks config request unlessHttp (call op) :=
  call_marks (c := .http) (by decide) h

theorem encodingFor_marks (model : String) :
    Marks config request escape (encodingFor model) := by
  intro g
  rw [encodingFor, holds_handle]
  refine ⟨trivial, fun o _ => ?_⟩
  cases o with
  | ok encoding => rfl
  | error e =>
    cases e with
    | keyError => exact plain_marks rfl g
    | _ => rfl

theorem countPromptTokens_marks (messages : List ChatMessage) (model : String) :
    Marks config request escape (countPromptTokens messages model) :=
  countPromptTokens_steady encodingFor_marks (fun _ _ => plain_marks rfl) messages model

theorem countTextTokens_marks (text model : String) :
    Marks config request escape (countTextTokens text model) :=
  countTextTokens_steady encodingFor_marks (fun _ _ => plain_marks rfl) text model

theorem recordUsage_marks (providerName model : String) (promptTokens completionTokens : ℤ)
    (cacheHit : Bool) :
    Marks config request escape
      (recordUsage request providerName model promptTokens completionTokens cacheHit) := by
  refine (plain_marks rfl).bind fun _ => ?_
  refine (plain_marks rfl).bind fun _ => ?_
  refine (plain_marks rfl).bind fun _ => ?_
  refine (plain_marks rfl).bind fun _ => ?_
  refine (plain_marks rfl).bind fun _ => ?_
  refine (plain_marks rfl).bind fun _ => ?_
  exact plain_marks rfl

theorem enforceRequestLimits_marks (tenant : TenantContext) (providerName model : String)
    (promptTokens : ℕ) :
    Marks config request unlessRateLimit
      (enforceRequestLimits tenant providerName model promptTokens) := by
  refine (limiter_marks rfl).bind fun rpm => ?_
  split
  · exact fun _ => rfl
  · refine (limiter_marks rfl).bind fun tpm => ?_
    split
    · exact fun _ => rfl
    · simp only
      split
      · refine (limiter_marks rfl).bind fun month => ?_
        refine (limiter_marks rfl).bind fun budget => ?_
        split <;> exact fun _ => rfl
      · exact steady_pure _

theorem redact_marks (text : String) : Marks config request unlessHttp (redact text) := by
  rw [redact]
  split
  · exact steady_pure _
  · refine (security_marks rfl).bind fun findings => ?_
    split
    · exact steady_pure _
    · exact (security_marks rfl).bind fun _ => steady_pure _

theorem redactEach_marks (messages : List ChatMessage) :
    Marks config request unlessHttp (redactEach messages) := by
  induction messages with
  | nil => exact steady_pure _
  | cons message rest ih =>
    refine Steady.bind ?_ fun redacted => ih.bind fun _ => steady_pure _
    rw [redactMessage]
    split
    · refine (redact_marks _).bind fun result => ?_
      split <;> exact steady_pure _
    · exact steady_pure _
    · exact steady_pure _

theorem writeAuditEvent_marks (tenantId : Option Uuid) (eventType : String)
    (correlationId : Option String) (detail : JsonObject) :
    Marks config request unlessHttp
      (writeAuditEvent auditSession tenantId eventType correlationId detail) :=
  (security_marks rfl).bind fun _ =>
    security_marks rfl

theorem redactionStep_marks (r : ChatRequest) :
    Marks config request unlessHttp (redactionStep r) := by
  rw [redactionStep]
  split
  · refine Steady.bind ((redactEach_marks _).bind fun _ => steady_pure _) ?_
    rintro ⟨messages, entityTypes⟩
    simp only
    split
    · refine (security_marks rfl).bind fun _ => ?_
      exact (writeAuditEvent_marks _ _ _ _).bind fun _ => steady_pure _
    · exact steady_pure _
  · exact steady_pure _

theorem detectionStep_marks (lib : Libraries) (r : ChatRequest) (messages : List ChatMessage) :
    Marks config request unlessHttp (detectionStep lib r messages) := by
  rw [detectionStep]
  split
  · refine (security_marks rfl).bind fun verdict => ?_
    split
    · refine (security_marks rfl).bind fun _ => ?_
      refine (writeAuditEvent_marks _ _ _ _).bind fun _ => ?_
      split <;> exact fun _ => rfl
    · exact steady_pure _
  · exact steady_pure _

theorem runSecurityPipeline_marks (lib : Libraries) (r : ChatRequest) :
    Marks config request unlessHttp (runSecurityPipeline lib r) := by
  refine (redactionStep_marks r).bind fun messages => ?_
  exact (detectionStep_marks lib r messages).bind fun _ => steady_pure _

theorem getCachedCompletion_marks (key : String) :
    Marks config request escapeHolding (getCachedCompletion config.lib key) := by
  intro g
  refine ⟨trivial, fun o _ => ?_⟩
  cases o with
  | error e => rfl
  | ok raw =>
    cases raw with
    | none => rfl
    | some text =>
      cases parsed : config.lib.modelValidateJson text with
      | none =>
        simp only [Prog.andThen, Prog.onValue, parsed, holds_raise]
        simp [custodyMonitor, Custody.add, escapes, unparsed, parsed, holdsSlot, escapeHolding,
          takesLock, releasesLock, takesSlot, releasesSlot, answersStream]
      | some response =>
        simp only [Prog.andThen, Prog.onValue, parsed, holds_pure]
        simp [custodyMonitor, Custody.add, escapes, unparsed, parsed, takesLock, releasesLock,
          takesSlot, releasesSlot, answersStream]

theorem storeCachedCompletion_marks (key : String) (response : ChatCompletionResponse) :
    Marks config request escape (storeCachedCompletion config key response) :=
  (plain_marks rfl).bind fun _ => plain_marks rfl

theorem cacheStream_marks (body : ChatCompletionRequest) (cacheKey : Option String) (text : String)
    (promptTokens completionTokens : ℕ) :
    Marks config request escape
      (cacheStream config body cacheKey text promptTokens completionTokens) := by
  cases cacheKey with
  | none => exact steady_pure _
  | some key =>
    rw [cacheStream]
    split
    · refine (plain_marks rfl).bind fun hex => (plain_marks rfl).bind fun created => ?_
      exact storeCachedCompletion_marks _ _
    · exact steady_pure _

theorem withUsage_marks (body : ChatCompletionRequest) (promptTokens : ℕ)
    (response : ChatCompletionResponse) :
    Marks config request escape (withUsage body promptTokens response) := by
  rw [withUsage]
  split
  · exact steady_pure _
  · exact (countTextTokens_marks _ _).bind fun _ => steady_pure _

theorem storeIfCaching_marks (cacheKey : Option String) (response : ChatCompletionResponse) :
    Marks config request escape (storeIfCaching config cacheKey response) := by
  cases cacheKey with
  | none => exact steady_pure _
  | some key => exact storeCachedCompletion_marks _ _

end Pieces

section Handler
variable {config : GatewayConfig} {request : ChatRequest} {α : Type}

theorem ok_of_isOk {o : Except Exn α} (h : o.isOk = true) : ∃ a, o = .ok a := by
  cases o with
  | ok a => exact ⟨a, rfl⟩
  | error e => cases h

theorem releaseSlot_keeps {Q : Except Exn Unit → Custody → Prop} {g : Custody}
    (after : Q (.ok ()) { g with slotReleases := g.slotReleases + 1 }) :
    CustodyHolds config request (releaseSlot request) Q g := by
  refine ⟨trivial, fun o granted => ?_⟩
  obtain ⟨u, rfl⟩ := ok_of_isOk (granted rfl)
  have released : Custody.add config.lib request g
      ⟨.releaseConcurrencySlot request.tenant.tenantId, .ok u⟩ =
      { g with slotReleases := g.slotReleases + 1 } := by
    simp [Custody.add, takesLock, releasesLock, takesSlot, releasesSlot, escapes, unparsed, answersStream]
  change Q (.ok u) (Custody.add config.lib request g _)
  rw [released]
  exact after

theorem releaseLock_keeps {Q : Except Exn Unit → Custody → Prop} {g : Custody}
    (after : Q (.ok ()) { g with lockReleases := g.lockReleases + request.key.isSome.toNat }) :
    CustodyHolds config request (releaseLockIfKeyed request) Q g := by
  rw [releaseLockIfKeyed]
  cases key_eq : request.key with
  | none =>
    rw [key_eq] at after
    exact after
  | some key =>
    rw [key_eq] at after
    refine ⟨trivial, fun o granted => ?_⟩
    obtain ⟨u, rfl⟩ := ok_of_isOk (granted rfl)
    have released : Custody.add config.lib request g
        ⟨.releaseLock request.tenant.tenantId key, .ok u⟩ =
        { g with lockReleases := g.lockReleases + 1 } := by
      simp [Custody.add, takesLock, releasesLock, takesSlot, releasesSlot, escapes, unparsed, answersStream,
        key_eq]
    change Q (.ok u) (Custody.add config.lib request g _)
    rw [released]
    exact after

/-- With the lock, with the slot as well, and with the slot given back. -/
abbrev locked (request : ChatRequest) : Custody := ⟨request.key.isSome, 0, false, 0, false, false, false⟩
abbrev held (request : ChatRequest) : Custody := ⟨request.key.isSome, 0, true, 0, false, false, false⟩
abbrev freed (request : ChatRequest) : Custody := ⟨request.key.isSome, 0, true, 1, false, false, false⟩

theorem settled_released (slot streamed : Bool) :
    Settled ⟨request.key.isSome, 0 + request.key.isSome.toNat, slot, slot.toNat, false, false,
      streamed⟩ := by
  rw [Nat.zero_add]
  exact settled_clean _ slot streamed

/-- The custody at each stage. After an exception of the provider call the slot is still to come back. -/
def custodyStages (request : ChatRequest) : Assertions Custody :=
  { Assertions.until (· = freed request) fun _ => Settled with
    start := (· = .empty)
    fresh := (· = .empty)
    locked := (· = locked request)
    counted := fun _ => (· = locked request)
    limited := fun _ => (· = locked request)
    refused := fun _ => (· = locked request)
    admitted := fun _ => (· = held request)
    blocked := fun _ => (· = held request)
    screened := fun _ _ => (· = held request)
    looked := fun _ _ => (· = held request)
    hit := fun _ _ => (· = held request)
    missed := fun _ => (· = held request)
    answered := fun _ _ => (· = held request)
    failed := fun _ => (· = held request)
    raised := fun _ g => Settled { g with slotReleases := g.slotReleases + 1 }
    streaming := fun _ => (· = held request)
    reading := fun _ _ _ _ _ => (· = { held request with streamed := true })
    read := fun _ _ _ => (· = { held request with streamed := true })
    settled := fun _ _ _ _ => (· = { held request with streamed := true })
    texted := fun _ _ _ _ => (· = { held request with streamed := true })
    streamBilled := fun _ _ _ _ => (· = { held request with streamed := true })
    streamBooked := fun _ => (· = { held request with streamed := true })
    streamFreed := fun _ => (· = { freed request with streamed := true }) }

theorem yields_keep {α : Type} {p : GatewayProg α} (uses : UsesKinds [.yield] p) (g : Custody) :
    CustodyHolds config request p (fun _ g' => g' = g) g := by
  refine uses.holds (fun _ _ => trivial) fun op o kind _ => ?_
  cases op with
  | yieldFrame frame => cases o <;> rfl
  | _ => exact absurd kind (by simp [GatewayOp.kind])

theorem storeAndRelease_settled (responseJson : String) :
    CustodyHolds config request (storeAndReleaseIfKeyed request responseJson) (fun _ => Settled)
      (freed request) := by
  cases key_eq : request.key with
  | none =>
    have nothing : storeAndReleaseIfKeyed request responseJson = pure () := by
      rw [storeAndReleaseIfKeyed, key_eq]
    rw [nothing]
    change Settled (freed request)
    rw [freed, key_eq]
    exact settled_clean false true false
  | some key =>
    have both : storeAndReleaseIfKeyed request responseJson = (do
        call (.storeResponse request.tenant.tenantId key responseJson)
        releaseLockIfKeyed request) := by
      rw [storeAndReleaseIfKeyed, releaseLockIfKeyed, key_eq]
    rw [both]
    refine (plain_marks rfl).step (fun _ => settled_escape _ true) fun _ => ?_
    exact releaseLock_keeps (settled_released true false)

theorem custody_walks (config : GatewayConfig) (request : ChatRequest) :
    Walks (custodyMonitor config.lib request) (custodyStages request).Reached config request := by
  intro α stage p next piece g reached
  cases piece with
  | replay keyed plain =>
    obtain rfl : g = .empty := reached
    refine ⟨trivial, fun answered _ => ?_⟩
    rcases answered with e | _ | content
    · exact settled_escape false false
    · rfl
    · exact settled_clean false false false
  | unreplayed other => exact reached
  | lock keyed =>
    rename_i key
    obtain rfl : g = .empty := reached
    refine ⟨trivial, fun answered _ => ?_⟩
    rcases answered with e | _ | _
    · exact settled_escape false false
    · exact settled_clean false false false
    · have taken : Custody.add config.lib request .empty
          ⟨.tryAcquireLock request.tenant.tenantId key, .ok true⟩ = locked request := by
        simp [Custody.add, takesLock, releasesLock, takesSlot, releasesSlot, escapes, unparsed,
          answersStream, keyed, Custody.empty]
      exact taken
  | unlocked unkeyed =>
    obtain rfl : g = .empty := reached
    change Custody.empty = locked request
    rw [locked, unkeyed]
    rfl
  | unknown =>
    obtain rfl : g = locked request := reached
    exact releaseLock_keeps (settled_released false false)
  | count =>
    obtain rfl : g = locked request := reached
    exact leads_steady (countPromptTokens_marks _ _) (fun _ => settled_escape _ false) fun _ => rfl
  | limit providerName promptTokens =>
    obtain rfl : g = locked request := reached
    refine (enforceRequestLimits_marks _ _ _ _ _).mono ?_
    rintro (e | _) _ rfl
    · cases e with
      | rateLimit exc => rfl
      | _ => exact settled_escape _ false
    · rfl
  | acquire =>
    obtain rfl : g = locked request := reached
    refine ⟨trivial, fun answered _ => ?_⟩
    rcases answered with e | _ | _
    · exact settled_escape _ false
    · rfl
    · simp [custodyStages, Assertions.Reached, onOk, custodyMonitor, Custody.add, takesLock, releasesLock,
        takesSlot, releasesSlot, escapes, unparsed, answersStream, held, locked]
  | refuse =>
    obtain rfl : g = locked request := reached
    refine (plain_marks rfl).step (fun _ => settled_escape _ false) fun _ => ?_
    refine (plain_marks rfl).step (fun _ => settled_escape _ false) fun _ => ?_
    exact releaseLock_keeps (settled_released false false)
  | screen =>
    obtain rfl : g = held request := reached
    refine (runSecurityPipeline_marks _ _ _).mono ?_
    rintro (e | body) _ rfl
    · cases e with
      | http exc => rfl
      | _ => exact settled_escapeHolding _
    · rfl
  | block =>
    obtain rfl : g = held request := reached
    refine (holding_marks rfl).step (fun _ => settled_escapeHolding _) fun _ => ?_
    refine Holds.bind (releaseSlot_keeps ?_)
    exact releaseLock_keeps (settled_released true false)
  | lookUp =>
    obtain rfl : g = held request := reached
    exact leads_steady (getCachedCompletion_marks _) (fun _ => settled_escapeHolding _) fun _ => rfl
  | uncached => exact reached
  | noteLookup asked cached =>
    obtain rfl : g = held request := reached
    refine leads_steady (holding_marks rfl) (fun _ => settled_escapeHolding _) fun _ => ?_
    cases cached <;> rfl
  | freeHit =>
    obtain rfl : g = held request := reached
    exact releaseSlot_keeps rfl
  | billHit =>
    obtain rfl : g = freed request := reached
    exact leads_steady (recordUsage_marks _ _ _ _ _) (fun _ => settled_escape _ true) fun _ => rfl
  | unbilledHit => exact reached
  | beginHit =>
    obtain rfl : g = freed request := reached
    exact leads_steady (plain_marks rfl) (fun _ => settled_escape _ true) fun _ => rfl
  | replayChunks cached => exact leads_alone (yields_keep (replayChunks_uses cached) _) fun _ => reached
  | billReplay =>
    obtain rfl : g = freed request := reached
    exact leads_steady (recordUsage_marks _ _ _ _ _) (fun _ => settled_escape _ true) fun _ => rfl
  | unbilledReplay => exact reached
  | endReplay outcome =>
    obtain rfl : g = freed request := reached
    exact releaseLock_keeps (settled_released true false)
  | callProvider asked plain =>
    obtain rfl : g = held request := reached
    refine ⟨trivial, fun answered _ => ?_⟩
    rcases answered with e | response
    · cases e with
      | provider exc => rfl
      | _ => exact settled_escape _ true
    · rfl
  | fail =>
    obtain rfl : g = held request := reached
    refine (plain_marks rfl).step (fun _ => settled_escape _ true) fun _ => ?_
    refine (plain_marks rfl).step (fun _ => settled_escape _ true) fun _ => ?_
    exact releaseLock_keeps (settled_released true false)
  | freeRaised exc => exact releaseSlot_keeps reached
  | freeAnswered =>
    obtain rfl : g = held request := reached
    exact releaseSlot_keeps rfl
  | complete =>
    obtain rfl : g = freed request := reached
    refine leads_steady ((plain_marks rfl).bind fun _ => withUsage_marks _ _ _)
      (fun _ => settled_escape _ true) fun _ => rfl
  | keep =>
    obtain rfl : g = freed request := reached
    exact leads_steady (storeIfCaching_marks _ _) (fun _ => settled_escape _ true) fun _ => rfl
  | bill =>
    obtain rfl : g = freed request := reached
    exact leads_steady (recordUsage_marks _ _ _ _ _) (fun _ => settled_escape _ true) fun _ => rfl
  | dump =>
    obtain rfl : g = freed request := reached
    exact leads_steady (plain_marks rfl) (fun _ => settled_escape _ true) fun _ => rfl
  | send text headers =>
    obtain rfl : g = freed request := reached
    refine (storeAndRelease_settled text).mono fun r g' settled => ?_
    cases r <;> exact settled
  | beginMissed =>
    obtain rfl : g = held request := reached
    exact leads_steady (holding_marks rfl) (fun _ => settled_escapeHolding _) fun _ => rfl
  | startUpstream =>
    obtain rfl : g = held request := reached
    exact ⟨trivial, fun started _ => by cases started <;> rfl⟩
  | yieldChunk =>
    refine leads_alone (yields_keep (usesKinds_call rfl) _) fun r => ?_
    cases r <;> exact reached
  | unreadable => exact reached
  | breakOff => exact reached
  | finish => exact leads_alone (yields_keep (usesKinds_call rfl) _) fun _ => reached
  | report => exact leads_alone (yields_keep (usesKinds_call rfl) _) fun _ => reached
  | succeed => exact reached
  | countText =>
    obtain rfl : g = { held request with streamed := true } := reached
    exact leads_steady ((plain_marks rfl).bind fun _ => countTextTokens_marks _ _)
      (fun _ => settled_stream _) fun _ => rfl
  | billStream =>
    obtain rfl : g = { held request with streamed := true } := reached
    exact leads_steady (recordUsage_marks _ _ _ _ _) (fun _ => settled_stream _) fun _ => rfl
  | keepStream =>
    obtain rfl : g = { held request with streamed := true } := reached
    exact leads_steady (cacheStream_marks _ _ _ _ _) (fun _ => settled_stream _) fun _ => rfl
  | failStream =>
    obtain rfl : g = { held request with streamed := true } := reached
    exact leads_steady ((plain_marks rfl).bind fun _ => (plain_marks rfl).bind fun _ =>
      countTextTokens_marks _ _) (fun _ => settled_stream _) fun _ => rfl
  | freeStream =>
    obtain rfl : g = { held request with streamed := true } := reached
    exact releaseSlot_keeps rfl
  | endStream =>
    obtain rfl : g = { freed request with streamed := true } := reached
    exact releaseLock_keeps (settled_released true true)

theorem serve_settled (config : GatewayConfig) (request : ChatRequest) :
    CustodyHolds config request (serve config request) (fun _ => Settled) .empty :=
  serve_walks (custody_walks config request) rfl

end Handler

theorem balanced_iff_nothing_escaped (config : GatewayConfig) (request : ChatRequest)
    (t : List GatewayEvent) (r : Except Exn Answer) (run : Runs (serve config request) t r)
    (succeed : ReleasesSucceed t) :
    Balanced request t ↔ NothingEscaped config.lib request t := by
  have settled := (serve_settled config request).sound run (custodyMonitor_answers _ _ succeed _)
  rw [custodyMonitor_after] at settled
  exact settled_iff settled

theorem balanced_iff_nothing_escaped_keyed :
    ReleasesSucceed (servedTrace keyedChat) ∧
      Balanced keyedChat (servedTrace keyedChat) := by
  have run := serve_local keyedChat rfl rfl
  have succeed : ReleasesSucceed (servedTrace keyedChat) := by
    unfold ReleasesSucceed
    decide
  exact ⟨succeed, (balanced_iff_nothing_escaped _ _ _ _ run succeed).mpr
    ⟨fun _ => ⟨rfl, fun _ => rfl⟩, fun _ => rfl⟩⟩

/-- A request whose injection detector fails. -/
def scannedChat : ChatRequest :=
  ⟨helloRequest false, { helloTenant with injectionDetectionEnabled := true }, none, none⟩

def brokenDetector : List GatewayEvent := [⟨.detect "hello", .error (.other "RuntimeError")⟩]

theorem scannedChat_fails :
    Runs (serve helloConfig scannedChat) (opening scannedChat ++ (admission scannedChat ++ brokenDetector))
      (.error (.other "RuntimeError")) := by
  have screened : Runs (screen helloConfig scannedChat "ollama") brokenDetector
      (.error (.other "RuntimeError")) := .call (.done _)
  exact (chatCompletions_local scannedChat rfl (screened.raised _)).raised _

/-- The detector raises something that is no HTTP exception: the slot is lost. -/
theorem failing_detector_loses_slot :
    ¬ ∀ config request t r, Runs (serve config request) t r → ReleasesSucceed t →
      Balanced request t := by
  intro balanced
  have lost := (balanced _ _ _ _ scannedChat_fails (by unfold ReleasesSucceed; decide)).slot
  exact absurd lost (by decide)

end AegisGateway.ResourceBalance
