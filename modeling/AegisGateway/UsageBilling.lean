import AegisGateway.RequestStages

set_option autoImplicit false

/-!
# The usage row of an answer

Which answers of a request are billed when the services it calls are healthy: a
usage row is rejected exactly if it does not fit its columns, a text is not
encoded exactly if it holds a special token, and a cost is a function of the model,
the counts and the provider.
-/
namespace AegisGateway.UsageBilling
open EffectProgram RequestStages

/-- A `VARCHAR(n)` takes the text. -/
def storable (n : ℕ) (s : String) : Bool :=
  s.length ≤ n && !s.toList.contains (Char.ofNat 0)

def isInt32 (n : ℤ) : Bool := -2 ^ 31 ≤ n && n < 2 ^ 31

/-- The row fits the columns of `usage_records`. -/
def fits (row : UsageRecord) : Bool :=
  storable 16 row.apiKeyId && storable 32 row.provider && storable 128 row.model &&
    isInt32 row.promptTokens && isInt32 row.completionTokens && isInt32 row.totalTokens &&
    row.costUsd.units.natAbs < 10 ^ (6 + row.costUsd.scale) && row.correlationId.all (storable 64)

section Health
variable (lib : Libraries) (special : String → String → Bool) (costs : CostFunction)

/-- What a call may raise when Redis, Postgres and the tokenizer are healthy. `special`
says whether a text holds a special token of an encoding. -/
def mayRaise : GatewayOp → Exn → Bool
  | .encodingForModel _, .keyError => true
  | .encode encoding text, .other _ => special encoding text
  | .commitUsageRecord row, .other _ => !fits row
  | .metric (.usageCostUsd _ _), .other _ | .metric (.usageTokens _ _ _), .other _ => true
  | .commitAuditLog _, .other _ | .analyze _, .other _ | .anonymize _ _, .other _
  | .detect _, .other _ => true
  | .modelDumpJson _, .other _ | .calculateCostUsd _ _ _ _, .other _ => true
  | .yieldFrame _, .provider _ => false
  | .chatCompletion _, _ | .streamChatCompletion _, _ | .beginStream _, _ | .yieldFrame _, _ => true
  | _, _ => false

def mayReturn : GatewayOp → Bool
  | .encode encoding text => !special encoding text
  | .commitUsageRecord row => fits row
  | _ => true

def healthy (e : GatewayEvent) : Bool :=
  pricedBy costs e &&
    match e.2 with
    | .error exc => mayRaise special e.1 exc
    | .ok _ => mayReturn special e.1

/-- The call puts nothing in the way of the usage row: a text that can be encoded, counts that
have a cost, a row that fits, a cache entry with its usage. -/
def billable : GatewayEvent → Bool
  | ⟨.encode encoding text, _⟩ => !special encoding text
  | ⟨.calculateCostUsd model promptTokens completionTokens providerName, _⟩ =>
    (costs model promptTokens completionTokens providerName).isSome
  | ⟨.commitUsageRecord row, _⟩ => fits row
  | ⟨.getCachedCompletion _, .ok raw⟩ =>
    raw.all fun text => (lib.modelValidateJson text).all fun response => response.usage.isSome
  | _ => true

end Health

def committedRow : GatewayEvent → Option UsageRecord
  | ⟨.commitUsageRecord row, .ok _⟩ => some row
  | _ => none

def sendsDone : GatewayOp → Bool
  | .yieldFrame .finished => true
  | _ => false

def begins : GatewayOp → Bool
  | .beginStream _ => true
  | _ => false

/-- A JSON answer that is no replay. -/
def isAnswer : Except Exn Answer → Bool
  | .ok (.json _ headers) => !headers.contains ("Idempotency-Replayed", "true")
  | _ => false

def isHttpError : Except Exn Answer → Bool
  | .error (.http _) => true
  | _ => false

/-- The client got a complete answer of its own. -/
def Complete (t : List GatewayEvent) (r : Except Exn Answer) : Prop :=
  isAnswer r = true ∨ t.any (fun e => sendsDone e.1) = true

/-- The client got an HTTP error. -/
def Rejected (t : List GatewayEvent) (r : Except Exn Answer) : Prop :=
  isHttpError r = true ∧ t.any (fun e => begins e.1) = false

def RowFor (request : ChatRequest) (row : UsageRecord) : Prop :=
  row.tenantId = request.tenant.tenantId ∧
    row.totalTokens = row.promptTokens + row.completionTokens

/-- A complete answer has exactly one row, and a rejected request none. -/
structure Billed (request : ChatRequest) (t : List GatewayEvent) (r : Except Exn Answer) : Prop where
  complete : Complete t r → ∃ row, t.filterMap committedRow = [row] ∧ RowFor request row
  rejected : Rejected t r → t.filterMap committedRow = []

structure Bill where
  rows : List UsageRecord
  unbillable : Bool
  finished : Bool
  begun : Bool

section Bills
variable (lib : Libraries) (special : String → String → Bool) (costs : CostFunction)

def Bill.add (g : Bill) (e : GatewayEvent) : Bill where
  rows := match committedRow e with
    | some row => g.rows ++ [row]
    | none => g.rows
  unbillable := !billable lib special costs e || g.unbillable
  finished := sendsDone e.1 || g.finished
  begun := begins e.1 || g.begun

def Bill.empty : Bill := ⟨[], false, false, false⟩

def bill (t : List GatewayEvent) : Bill where
  rows := t.filterMap committedRow
  unbillable := t.any fun e => !billable lib special costs e
  finished := t.any fun e => sendsDone e.1
  begun := t.any fun e => begins e.1

def billMonitor : Monitor GatewayOp GatewayRet Exn Bill where
  permits _ _ := True
  answers _ op o := healthy special costs ⟨op, o⟩ = true
  advance g op o := g.add lib special costs ⟨op, o⟩

theorem billMonitor_after (t : List GatewayEvent) :
    (billMonitor lib special costs).after .empty t = bill lib special costs t := by
  induction t using List.reverseRecOn with
  | nil => rfl
  | append_singleton t e ih =>
    rw [Monitor.after_concat, ih]
    cases row_eq : committedRow e <;>
      simp [billMonitor, Bill.add, bill, List.filterMap_append, row_eq, Bool.or_comm]

theorem billMonitor_answers {t : List GatewayEvent} (well : ∀ e ∈ t, healthy special costs e = true)
    (g : Bill) : (billMonitor lib special costs).Answers g t := .of_each (fun e mem _ => well e mem) g

end Bills

/-- The request is over: it is billed as it should be exactly if all of it was billable. -/
def BilledRight (request : ChatRequest) (r : Except Exn Answer) (g : Bill) : Prop :=
  ((isAnswer r = true ∨ g.finished = true → ∃ row, g.rows = [row] ∧ RowFor request row) ∧
      (isHttpError r = true ∧ g.begun = false → g.rows = [])) ↔
    (isAnswer r = true ∨ g.finished = true → g.unbillable = false)

section Ends
variable {request : ChatRequest} {r : Except Exn Answer} {g : Bill}

theorem billedRight_incomplete (no_answer : isAnswer r = false) (unfinished : g.finished = false)
    (unbilled : isHttpError r = true → g.begun = false → g.rows = []) : BilledRight request r g := by
  simp only [BilledRight, no_answer, unfinished, Bool.false_eq_true, or_self, false_implies, true_and,
    iff_true]
  exact fun rejected => unbilled rejected.1 rejected.2

theorem billedRight_billed {row : UsageRecord} (one : g.rows = [row]) (fit : RowFor request row)
    (clean : g.unbillable = false) (answered : isHttpError r = false ∨ g.begun = true) :
    BilledRight request r g := by
  refine ⟨fun _ _ => clean, fun _ => ⟨fun _ => ⟨row, one, fit⟩, ?_⟩⟩
  rintro ⟨rejected, unbegun⟩
  rcases answered with answered | begun
  · rw [rejected] at answered
    cases answered
  · rw [begun] at unbegun
    cases unbegun

theorem billedRight_unbilled (complete : isAnswer r = true ∨ g.finished = true) (none : g.rows = [])
    (bad : g.unbillable = true) : BilledRight request r g := by
  constructor
  · rintro ⟨billed, _⟩
    obtain ⟨row, one, _⟩ := billed complete
    rw [none] at one
    cases one
  · intro clean
    rw [clean complete] at bad
    cases bad

end Ends

section Pieces
variable (config : GatewayConfig) (special : String → String → Bool) (costs : CostFunction)

abbrev BillHolds {α : Type} (p : GatewayProg α) (Q : Except Exn α → Bill → Prop) (g : Bill) : Prop :=
  Holds (billMonitor config.lib special costs) p Q g

variable {config special costs} {request : ChatRequest} {α β : Type}

/-- The kinds of calls that have no part in the bill. -/
def neutralKinds : List OpKind :=
  [.readResponse, .acquireLock, .releaseLock, .storeResponse, .limiter, .acquireSlot, .releaseSlot,
    .redactor, .detector, .security, .audit, .metric, .writeCache, .chat, .stream, .clock, .dump]

theorem neutral_keeps {p : GatewayProg α} (uses : UsesKinds neutralKinds p) (g : Bill) :
    BillHolds config special costs p (fun _ g' => g' = g) g := by
  refine uses.holds (fun _ _ => trivial) fun op o kind _ => ?_
  cases op <;> first
    | (cases o <;> rfl)
    | exact absurd kind (by simp [GatewayOp.kind, neutralKinds])

theorem neutral_step {p : GatewayProg α} {f : α → GatewayProg β} {Q : Except Exn β → Bill → Prop}
    {g : Bill} (uses : UsesKinds neutralKinds p) (raised : ∀ e, Q (.error e) g)
    (next : ∀ a, BillHolds config special costs (f a) Q g) : BillHolds config special costs (p >>= f) Q g :=
  (neutral_keeps uses g).skip raised next

def unbill (_ : Exn) (g : Bill) : Bill := { g with unbillable := true }

theorem encode_steady (encoding text : String) :
    Steady (billMonitor config.lib special costs) unbill (call (.encode encoding text)) := by
  refine steady_perform (fun _ => trivial) (fun g a well => ?_) fun g e well => ?_
  · have plain : special encoding text = false := by simpa [billMonitor, healthy, pricedBy, mayReturn] using well
    simp [billMonitor, Bill.add, billable, plain, committedRow, sendsDone, begins]
  · have held : special encoding text = true := by
      cases e with
      | other message => exact well
      | _ => cases well
    simp [billMonitor, Bill.add, billable, held, committedRow, sendsDone, begins, unbill]

theorem encodingFor_steady (model : String) :
    Steady (billMonitor config.lib special costs) unbill (encodingFor model) := by
  intro g
  rw [encodingFor, holds_handle]
  refine ⟨trivial, fun o well => ?_⟩
  cases o with
  | ok encoding => rfl
  | error e =>
    cases e with
    | keyError =>
      refine ⟨trivial, fun o well => ?_⟩
      cases o with
      | ok encoding => rfl
      | error e => cases well
    | _ => cases well

theorem countPromptTokens_counts (messages : List ChatMessage) (model : String) :
    Steady (billMonitor config.lib special costs) unbill (countPromptTokens messages model) :=
  countPromptTokens_steady encodingFor_steady encode_steady messages model

theorem countTextTokens_counts (text model : String) :
    Steady (billMonitor config.lib special costs) unbill (countTextTokens text model) :=
  countTextTokens_steady encodingFor_steady encode_steady text model

def Bill.plus (g : Bill) (row : UsageRecord) : Bill := { g with rows := g.rows ++ [row] }

theorem commit_keeps (row : UsageRecord) (g : Bill) :
    BillHolds config special costs (call (.commitUsageRecord row)) (fun r g' => match r with
      | .ok _ => g' = g.plus row
      | .error e => (∃ name, e = .other name) ∧ g' = unbill e g) g := by
  refine ⟨trivial, fun o well => ?_⟩
  cases o with
  | ok u =>
    have fit : fits row = true := well
    simp [billMonitor, Bill.add, billable, fit, committedRow, sendsDone, begins, Bill.plus]
  | error e =>
    cases e with
    | other name =>
      have unfit : fits row = false := by simpa [billMonitor, healthy, pricedBy, mayRaise] using well
      refine ⟨⟨name, rfl⟩, ?_⟩
      simp [billMonitor, Bill.add, billable, unfit, committedRow, sendsDone, begins, unbill]
    | _ => cases well

/-- The program has no part in the bill and raises nothing but unnamed exceptions. -/
def OffBill (config : GatewayConfig) (special : String → String → Bool) (costs : CostFunction)
    (p : GatewayProg α) : Prop :=
  ∀ g, BillHolds config special costs p
    (fun r g' => g' = g ∧ ∀ e, r = .error e → ∃ name, e = .other name) g

theorem OffBill.bind {p : GatewayProg α} {f : α → GatewayProg β}
    (h : OffBill config special costs p) (hf : ∀ a, OffBill config special costs (f a)) :
    OffBill config special costs (p >>= f) := by
  intro g
  apply Holds.bind
  refine (h g).mono ?_
  rintro r _ ⟨rfl, raised⟩
  cases r with
  | ok a => exact hf a _
  | error e =>
    refine ⟨rfl, ?_⟩
    rintro _ ⟨⟩
    exact raised e rfl

theorem harmless_call {op : GatewayOp} (kind : neutralKinds.contains op.kind = true)
    (other : ∀ e, mayRaise special op e = true → ∃ name, e = .other name) :
    OffBill config special costs (call op) := by
  intro g
  refine ⟨trivial, fun o well => ?_⟩
  have same : BillHolds config special costs (call op) (fun _ g' => g' = g) g :=
    neutral_keeps (usesKinds_call kind) g
  refine ⟨same.2 o well, ?_⟩
  rintro e rfl
  exact other e (Bool.and_eq_true_iff.mp well).2

theorem metric_harmless (metric : Metric) : OffBill config special costs (call (.metric metric)) := by
  refine harmless_call rfl fun e may => ?_
  cases e with
  | other name => exact ⟨name, rfl⟩
  | _ => cases metric <;> cases may

/-- The row is committed, or it is not and something unbillable was in the way. What the
metrics after the commit raise is no HTTP error. -/
theorem recordUsage_keeps (providerName model : String) (promptTokens completionTokens : ℤ)
    (cacheHit : Bool) (g : Bill) :
    BillHolds config special costs
      (recordUsage request providerName model promptTokens completionTokens cacheHit)
      (fun r g' => (∀ e, r = .error e → ∃ name, e = .other name) ∧
        ((∃ cost, g' = g.plus
            (usageRecord request providerName model promptTokens completionTokens cacheHit cost)) ∨
          g' = { g with unbillable := true } ∧ ∃ e, r = .error e)) g := by
  refine ⟨trivial, fun o well => ?_⟩
  cases o with
  | error e => cases well
  | ok u =>
    refine ⟨trivial, fun o well => ?_⟩
    cases o with
    | error e =>
      cases e with
      | other name =>
        have uncosted : costs model promptTokens completionTokens providerName = none := by
          simpa [billMonitor, healthy, pricedBy, mayRaise] using well
        refine ⟨fun e eq => ⟨name, (Except.error.inj eq).symm⟩, .inr ⟨?_, _, rfl⟩⟩
        simp [billMonitor, Bill.add, billable, uncosted, committedRow, sendsDone, begins]
      | _ => cases well
    | ok cost =>
      have costed : costs model promptTokens completionTokens providerName = some cost := by
        simpa [billMonitor, healthy, pricedBy, mayReturn] using well
      have same : (billMonitor config.lib special costs).advance g
          (.calculateCostUsd model promptTokens completionTokens providerName) (.ok cost) = g := by
        simp [billMonitor, Bill.add, billable, costed, committedRow, sendsDone, begins]
      change BillHolds config special costs _ _ ((billMonitor config.lib special costs).advance g _ _)
      rw [same]
      apply Holds.bind
      refine (commit_keeps _ _).mono fun r g' committed => ?_
      cases r with
      | error e =>
        obtain ⟨other, rfl⟩ := committed
        refine ⟨?_, .inr ⟨rfl, e, rfl⟩⟩
        rintro _ ⟨⟩
        exact other
      | ok u =>
        subst committed
        have counted : OffBill config special costs (do
            call (.metric (.chatCompletions providerName .success))
            call (.metric (.usageCostUsd providerName cost))
            call (.metric (.usageTokens providerName "prompt" promptTokens))
            call (.metric (.usageTokens providerName "completion" completionTokens))) :=
          (metric_harmless _).bind fun _ => (metric_harmless _).bind fun _ =>
            (metric_harmless _).bind fun _ => metric_harmless _
        refine (counted _).mono ?_
        rintro r _ ⟨rfl, raised⟩
        exact ⟨raised, .inl ⟨cost, rfl⟩⟩

end Pieces

section Handler
variable {config : GatewayConfig} {special : String → String → Bool} {costs : CostFunction}
  {request : ChatRequest} {g : Bill}

theorem billedRight_failed (e : Exn) {g : Bill} (none : g.rows = []) (unfinished : g.finished = false) :
    BilledRight request (.error e) g :=
  billedRight_incomplete rfl unfinished fun _ _ => none

theorem storeAndRelease_keeps (responseJson : String) (g : Bill) :
    BillHolds config special costs (storeAndReleaseIfKeyed request responseJson)
      (fun r g' => r = .ok () ∧ g' = g) g := by
  rw [storeAndReleaseIfKeyed]
  split
  · refine ⟨trivial, fun o well => ?_⟩
    cases o with
    | error e => cases well
    | ok u =>
      refine ⟨trivial, fun o well => ?_⟩
      cases o with
      | error e => cases well
      | ok u => exact ⟨rfl, rfl⟩
  · exact ⟨rfl, rfl⟩

/-- Before a JSON answer is sent: its row was committed, or something unbillable was in the way. -/
structure Sending (request : ChatRequest) (headers : List (String × String)) (g : Bill) : Prop where
  fresh : headers.contains ("Idempotency-Replayed", "true") = false
  unfinished : g.finished = false
  booked : (∃ row, g.rows = [row] ∧ RowFor request row ∧ g.unbillable = false) ∨
    g.rows = [] ∧ g.unbillable = true

theorem Sending.billedRight {headers : List (String × String)} (h : Sending request headers g)
    (text : String) : BilledRight request (.ok (.json text headers)) g := by
  have answer : isAnswer (.ok (.json text headers)) = true := by
    rw [isAnswer, h.fresh]
    rfl
  rcases h.booked with ⟨row, one, fit, clean⟩ | ⟨none, bad⟩
  · exact billedRight_billed one fit clean (.inl rfl)
  · exact billedRight_unbilled (.inl answer) none bad

/-- Once a stream has begun: its row was committed, or something unbillable was in the way. -/
def BeganBilled (request : ChatRequest) (g : Bill) : Prop :=
  g.begun = true ∧ ((∃ row, g.rows = [row] ∧ RowFor request row ∧ g.unbillable = false) ∨
    g.rows = [] ∧ (g.unbillable = true ∨ g.finished = false))

theorem BeganBilled.billedRight {g : Bill} (h : BeganBilled request g) {r : Except Exn Answer}
    (streamed : isAnswer r = false) : BilledRight request r g := by
  obtain ⟨begun, ⟨row, one, fit, clean⟩ | ⟨none, bad | unfinished⟩⟩ := h
  · exact billedRight_billed one fit clean (.inr begun)
  · cases finished : g.finished with
    | true => exact billedRight_unbilled (.inr finished) none bad
    | false => exact billedRight_incomplete streamed finished fun _ _ => none
  · exact billedRight_incomplete streamed unfinished fun _ _ => none

theorem streamed_no_answer (r : Except Exn Unit) : isAnswer (streamEnd r) = false := by
  cases r <;> rfl

theorem recordUsage_sending (providerName model : String) (p c : ℤ) (cacheHit : Bool)
    {headers : List (String × String)}
    (fresh : headers.contains ("Idempotency-Replayed", "true") = false) :
    BillHolds config special costs (recordUsage request providerName model p c cacheHit)
      (fun r g => match r with
        | .ok _ => Sending request headers g
        | .error e => BilledRight request (.error e) g) .empty := by
  refine (recordUsage_keeps _ _ _ _ _ _).mono ?_
  rintro (e | _) g ⟨raised, recorded⟩
  · obtain ⟨name, rfl⟩ := raised e rfl
    rcases recorded with ⟨cost, rfl⟩ | ⟨rfl, _⟩
    · exact billedRight_incomplete rfl rfl fun http => by cases http
    · exact billedRight_failed _ rfl rfl
  · rcases recorded with ⟨cost, rfl⟩ | ⟨_, e, eq⟩
    · exact ⟨fresh, rfl, .inl ⟨_, rfl, ⟨rfl, rfl⟩, rfl⟩⟩
    · cases eq

theorem recordUsage_accounted (providerName model : String) (p c : ℤ) (cacheHit finished : Bool) :
    BillHolds config special costs (recordUsage request providerName model p c cacheHit)
      (fun _ => BeganBilled request) ⟨[], false, finished, true⟩ := by
  refine (recordUsage_keeps _ _ _ _ _ _).mono ?_
  rintro r g ⟨_, ⟨cost, rfl⟩ | ⟨rfl, _⟩⟩
  · exact ⟨rfl, .inl ⟨_, rfl, ⟨rfl, rfl⟩, rfl⟩⟩
  · exact ⟨rfl, .inr ⟨rfl, .inl rfl⟩⟩

/-- A stream whose last frame was reached did not end with a `ProviderError`. -/
def Ended (finished : Bool) (outcome : Except Exn Unit) : Prop :=
  finished = true → ∀ exc, outcome ≠ .error (.provider exc)

/-- Nothing is on the bill but a cache entry without usage, until the answer is booked. -/
def billStages (request : ChatRequest) : Assertions Bill :=
  { Assertions.until (· = .empty) (BilledRight request) with
    looked := fun _ cached => (· = ⟨[], cached.any fun response => response.usage.isNone, false, false⟩)
    hit := fun _ cached => (· = ⟨[], cached.usage.isNone, false, false⟩)
    freedHit := fun _ cached => (· = ⟨[], cached.usage.isNone, false, false⟩)
    billed := fun _ => Sending request
    dumped := fun _ => Sending request
    replaying := fun cached => (· = ⟨[], cached.usage.isNone, false, true⟩)
    replayed := fun cached _ g => ∃ finished, g = ⟨[], cached.usage.isNone, finished, true⟩
    replayBilled := fun _ => BeganBilled request
    streaming := fun _ => (· = ⟨[], false, false, true⟩)
    reading := fun _ _ _ _ _ => (· = ⟨[], false, false, true⟩)
    read := fun _ _ outcome g => ∃ finished, g = ⟨[], false, finished, true⟩ ∧ Ended finished outcome
    settled := fun _ _ succeeded _ g =>
      ∃ finished, g = ⟨[], false, finished, true⟩ ∧ (finished = true → succeeded = true)
    texted := fun _ _ _ _ g => ∃ finished, g = ⟨[], false, finished, true⟩
    streamBilled := fun _ _ _ _ => BeganBilled request
    streamBooked := fun _ => BeganBilled request
    streamFreed := fun _ => BeganBilled request }

variable {α : Type} {p : GatewayProg α}

theorem neutral_leads {next : Except Exn α → Stage} (uses : UsesKinds neutralKinds p) (reached : g = .empty)
    (leads : ∀ r, (billStages request).Reached (next r) .empty) :
    BillHolds config special costs p (fun r => (billStages request).Reached (next r)) g := by
  subst reached
  exact leads_alone (neutral_keeps uses _) leads

theorem neutral_goes {next : α → Stage} (uses : UsesKinds neutralKinds p) (reached : g = .empty)
    (returned : ∀ a, (billStages request).Reached (next a) .empty) :
    BillHolds config special costs p (fun r => (billStages request).Reached (onOk next r)) g := by
  subst reached
  exact leads_alone_ok (neutral_keeps uses _) (fun e => billedRight_failed e rfl rfl) returned

theorem counts_goes {next : α → Stage} (counts : Steady (billMonitor config.lib special costs) unbill p)
    (reached : g = .empty) (returned : ∀ a, (billStages request).Reached (next a) .empty) :
    BillHolds config special costs p (fun r => (billStages request).Reached (onOk next r)) g := by
  subst reached
  exact leads_steady counts (fun e => billedRight_failed e rfl rfl) returned

theorem accounted_goes {next : α → Stage} (uses : UsesKinds neutralKinds p) (accounted : BeganBilled request g)
    (returned : ∀ a, (billStages request).Reached (next a) g) :
    BillHolds config special costs p (fun r => (billStages request).Reached (onOk next r)) g :=
  leads_alone_ok (neutral_keeps uses _) (fun _ => accounted.billedRight rfl) returned

theorem bill_walks (config : GatewayConfig) (special : String → String → Bool) (costs : CostFunction)
    (request : ChatRequest) :
    Walks (billMonitor config.lib special costs) (billStages request).Reached config request := by
  intro α stage p next piece g reached
  cases piece with
  | replay =>
    refine neutral_goes (usesKinds_call rfl) reached fun cached => ?_
    cases cached with
    | none => rfl
    | some content => exact billedRight_incomplete rfl rfl fun _ _ => rfl
  | lock =>
    refine neutral_goes (usesKinds_call rfl) reached fun acquired => ?_
    cases acquired with
    | true => rfl
    | false => exact billedRight_failed _ rfl rfl
  | unknown =>
    exact neutral_goes ((releaseLockIfKeyed_uses _).weaken (by decide)) reached
      fun _ => billedRight_failed _ rfl rfl
  | count => exact counts_goes (countPromptTokens_counts _ _) reached fun _ => rfl
  | limit =>
    refine neutral_leads ((enforceRequestLimits_uses _ _ _ _).weaken (by decide)) reached ?_
    rintro (e | _)
    · cases e with
      | rateLimit exc => rfl
      | _ => exact billedRight_failed _ rfl rfl
    · rfl
  | acquire =>
    refine neutral_goes (usesKinds_call rfl) reached fun acquired => ?_
    cases acquired <;> rfl
  | screen =>
    refine neutral_leads ((runSecurityPipeline_uses _ _).weaken (by decide)) reached ?_
    rintro (e | body)
    · cases e with
      | http exc => rfl
      | _ => exact billedRight_failed _ rfl rfl
    · rfl
  | refuse | block =>
    refine neutral_goes ((usesKinds_call rfl).bind fun _ => (usesKinds_call rfl).bind fun _ =>
      (releaseLockIfKeyed_uses _).weaken (by decide)) reached fun _ => billedRight_failed _ rfl rfl
  | lookUp =>
    obtain rfl : g = .empty := reached
    refine ⟨trivial, fun o well => ?_⟩
    rcases o with e | _ | text
    · exact billedRight_failed e rfl rfl
    · rfl
    · simp only [Prog.andThen, Prog.onValue]
      cases parsed : config.lib.modelValidateJson text with
      | none => exact billedRight_failed _ rfl rfl
      | some response =>
        cases usage_eq : response.usage <;>
          simp [billStages, Assertions.Reached, onOk, billMonitor, Bill.add, billable, parsed, usage_eq,
            committedRow, sendsDone, begins, Bill.empty]
  | noteLookup asked cached =>
    refine leads_alone_ok (neutral_keeps (usesKinds_call rfl) _) (fun e => ?_) fun _ => ?_
    · obtain rfl := reached
      exact billedRight_failed e rfl rfl
    · cases cached <;> exact reached
  | freeHit =>
    refine leads_alone_ok (neutral_keeps (usesKinds_call rfl) _) (fun e => ?_) fun _ => reached
    obtain rfl := reached
    exact billedRight_failed e rfl rfl
  | billHit providerName body cached usage plain used =>
    obtain rfl : g = .empty := by
      rw [reached, used]
      rfl
    have fresh : [("X-Cache", "hit")].contains ("Idempotency-Replayed", "true") = false := by decide
    refine (recordUsage_sending _ _ _ _ _ fresh).mono fun r g' booked => ?_
    cases r <;> exact booked
  | unbilledHit body cached plain unused =>
    obtain rfl := reached
    exact ⟨by decide, rfl, .inr ⟨rfl, by rw [unused]; rfl⟩⟩
  | beginHit =>
    obtain rfl := reached
    refine ⟨trivial, fun o _ => ?_⟩
    cases o with
    | error e => exact billedRight_incomplete rfl rfl fun _ begun => by cases begun
    | ok u => rfl
  | replayChunks =>
    obtain rfl := reached
    refine ⟨trivial, fun o _ => ?_⟩
    cases o with
    | error e => exact ⟨false, rfl⟩
    | ok u =>
      refine ⟨trivial, fun o _ => ?_⟩
      cases o <;> exact ⟨true, rfl⟩
  | billReplay providerName cached outcome usage used =>
    obtain ⟨finished, rfl⟩ := reached
    rw [used]
    refine (recordUsage_accounted _ _ _ _ _ _).mono fun r g' accounted => ?_
    cases r with
    | ok _ => exact accounted
    | error e => exact accounted.billedRight rfl
  | unbilledReplay cached outcome unused =>
    obtain ⟨finished, rfl⟩ := reached
    rw [unused]
    exact ⟨rfl, .inr ⟨rfl, .inl rfl⟩⟩
  | endReplay =>
    exact leads_alone (neutral_keeps ((releaseLockIfKeyed_uses _).weaken (by decide)) _)
      fun _ => BeganBilled.billedRight reached (streamed_no_answer _)
  | callProvider =>
    refine neutral_leads (usesKinds_call rfl) reached ?_
    rintro (e | received)
    · cases e <;> rfl
    · rfl
  | fail =>
    refine neutral_leads ((usesKinds_call rfl).bind fun _ => (usesKinds_call rfl).bind fun _ =>
      (releaseLockIfKeyed_uses _).weaken (by decide)) reached fun r => ?_
    cases r <;> rfl
  | freeRaised => exact neutral_goes (usesKinds_call rfl) reached fun _ => billedRight_failed _ rfl rfl
  | freeAnswered => exact neutral_goes (usesKinds_call rfl) reached fun _ => rfl
  | complete providerName asked received =>
    obtain rfl : g = .empty := reached
    refine neutral_step (usesKinds_call rfl) (fun e => billedRight_failed e rfl rfl) fun _ => ?_
    refine counts_goes ?_ rfl fun _ => rfl
    rw [withUsage]
    split
    · exact steady_pure _
    · exact (countTextTokens_counts _ _).bind fun _ => steady_pure _
  | keep => exact neutral_goes ((storeIfCaching_uses _ _ _).weaken (by decide)) reached fun _ => rfl
  | bill =>
    obtain rfl : g = .empty := reached
    have fresh : [("X-Cache", "miss")].contains ("Idempotency-Replayed", "true") = false := by decide
    refine (recordUsage_sending _ _ _ _ _ fresh).mono fun r g' booked => ?_
    cases r <;> exact booked
  | dump response headers =>
    have dumps : OffBill config special costs (call (.modelDumpJson response)) := by
      refine harmless_call rfl fun e may => ?_
      cases e with
      | other name => exact ⟨name, rfl⟩
      | _ => cases may
    refine (dumps g).mono ?_
    rintro (e | text) _ ⟨rfl, raised⟩
    · obtain ⟨name, rfl⟩ := raised e rfl
      exact billedRight_incomplete rfl reached.unfinished fun http => by cases http
    · exact reached
  | send text headers =>
    refine (storeAndRelease_keeps _ _).mono ?_
    rintro _ _ ⟨rfl, rfl⟩
    exact Sending.billedRight reached text
  | beginMissed =>
    obtain rfl := reached
    refine ⟨trivial, fun o _ => ?_⟩
    cases o with
    | error e => exact billedRight_incomplete rfl rfl fun _ begun => by cases begun
    | ok u => rfl
  | startUpstream =>
    obtain rfl := reached
    refine ⟨trivial, fun o _ => ?_⟩
    cases o with
    | error e => exact ⟨false, rfl, fun finished => by cases finished⟩
    | ok stream => rfl
  | yieldChunk =>
    obtain rfl := reached
    refine ⟨trivial, fun o _ => ?_⟩
    cases o with
    | error e => exact ⟨false, rfl, fun finished => by cases finished⟩
    | ok u => rfl
  | unreadable | breakOff => exact ⟨false, reached, fun finished => by cases finished⟩
  | finish =>
    obtain rfl := reached
    refine ⟨trivial, fun o well => ⟨true, ?_, ?_⟩⟩
    · cases o <;> rfl
    · rintro _ exc rfl
      cases well
  | report asked parts exc =>
    obtain ⟨finished, rfl, ended⟩ := reached
    refine ⟨trivial, fun o _ => ⟨finished, ?_, fun reached => absurd rfl (ended reached exc)⟩⟩
    cases o <;> rfl
  | succeed =>
    obtain ⟨finished, rfl, _⟩ := reached
    exact ⟨finished, rfl, fun _ => rfl⟩
  | countText =>
    obtain ⟨finished, rfl, _⟩ := reached
    refine ⟨trivial, fun o well => ?_⟩
    cases o with
    | error e => cases well
    | ok u =>
      refine leads_steady (countTextTokens_counts _ _) (fun e => ?_) fun _ => ⟨finished, rfl⟩
      exact BeganBilled.billedRight ⟨rfl, .inr ⟨rfl, .inl rfl⟩⟩ rfl
  | billStream =>
    obtain ⟨finished, rfl⟩ := reached
    refine (recordUsage_accounted _ _ _ _ _ _).mono fun r g' accounted => ?_
    cases r with
    | ok _ => exact accounted
    | error e => exact accounted.billedRight rfl
  | keepStream =>
    exact accounted_goes ((cacheStream_uses _ _ _ _ _ _).weaken (by decide)) reached fun _ => reached
  | failStream =>
    obtain ⟨finished, rfl, booked⟩ := reached
    have unfinished : finished = false := by
      cases finished with
      | false => rfl
      | true => exact (booked rfl).symm
    subst unfinished
    have uncounted : BeganBilled request ⟨[], false, false, true⟩ := ⟨rfl, .inr ⟨rfl, .inr rfl⟩⟩
    refine neutral_step (usesKinds_call rfl) (fun e => uncounted.billedRight rfl) fun _ => ?_
    refine neutral_step (usesKinds_call rfl) (fun e => uncounted.billedRight rfl) fun _ => ?_
    refine leads_steady (countTextTokens_counts _ _) (fun e => ?_) fun _ => uncounted
    exact BeganBilled.billedRight ⟨rfl, .inr ⟨rfl, .inl rfl⟩⟩ rfl
  | freeStream => exact accounted_goes (usesKinds_call rfl) reached fun _ => reached
  | endStream =>
    exact accounted_goes ((releaseLockIfKeyed_uses _).weaken (by decide)) reached
      fun _ => BeganBilled.billedRight reached (streamed_no_answer _)
  | unreplayed | unlocked | uncached => exact reached

end Handler

theorem answers_billed_iff (config : GatewayConfig) (special : String → String → Bool)
    (costs : CostFunction) (request : ChatRequest) (t : List GatewayEvent) (r : Except Exn Answer)
    (run : Runs (serve config request) t r) (well : ∀ e ∈ t, healthy special costs e = true) :
    Billed request t r ↔ (Complete t r → ∀ e ∈ t, billable config.lib special costs e = true) := by
  have settled : BilledRight request r _ := (serve_walks (bill_walks config special costs request) rfl).sound
    run (billMonitor_answers config.lib special costs well _)
  rw [billMonitor_after] at settled
  have all_billable : (bill config.lib special costs t).unbillable = false ↔
      ∀ e ∈ t, billable config.lib special costs e = true := by
    simp [bill]
  constructor
  · intro billed complete
    exact all_billable.mp (settled.mp ⟨billed.complete, billed.rejected⟩ complete)
  · intro clean
    obtain ⟨complete, rejected⟩ := settled.mpr fun complete => all_billable.mpr (clean complete)
    exact ⟨complete, rejected⟩

/-- The special tokens of the encoding `cl100k_base`. -/
def cl100kSpecial (_ text : String) : Bool :=
  ["<|endoftext|>", "<|fim_prefix|>", "<|fim_middle|>", "<|fim_suffix|>", "<|endofprompt|>"].any
    fun token => token.toList <:+: text.toList

theorem answers_billed_iff_hello :
    Complete (servedTrace (helloChat false none)) (.ok (.json helloDump [("X-Cache", "miss")])) ∧
      Billed (helloChat false none) (servedTrace (helloChat false none))
        (.ok (.json helloDump [("X-Cache", "miss")])) := by
  have run := serve_local (helloChat false none) rfl rfl
  have well : ∀ e ∈ servedTrace (helloChat false none), healthy cl100kSpecial exactCosts e = true := by
    decide +kernel
  refine ⟨.inl rfl, (answers_billed_iff _ _ _ _ _ _ run well).mpr fun _ => ?_⟩
  decide +kernel

/-- A streaming request with a correlation id of 65 characters. -/
def longIdChat : ChatRequest :=
  ⟨helloRequest true, helloTenant, some (String.ofList (List.replicate 65 'a')), none⟩

def unbilledStream : List GatewayEvent :=
  [⟨.beginStream .provider, .ok ()⟩,
    ⟨.streamChatCompletion (helloRequest true), .ok ⟨[helloChunk], none⟩⟩,
    ⟨.yieldFrame (.chunk helloChunk), .ok ()⟩, ⟨.yieldFrame .finished, .ok ()⟩,
    ⟨.metric (.providerCallDuration "ollama" .success), .ok ()⟩,
    ⟨.encodingForModel "llama3", .error .keyError⟩, ⟨.getEncoding fallbackEncoding, .ok "cl100k_base"⟩,
    ⟨.encode "cl100k_base" "Hel", .ok (1 : ℕ)⟩,
    ⟨.setRlsContext (some helloTenant.tenantId) false, .ok ()⟩,
    ⟨.calculateCostUsd "llama3" 8 1 "ollama", .ok (0 : ℚ)⟩,
    ⟨.commitUsageRecord (usageRecord longIdChat "ollama" "llama3" 8 1 false 0),
      .error (.other "DBAPIError")⟩]

theorem longIdChat_streams :
    Runs (serve helloConfig longIdChat)
      (opening longIdChat ++ (admission longIdChat ++ []) ++ unbilledStream)
      (.error (.other "DBAPIError")) := by
  have answered : Runs (do
      let body ← screen helloConfig longIdChat "ollama"
      answer helloConfig longIdChat "ollama" body 8) [] (.ok (.stream .provider
        (streamChatCompletion helloConfig longIdChat "ollama" (helloRequest true) 8 none))) := .done _
  have delivered : Runs (deliver (.stream .provider
      (streamChatCompletion helloConfig longIdChat "ollama" (helloRequest true) 8 none)))
      unbilledStream (.error (.other "DBAPIError")) :=
    .call (.call (.call (.call (.call (.call (.call (.call (.call (.call (.call (.done _)))))))))))
  exact (chatCompletions_local longIdChat rfl answered).bind delivered

/-- The stream reaches its last frame, and the row is rejected for the long id. -/
theorem long_correlation_id_unbilled :
    ¬ ∀ config request t r, Runs (serve config request) t r →
      (∀ e ∈ t, healthy cl100kSpecial exactCosts e = true) → Billed request t r := by
  intro billed
  have well : ∀ e ∈ opening longIdChat ++ (admission longIdChat ++ []) ++ unbilledStream,
      healthy cl100kSpecial exactCosts e = true := by decide +kernel
  obtain ⟨row, one, _⟩ := (billed _ _ _ _ longIdChat_streams well).complete (.inr rfl)
  cases one

end AegisGateway.UsageBilling
