import AegisGateway.KeyLifecycle
import AegisGateway.Revocations
import AegisGateway.StagedPrograms
import AegisGateway.TenantQuotas

set_option autoImplicit false

/-!
# Who reaches a provider

A request to `/v1/chat/completions` from its Authorization header on: `get_current_tenant`
over the database, then the handler over Redis for the tenant that came out. Any number of
them side by side, in any interleaving of their statements and commands, while admins create,
change and revoke what the database holds.
-/
namespace AegisGateway.EntitledRequests
open EffectProgram TransitionRuns ProgramPool RunAccounts StagedPrograms
open ApiKeys Accounts KeyLifecycle RedisCommands TenantIsolation TenantQuotas ProviderGates
open BudgetScan (RlsContext)
open RejectedRequests (TenantStep)
open RequestCalls (serveWire_placed)
open Revocations (SharedDatabase sessionWorld harmless neutral getCurrentTenant_neutral answered_db answered_commit)

section Authentications
variable {settings : AccountSettings} {request : AuthRequest} {tenant : TenantContext}
  {t : List (Event DbOp DbRet Exn)}

theorem authFailure_raises {α : Type} {tenantId : Option Uuid} {detail : JsonObject} {message : String}
    {a : α} : ¬ Runs (authFailure request tenantId detail message) t (.ok a) := by
  intro run
  obtain ⟨t₁, _, t₂, rfl, _, rest⟩ := runs_bind_ok run
  cases (runs_done rest).2

/-- The answers that let a key in: its row and its tenant's. -/
structure LetIn (settings : AccountSettings) (request : AuthRequest) (keyId secretPart : String)
    (row : ApiKey) (tenant : Tenant) : Prop where
  bearer : hasBearer request.header = true
  parsed : parseApiKey (presentedKey request.header) = some (keyId, secretPart)
  unrevoked : row.revokedAt = none
  verified : hashApiKeySecret settings secretPart = row.hashedSecret
  active : tenant.isActive = true

theorem resolveTenant_returned {keyId : String} {row : ApiKey}
    (run : Runs (resolveTenant request keyId row) t (.ok tenant)) :
    ∃ owner t₁ t₂, t = t₁ ++ ⟨.getTenant row.tenantId, .ok (some owner)⟩ :: t₂ ∧
      owner.isActive = true ∧ tenant = tenantContext row.tenantId owner keyId := by
  rw [resolveTenant] at run
  obtain ⟨t₁, _, t₂, rfl, _, rest⟩ := runs_bind_ok run
  obtain ⟨t₃, found, t₄, rfl, got, rest⟩ := runs_bind_ok rest
  rw [runs_perform got]
  cases found with
  | none => exact absurd rest authFailure_raises
  | some owner =>
    simp only at rest
    split at rest
    case isFalse => exact absurd rest authFailure_raises
    case isTrue active =>
      obtain ⟨t₅, now, t₆, rfl, _, rest⟩ := runs_bind_ok rest
      obtain ⟨t₇, _, t₈, rfl, _, rest⟩ := runs_bind_ok rest
      obtain ⟨-, same⟩ := runs_done rest
      cases same
      exact ⟨owner, t₁, _, rfl, active, rfl⟩

theorem getCurrentTenant_returned (run : Runs (getCurrentTenant settings request) t (.ok tenant)) :
    ∃ keyId secretPart row owner t₁ t₂ t₃, LetIn settings request keyId secretPart row owner ∧
      tenant = tenantContext row.tenantId owner keyId ∧
      t = t₁ ++ ⟨.selectApiKey keyId, .ok (some row)⟩ :: t₂ ++
        ⟨.getTenant row.tenantId, .ok (some owner)⟩ :: t₃ := by
  rw [getCurrentTenant] at run
  split at run
  · exact absurd run authFailure_raises
  rename_i bearer
  split at run
  · exact absurd run authFailure_raises
  rename_i keyId secretPart parsed
  obtain ⟨t₁, _, t₂, rfl, _, rest⟩ := runs_bind_ok run
  obtain ⟨t₃, found, t₄, rfl, selected, rest⟩ := runs_bind_ok rest
  rw [runs_perform selected]
  cases found with
  | none => exact absurd rest authFailure_raises
  | some row =>
    simp only [checkApiKey] at rest
    split at rest
    · exact absurd rest authFailure_raises
    rename_i unrevoked
    split at rest
    · exact absurd rest authFailure_raises
    rename_i verified
    obtain ⟨owner, t₅, t₆, rfl, active, rfl⟩ := resolveTenant_returned rest
    refine ⟨keyId, secretPart, row, owner, t₁, t₅, t₆, ⟨?_, parsed, ?_, ?_, active⟩, rfl, by simp⟩
    · simpa using bearer
    · simpa using unrevoked
    · simpa [verifyApiKeySecret] using verified

end Authentications

section Gateways
variable {ι : Type} (settings : AccountSettings) (config : GatewayConfig)

/-- A request to `/v1/chat/completions` as it comes in, with a body that the schema accepts. -/
structure GatewayRequest where
  authorization : Option HeaderValue
  correlationId : Option String
  idempotencyKey : Option String
  body : ChatCompletionRequest

def GatewayRequest.auth (request : GatewayRequest) : AuthRequest :=
  ⟨request.authorization, request.correlationId⟩

def GatewayRequest.chat (request : GatewayRequest) (tenant : TenantContext) : ChatRequest :=
  ⟨request.body, tenant, request.correlationId, request.idempotencyKey⟩

/-- The dependency `get_current_tenant`, and the handler with the tenant that it returns. -/
def handle (request : GatewayRequest) : BothProg DbRet WireRet Exn Answer :=
  staged (getCurrentTenant settings request.auth) fun tenant => serveWire config (request.chat tenant)

/-- What others do to the database: an operation from its first statement to its commit, or the
audit rows of other writers. -/
inductive AccountMove where
  | performed (record : Record)
  | audited (rows : List AuditLog)

def accountPasses (s : SharedDatabase ι) : AccountMove → SharedDatabase ι → Prop
  | .performed record, s' =>
    perform settings record.1 s.db = (record.2, s'.db) ∧ s'.contexts = s.contexts
  | .audited rows, s' => s' = { s with db := { s.db with auditLog := s.db.auditLog ++ rows } }

variable [DecidableEq ι]

def accountWorld (ι : Type) [DecidableEq ι] : World DbOp DbRet Exn ι (SharedDatabase ι) AccountMove where
  answer := (sessionWorld ι).answer
  passes := accountPasses settings

abbrev GatewayPool (ι : Type) := BothPool DbRet WireRet Exn Answer ι (SharedDatabase ι) RedisStore

abbrev GatewayLabel (ι : Type) := Label (DbOp ⊕ WireOp) (EitherRet DbRet WireRet) Exn ι (AccountMove ⊕ ℚ)

abbrev GatewayRun (ι : Type) := List (GatewayLabel ι × GatewayPool ι)

abbrev GatewayStep (ι : Type) [DecidableEq ι] : GatewayPool ι → GatewayLabel ι → GatewayPool ι → Prop :=
  Step (bothWorld (accountWorld settings ι) (redisCells.world ι))

variable (requests : ι → GatewayRequest)

def gatewayPool (redis : RedisStore) : GatewayPool ι :=
  Pool.start (⟨.empty, fun _ => .none⟩, redis) fun i => handle settings config (requests i)

def operationOf : GatewayLabel ι → Option Record
  | .env (.inl (.performed record)) => some record
  | _ => none

/-- The operations on the accounts in a run, with their outcomes. -/
def operations (run : GatewayRun ι) : List Record := run.filterMap fun step => operationOf step.1

end Gateways

section Agreement
variable {ι : Type} [DecidableEq ι] {settings : AccountSettings} {history : List Record} {db db' : Database}

theorem agrees_congr (h : LogAgrees settings history db) (keys : keyView db' = keyView db)
    (active : isActive db' = isActive db) : LogAgrees settings history db' where
  keys := by
    rw [keys]
    exact h.keys
  active tenantId := by
    rw [active]
    exact h.active tenantId

theorem perform_agrees {call : OpCall} {outcome : Outcome} (h : LogAgrees settings history db)
    (drew : WellDrawn (call, outcome)) (performed : perform settings call db = (outcome, db')) :
    LogAgrees settings (history ++ [(call, outcome)]) db' := by
  obtain ⟨op, drawn⟩ := call
  cases op with
  | createTenant request payload => exact createTenant_agrees h performed
  | updateTenant request tenantId payload => exact updateTenant_agrees h performed
  | createApiKey request tenantId name => exact createApiKey_agrees h drew performed
  | revokeApiKey request tenantId keyId => exact revokeApiKey_agrees h performed
  | authenticate request => exact authenticate_agrees h performed

theorem harmless_views {keyId : String} {context : RlsContext} {write : Write}
    (h : harmless keyId write = true) (applied : write.apply context db = some db') :
    keyView db' = keyView db ∧ isActive db' = isActive db := by
  cases write with
  | setLastUsedAt other now =>
    obtain ⟨row, stored, rfl⟩ := updateApiKey_applied applied
    refine ⟨?_, rfl⟩
    have inserted : ({ db with apiKeys := db.apiKeys.insert other { row with lastUsedAt := some now } } :
        Database).apiKeys = db.apiKeys.insert other { row with lastUsedAt := some now } := rfl
    rw [keyView_insert inserted]
    exact (congrArg _ (keyView_stored stored).symm).trans (Function.update_eq_self _ _)
  | insertAudit row => exact sameAccounts_views (insertAudit_same applied)
  | _ => cases h

theorem harmless_writes_views {keyId : String} {context : RlsContext} {writes : List Write}
    (h : ∀ write ∈ writes, harmless keyId write = true)
    (applied : applyWrites context db writes = some db') :
    keyView db' = keyView db ∧ isActive db' = isActive db := by
  induction writes generalizing db with
  | nil =>
    cases applied
    exact ⟨rfl, rfl⟩
  | cons write rest ih =>
    rw [applyWrites_cons] at applied
    obtain ⟨written, first, later⟩ := Option.bind_eq_some_iff.mp applied
    obtain ⟨keys₁, active₁⟩ := harmless_views (h write (.head _)) first
    obtain ⟨keys₂, active₂⟩ := ih (fun other mem => h other (.tail _ mem)) later
    exact ⟨keys₂.trans keys₁, active₂.trans active₁⟩

theorem answered_views {keyId : String} {s s' : SharedDatabase ι} {i : ι} {op : DbOp}
    {o : Except Exn (DbRet op)} (h : neutral keyId op) (answered : (sessionWorld ι).answer s i op o s') :
    keyView s'.db = keyView s.db ∧ isActive s'.db = isActive s.db := by
  cases op with
  | commit writes =>
    rcases answered_commit answered with applied | ⟨same, _⟩
    · exact harmless_writes_views h applied
    · rw [same]
      exact ⟨rfl, rfl⟩
  | _ =>
    rw [answered_db (fun _ => by simp) answered]
    exact ⟨rfl, rfl⟩

/-- What a request may do to the accounts. -/
def Modest : DbOp ⊕ WireOp → Prop
  | .inl op => neutral "" op
  | .inr _ => True

theorem handle_modest (config : GatewayConfig) (request : GatewayRequest) :
    (handle settings config request).Uses Modest :=
  staged_uses (getCurrentTenant_neutral settings request.auth) fun tenant =>
    (serveWire_placed config (request.chat tenant)).mono fun _ _ => trivial

theorem agrees_run {p : GatewayPool ι} {run : GatewayRun ι}
    (isRun : IsRun (GatewayStep settings ι) p run) (modest : EachUses (fun _ => Modest) p)
    (drew : ∀ e ∈ operations run, WellDrawn e) (h : LogAgrees settings history p.shared.1.db) :
    LogAgrees settings (history ++ operations run) (final p run).shared.1.db := by
  induction run generalizing p history with
  | nil =>
    rw [operations, List.filterMap_nil, List.append_nil]
    exact h
  | cons head rest ih =>
    obtain ⟨l, q⟩ := head
    have step := isRun.1
    have later := modest.step step
    cases l with
    | call i e =>
      have silent : operations ((.call i e, q) :: rest) = operations rest := rfl
      rw [silent] at drew ⊢
      refine ih isRun.2 later drew ?_
      obtain ⟨op, o⟩ := e
      have used := modest.called step
      have answered := Step.answered step
      cases op with
      | inl op =>
        obtain ⟨keys, active⟩ := answered_views used answered.1
        exact agrees_congr h keys active
      | inr op =>
        rw [answered.1]
        exact h
    | env k =>
      cases step with
      | @env k s moved =>
        cases k with
        | inr duration =>
          refine ih isRun.2 later drew ?_
          change LogAgrees settings history s.1.db
          rw [moved.1]
          exact h
        | inl move =>
          cases move with
          | audited rows =>
            refine ih isRun.2 later drew ?_
            change LogAgrees settings history s.1.db
            rw [moved.1]
            exact agrees_congr h rfl rfl
          | performed record =>
            have told : operations ((.env (.inl (.performed record)), { p with shared := s }) :: rest) =
                record :: operations rest := rfl
            rw [told] at drew ⊢
            rw [← List.singleton_append, ← List.append_assoc]
            refine ih isRun.2 later (fun e mem => drew e (.tail _ mem)) ?_
            exact perform_agrees h (drew record (.head _)) moved.1.1

end Agreement

section Entitlement
variable {ι : Type} {settings : AccountSettings} {config : GatewayConfig} {requests : ι → GatewayRequest}
  {redis : RedisStore}

theorem operations_append (run run' : GatewayRun ι) :
    operations (run ++ run') = operations run ++ operations run' := List.filterMap_append

/-- The requests with the tenants of their keys, as the handlers serve them. -/
def resolvedChats (requests : ι → GatewayRequest) (tenants : ι → TenantContext) (i : ι) : ChatRequest :=
  (requests i).chat (tenants i)

/-- Seen from Redis, the gateway does what the handlers do for the tenants of the keys. -/
abbrev Serves (settings : AccountSettings) (config : GatewayConfig) (requests : ι → GatewayRequest)
    (tenants : ι → TenantContext) : GatewayPool ι → TenantPool ι → Prop :=
  Beside (fun i => getCurrentTenant settings (requests i).auth)
    (fun i tenant => serveWire config ((requests i).chat tenant)) tenants

theorem gateway_begins (tenants : ι → TenantContext) :
    Serves settings config requests tenants (gatewayPool settings config requests redis)
      (tenantPool config (resolvedChats requests tenants) redis) := start_beside _ _ _ _

variable [DecidableEq ι]

/-- The answered calls of one request on Redis and everything but the accounts. -/
def wireCalls (i : ι) (run : GatewayRun ι) : List WireEvent := (calls i run).filterMap secondOf

/-- The request came with a key that was out when it was looked up, for a tenant that was active
when its row was found, and went through every gate of that row after this. -/
structure Entitled (config : GatewayConfig) (request : GatewayRequest) (start : GatewayPool ι) (i : ι)
    (lookup find gates : GatewayRun ι) (body : ChatCompletionRequest) (created : ApiKeyCreated)
    (tenantId : Uuid) (tenant : Tenant) : Prop where
  carries : Carries request.auth.header created.apiKey
  outstanding : Outstanding (operations lookup) tenantId created
  active : Active (operations (lookup ++ find)) tenantId
  row : (final start (lookup ++ find)).shared.1.db.tenants.lookup tenantId = some tenant
  gated : ∃ past, CarriedOut commands past (wireCalls i gates) ∧
    Gated config (request.chat (tenantContext tenantId tenant created.keyId)) past body

theorem selected_row {s s' : SharedDatabase ι} {i : ι} {keyId : String} {row : ApiKey}
    (answered : (sessionWorld ι).answer s i (.selectApiKey keyId) (.ok (some row)) s') :
    s.db.apiKeys.lookup keyId = some row := by
  obtain ⟨drawn, served | ⟨_, failed, _⟩⟩ := answered
  · have found : (s.db.apiKeys.lookup keyId).filter (fun row => grants (s.contexts i) (some row.tenantId)) =
        some row := Except.ok.inj (congrArg Prod.fst served)
    exact (Option.filter_eq_some_iff.mp found).1
  · cases failed

theorem found_tenant {s s' : SharedDatabase ι} {i : ι} {tenantId : Uuid} {tenant : Tenant}
    (answered : (sessionWorld ι).answer s i (.getTenant tenantId) (.ok (some tenant)) s') :
    s.db.tenants.lookup tenantId = some tenant := by
  obtain ⟨drawn, served | ⟨_, failed, _⟩⟩ := answered
  · exact Except.ok.inj (congrArg Prod.fst served)
  · cases failed

/-- Where a request calls a provider, its authentication has returned, and the gates of the
tenant that came out have let it through. -/
theorem forwarded_staged {before : GatewayRun ι} {s : GatewayPool ι} {i : ι} {op : GatewayOp}
    {o : Except Exn (GatewayRet op)} {body : ChatCompletionRequest}
    (isRun : IsRun (GatewayStep settings ι) (gatewayPool settings config requests redis)
      (before ++ [(.call i ⟨.inr (.outside op), o⟩, s)]))
    (called : providerBody op = some body) :
    ∃ tenant t₁ t₂, Runs (getCurrentTenant settings (requests i).auth) t₁ (.ok tenant) ∧
      calls i before = t₁.map firstEvent ++ t₂.map secondEvent ∧
      ∃ past, CarriedOut commands past t₂ ∧ Gated config ((requests i).chat tenant) past body := by
  have early : IsRun (GatewayStep settings ι) (gatewayPool settings config requests redis) before :=
    run_earlier isRun
  obtain ⟨tenants, settles, -⟩ := exists_settles (fun i => getCurrentTenant settings (requests i).auth)
    helloTenant (final (gatewayPool settings config requests redis) before)
  obtain ⟨run, isRun₂, beside, -⟩ := (gateway_begins tenants).run settles early
  have history := history_calls early i
  have step := isRun.later.1
  cases step with
  | call head answered =>
    have stage := beside.stages i
    rw [head] at stage
    obtain ⟨next, thread, moved⟩ := stage.call_second o (settles i)
    obtain ⟨t₁, split, returned⟩ := moved.returned (List.mem_append_right _ (.head _))
    rw [List.map_append, ← List.append_assoc] at split
    have followed : Followed (fun i => serveWire config (resolvedChats requests tenants i))
        (final (tenantPool config (resolvedChats requests tenants) redis) run) :=
      (start_followed redis _).run isRun₂
    have reaches := followed i
    rw [thread] at reaches
    refine ⟨tenants i, t₁, _, returned, ?_, called_gated (reaches_concat reaches o) called⟩
    exact history.symm.trans (List.append_inj' split rfl).1

theorem agrees_after {before after : GatewayRun ι}
    (isRun : IsRun (GatewayStep settings ι) (gatewayPool settings config requests redis) (before ++ after))
    (drew : ∀ e ∈ operations (before ++ after), WellDrawn e) :
    LogAgrees settings (operations before) (final (gatewayPool settings config requests redis) before).shared.1.db := by
  have agrees : LogAgrees settings ([] ++ operations before) _ :=
    agrees_run (run_earlier isRun) (fun i => handle_modest config (requests i)) (fun e mem => ?_) agrees_start
  · exact agrees
  · refine drew e ?_
    rw [operations_append]
    exact List.mem_append_left _ mem

/-- Nobody reaches a provider without a key that is out. Whatever calls one was let in with a key
that an admin made for the tenant and nobody had revoked, the tenant was active, and after that
every gate of the tenant's row let it through. -/
theorem forwarded_entitled (injective : Function.Injective (hashApiKeySecret settings))
    (before : GatewayRun ι) (s : GatewayPool ι) (i : ι) (op : GatewayOp) (o : Except Exn (GatewayRet op))
    (body : ChatCompletionRequest)
    (isRun : IsRun (GatewayStep settings ι) (gatewayPool settings config requests redis)
      (before ++ [(.call i ⟨.inr (.outside op), o⟩, s)]))
    (drew : ∀ e ∈ operations before, WellDrawn e) (called : providerBody op = some body) :
    ∃ lookup find gates created tenantId tenant, before = lookup ++ find ++ gates ∧
      Entitled config (requests i) (gatewayPool settings config requests redis) i lookup find gates body
        created tenantId tenant := by
  obtain ⟨context, t₁, t₂, returned, history, past, carried, gated⟩ := forwarded_staged isRun called
  obtain ⟨keyId, secretPart, row, tenant, looked, between, rest, letIn, rfl, rfl⟩ :=
    getCurrentTenant_returned returned
  -- the two statements that decide, where they stand in the run
  have split : calls i before = looked.map firstEvent ++ firstEvent ⟨.selectApiKey keyId, .ok (some row)⟩ ::
      between.map firstEvent ++ firstEvent ⟨.getTenant row.tenantId, .ok (some tenant)⟩ ::
      (rest.map firstEvent ++ t₂.map secondEvent) := by
    rw [history]
    simp
  obtain ⟨toFind, s₂, gates, rfl, first, later⟩ := calls_split split
  obtain ⟨lookup, s₁, find, rfl, -, -⟩ := calls_split first
  have early := run_earlier isRun
  have untilFind := run_earlier early
  have selected := selected_row (Step.answered untilFind.later.1).1
  have found := found_tenant (Step.answered early.later.1).1
  have agrees₁ := agrees_after untilFind fun e mem => drew e (by
    rw [operations_append]
    exact List.mem_append_left _ mem)
  have agrees₂ := agrees_after early drew
  obtain ⟨created, secret, rfl, full, hashed, out⟩ :=
    agrees₁.keys.stored keyId _ (keyView_stored selected) letIn.unrevoked
  obtain rfl : secretPart = secret := injective (letIn.verified.trans hashed)
  refine ⟨lookup, (.call i (firstEvent ⟨.selectApiKey created.keyId, .ok (some row)⟩), s₁) :: find,
    (.call i (firstEvent ⟨.getTenant row.tenantId, .ok (some tenant)⟩), s₂) :: gates, created, row.tenantId,
    tenant, rfl, ?_, out, ?_, found, past, ?_, gated⟩
  · rw [full, ← eq_fullKey_of_parse letIn.parsed]
    exact carries_of_hasBearer letIn.bearer
  · rw [Active, ← agrees₂.active, isActive, found]
    exact letIn.active
  · have seen : wireCalls i ((.call i (firstEvent ⟨.getTenant row.tenantId, .ok (some tenant)⟩), s₂) :: gates) =
        t₂ := by
      rw [wireCalls, calls, List.filterMap_cons, calledBy, if_pos rfl]
      change (calls i gates).filterMap secondOf = t₂
      rw [later, List.filterMap_append, seconds_first, seconds_second, List.nil_append]
    rw [seen]
    exact carried

end Entitlement

section FirstRequest

theorem answerDb_still {op : DbOp} (modest : neutral "" op) (drawn : Drawn) (db : Database)
    (context : RlsContext) : (answerDb drawn ⟨db, db, context⟩ op).2.working =
      (answerDb drawn ⟨db, db, context⟩ op).2.committed := by
  cases op with
  | flush writes => exact modest.elim
  | commit writes =>
    rw [answerDb]
    split <;> rfl
  | _ => rfl

theorem txn_still {txn : Txn} (still : txn.working = txn.committed) :
    (⟨txn.committed, txn.committed, txn.context⟩ : Txn) = txn := by
  obtain ⟨committed, working, context⟩ := txn
  cases still
  rfl

theorem session_ends {ι α : Type} [DecidableEq ι] (settings : AccountSettings) (drawn : Drawn)
    {p : DbProg α} (modest : p.Uses (neutral "")) (s : SharedDatabase ι) (i : ι) :
    ∃ s', (accountWorld settings ι).Ends i p s
      (p.runState (answerDb drawn) ⟨s.db, s.db, s.contexts i⟩).1 s' := by
  induction p generalizing s with
  | done r => exact ⟨s, World.ends_done.mpr ⟨rfl, rfl⟩⟩
  | call op next ih =>
    obtain ⟨s', ends⟩ := ih (s.serve i drawn op).1 (modest.2 _) (s.serve i drawn op).2
    refine ⟨s', World.ends_call.mpr ⟨_, _, ⟨drawn, .inl rfl⟩, ?_⟩⟩
    have context : (s.serve i drawn op).2.contexts i =
        (answerDb drawn ⟨s.db, s.db, s.contexts i⟩ op).2.context := Function.update_self _ _ _
    change (accountWorld settings ι).Ends i (next (s.serve i drawn op).1) _
      ((next (s.serve i drawn op).1).runState (answerDb drawn)
        ⟨(answerDb drawn ⟨s.db, s.db, s.contexts i⟩ op).2.committed,
          (answerDb drawn ⟨s.db, s.db, s.contexts i⟩ op).2.committed, _⟩).1 s' at ends
    rw [context, txn_still (answerDb_still modest.1 drawn s.db (s.contexts i))] at ends
    exact ends

/-- A tenant without screening and cache. -/
def plainPayload : TenantCreateRequest where
  name := "acme"
  piiRedactionEnabled := false
  injectionDetectionEnabled := false
  cacheEnabled := false

def plainTenant : OpCall := ⟨.createTenant ⟨"admin", some "c"⟩ plainPayload, firstDrawn⟩

def tenantMade : Outcome × Database := perform firstSettings plainTenant .empty

def keyMade : Outcome × Database := perform firstSettings firstKey tenantMade.2

def firstRequest : GatewayRequest := ⟨some firstHeader, some "c", none, helloRequest false⟩

def firstContext : Except Exn TenantContext := authenticated firstSettings firstRequest.auth firstDrawn keyMade.2

/-- The tenant's limits are the default ones, and it wants no screening and no cache. -/
def plainContext (c : TenantContext) : Bool :=
  c.tenantId = helloTenantId && c.rateLimitRpm = 60 && c.rateLimitTpm = 100000 &&
    c.maxConcurrentRequests = 5 && !c.piiRedactionEnabled && !c.injectionDetectionEnabled && !c.cacheEnabled

def letsIn : Except Exn TenantContext → Bool
  | .ok c => plainContext c
  | .error _ => false

theorem firstContext_plain : ∃ c, firstContext = .ok c ∧ plainContext c = true := by
  have checked : letsIn firstContext = true := by decide +kernel
  cases outcome : firstContext with
  | error e =>
    rw [outcome] at checked
    cases checked
  | ok c =>
    rw [outcome] at checked
    exact ⟨c, rfl, checked⟩

/-- The gates that the request passes for such a tenant, down to Redis. -/
def firstGates : List GatewayEvent := admission (helloChat false none)

def firstTrace : List GatewayEvent :=
  firstGates ++ [⟨.chatCompletion (helloRequest false), .error .cancelled⟩,
    ⟨.releaseConcurrencySlot helloTenantId, .ok ()⟩]

theorem first_runs {c : TenantContext} (plain : plainContext c = true) :
    Runs (serve helloConfig (firstRequest.chat c)) firstTrace (.error .cancelled) := by
  obtain ⟨tenantId, apiKeyId, budget, rpm, tpm, concurrent, pii, injection, threshold, mode, cache⟩ := c
  simp only [plainContext, Bool.and_eq_true, decide_eq_true_eq, Bool.not_eq_true'] at plain
  obtain ⟨⟨⟨⟨⟨⟨rfl, rfl⟩, rfl⟩, rfl⟩, rfl⟩, rfl⟩, rfl⟩ := plain
  let request := firstRequest.chat ⟨helloTenantId, apiKeyId, budget, 60, 100000, 5, false, false, threshold,
    mode, false⟩
  have answered : Runs (answer helloConfig request "ollama" (helloRequest false) 8 >>= deliver)
      (firstTrace.drop 7) (.error .cancelled) := .call (.call (.done _))
  have screened : Runs (runSecurityPipeline helloConfig.lib request) [] (.ok (helloRequest false)) := .done _
  have resolved : resolve helloConfig.providers (helloRequest false).model = .ok "ollama" := by
    change resolve ["ollama"] "llama3" = _
    decide
  have counted : Runs (countPromptTokens (helloRequest false).messages "llama3") (firstTrace.take 4) (.ok 8) :=
    .call (.call (.call (.call (.done _))))
  have ran : Runs (serve helloConfig request) ((firstTrace.take 4 ++ limits request 8 ++ []) ++
      firstTrace.drop 7) (.error .cancelled) := serve_answering rfl resolved counted screened answered
  exact ran

theorem first_sent {c : TenantContext} (plain : plainContext c = true) :
    Runs (serveWire helloConfig (firstRequest.chat c)) (firstTrace.flatMap paidSent) (.error .cancelled) := by
  refine Runs.expand (first_runs plain) ?_
  simp only [firstTrace, firstGates, admission, List.cons_append, List.nil_append, List.forall_mem_cons]
  exact ⟨.call (.done _), .call (.done _), .call (.done _), .call (.done _), .call (.done _),
    .call (.done _), .call (.call (.done _)), .call (.done _), .call (.done _), by simp⟩

theorem first_reaches {c : TenantContext} (plain : plainContext c = true) :
    ∃ next, Reaches (serveWire helloConfig (firstRequest.chat c)) (firstGates.flatMap paidSent)
      (.call (.outside (.chatCompletion (helloRequest false))) next) := by
  have whole := (first_sent plain).reaches
  rw [firstTrace, List.flatMap_append] at whole
  obtain ⟨mid, before, after⟩ := whole.stop
  cases after with
  | call tail => exact ⟨_, before⟩

theorem first_served : (redisCells.world Unit).Serves (fun _ _ => True) () emptyRedis
    (firstGates.flatMap paidSent) (paidSlots 1 (some (0 + 300)) (paidSlots 1 none paidBuckets)) := by
  have limited : (redisCells.world Unit).Serves (fun _ _ => True) () emptyRedis
      ((firstGates.take 6).flatMap paidSent) paidBuckets :=
    ⟨trivial, _, rfl, trivial, _, rfl, trivial, _, rfl, trivial, _, rfl, trivial, _, paid_rpm, trivial, _,
      paid_tpm, rfl⟩
  exact limited.append (slot_taken paidBuckets_free)

def firstPool : GatewayPool Unit := gatewayPool firstSettings helloConfig (fun _ => firstRequest) emptyRedis

/-- The pool with another database. -/
def firstPoolAt (db : Database) : GatewayPool Unit :=
  { firstPool with shared := (⟨db, fun _ => .none⟩, emptyRedis) }

/-- The tenant is created, and its key. -/
def setup : GatewayRun Unit :=
  [(.env (.inl (.performed (plainTenant, tenantMade.1))), firstPoolAt tenantMade.2),
    (.env (.inl (.performed (firstKey, keyMade.1))), firstPoolAt keyMade.2)]

theorem setup_run : IsRun (GatewayStep firstSettings Unit) firstPool setup :=
  ⟨.env ⟨⟨Prod.mk.eta.symm, rfl⟩, rfl⟩, .env ⟨⟨Prod.mk.eta.symm, rfl⟩, rfl⟩, trivial⟩

theorem setup_drew : ∀ e ∈ operations setup, WellDrawn e := by
  have hex : "0001020304050607".toList.all isHexChar = true := by decide
  have urlSafe : firstSecret.toList.all isUrlSafe = true := by decide
  intro e mem
  rcases List.mem_cons.mp mem with rfl | mem
  · trivial
  · rw [List.mem_singleton.mp mem]
    exact ⟨⟨by decide, List.all_eq_true.mp hex⟩, by decide, List.all_eq_true.mp urlSafe⟩

def firstCall (s : GatewayPool Unit) : GatewayLabel Unit × GatewayPool Unit :=
  (.call () ⟨.inr (.outside (.chatCompletion (helloRequest false))), .error .cancelled⟩, s)

theorem first_run : ∃ run s, IsRun (GatewayStep firstSettings Unit) (firstPoolAt keyMade.2) (run ++ [firstCall s]) ∧
    operations run = [] ∧ ∃ c t rest, plainContext c = true ∧
      Runs (getCurrentTenant firstSettings firstRequest.auth) t (.ok c) ∧
      (final (firstPoolAt keyMade.2) run).history () = t.map firstEvent ++ rest := by
  obtain ⟨c, accepted, plain⟩ := firstContext_plain
  obtain ⟨s', t, returned, served⟩ := session_ends firstSettings firstDrawn
    (getCurrentTenant_neutral firstSettings firstRequest.auth) ⟨keyMade.2, fun _ => .none⟩ ()
  have ended : Runs (getCurrentTenant firstSettings firstRequest.auth) t firstContext := returned
  rw [accepted] at ended
  obtain ⟨next, reaches⟩ := first_reaches plain
  have way : Reaches ((firstPoolAt keyMade.2).threads ()) (t.map firstEvent ++
      (firstGates.flatMap paidSent).map secondEvent)
      (onSecond (.call (.outside (.chatCompletion (helloRequest false))) next)) :=
    staged_reaches (f := fun tenant => serveWire helloConfig (firstRequest.chat tenant)) ended reaches
  have serves : (bothWorld (accountWorld firstSettings Unit) (redisCells.world Unit)).Serves
      (fun _ _ => True) () (⟨keyMade.2, fun _ => .none⟩, emptyRedis) (t.map firstEvent ++
        (firstGates.flatMap paidSent).map secondEvent)
      (s', paidSlots 1 (some (0 + 300)) (paidSlots 1 none paidBuckets)) :=
    (serves_first served).append (serves_second first_served)
  obtain ⟨run, isRun, -, ends, labels⟩ := solo_run (p := firstPoolAt keyMade.2) (i := ()) way serves
  have head : (final (firstPoolAt keyMade.2) run).threads () = onSecond
      (.call (.outside (.chatCompletion (helloRequest false))) next) := by
    rw [ends]
    simp only [Function.update_self]
  have history : (final (firstPoolAt keyMade.2) run).history () = t.map firstEvent ++
      (firstGates.flatMap paidSent).map secondEvent := by
    rw [ends]
    simp only [Function.update_self]
    rfl
  refine ⟨run, _, isRun.append ⟨.call head ⟨rfl, rfl⟩, trivial⟩, ?_, c, t, _, plain, ended, history⟩
  refine List.filterMap_eq_nil_iff.mpr fun step mem => ?_
  have label : step.1 ∈ run.map Prod.fst := List.mem_map_of_mem mem
  rw [labels] at label
  obtain ⟨e, -, called⟩ := List.mem_map.mp label
  rw [← called]
  rfl

theorem first_whole {run : GatewayRun Unit} {s : GatewayPool Unit}
    (isRun : IsRun (GatewayStep firstSettings Unit) (firstPoolAt keyMade.2) (run ++ [firstCall s])) :
    IsRun (GatewayStep firstSettings Unit) firstPool ((setup ++ run) ++ [firstCall s]) := by
  rw [List.append_assoc]
  exact setup_run.append isRun

theorem forwarded_entitled_first : ∃ before s,
    IsRun (GatewayStep firstSettings Unit) firstPool (before ++ [firstCall s]) ∧
      ∃ lookup find gates created tenantId tenant, before = lookup ++ find ++ gates ∧
        Entitled helloConfig firstRequest firstPool () lookup find gates (helloRequest false) created tenantId
          tenant := by
  obtain ⟨run, s, isRun, still, -⟩ := first_run
  have drew : ∀ e ∈ operations (setup ++ run), WellDrawn e := by
    rw [operations_append, still, List.append_nil]
    exact setup_drew
  refine ⟨setup ++ run, s, first_whole isRun, ?_⟩
  exact forwarded_entitled firstSettings_injective (setup ++ run) s () (.chatCompletion (helloRequest false))
    (.error .cancelled) (helloRequest false) (first_whole isRun) drew rfl

end FirstRequest
end AegisGateway.EntitledRequests
