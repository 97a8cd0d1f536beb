import AegisGateway.Accounts
import AegisGateway.TenantIsolation

set_option autoImplicit false

/-!
# The row-level-security context of every statement

The `/v1` requests down to their SQL statements, over a pool of connections: any number of
requests at once, each with one session. A session takes a free connection with the first
statement of a transaction and gives it back when the transaction ends. `set_config` with
`is_local` lasts until then. Any statement may raise, before or after it took effect.
-/
namespace AegisGateway.RowSecurity
open EffectProgram TransitionRuns ProgramPool Accounts ApiKeys
open BudgetScan (RlsContext UtcDateTime noon)
open UsageBilling (fits)
open RequestCalls (RequestParts)

section Statements

/-- `aegis.tenant_id` and `aegis.bypass_rls`. -/
inductive Guc where
  | tenantId
  | bypassRls
  deriving DecidableEq, Repr

inductive Statement where
  | setConfig (name : Guc) (value : String)
  | selectApiKey (keyId : String)
  | selectTenantApiKey (tenantId : Uuid) (keyId : String)
  | selectTenant (id : Uuid)
  | write (w : Write)
  | insertUsageRecord (row : UsageRecord)
  | commit
  | rollback

abbrev StatementRet : Statement → Type
  | .selectApiKey _ | .selectTenantApiKey _ _ => Option ApiKey
  | .selectTenant _ => Option Tenant
  | .setConfig _ _ | .write _ | .insertUsageRecord _ | .commit | .rollback => Unit

inductive RequestOp where
  | sql (statement : Statement)
  /-- The clock and the random number generator. -/
  | draw (op : DbOp)
  /-- What a request asks of Redis, the providers and the client. -/
  | gateway (op : GatewayOp)

abbrev RequestRet : RequestOp → Type
  | .sql statement => StatementRet statement
  | .draw op => DbRet op
  | .gateway op => GatewayRet op

abbrev RequestProg := Prog RequestOp RequestRet Exn

abbrev send (op : RequestOp) : RequestProg (RequestRet op) := Prog.perform op

abbrev sql (statement : Statement) : RequestProg (StatementRet statement) := send (.sql statement)

def setRlsContext (tenantId : Option Uuid) (bypass : Bool) : RequestProg Unit := do
  sql (.setConfig .tenantId ((tenantId.map Uuid.text).getD ""))
  sql (.setConfig .bypassRls (if bypass then "on" else "off"))

/-- The session sends the writes that wait in it, in order. -/
def flush : List Write → RequestProg Unit
  | [] => pure ()
  | w :: writes => do
    sql (.write w)
    flush writes

def dbStatements : (op : DbOp) → RequestProg (DbRet op)
  | .setRlsContext tenantId bypass => setRlsContext tenantId bypass
  | .selectApiKey keyId => sql (.selectApiKey keyId)
  | .selectTenantApiKey tenantId keyId => sql (.selectTenantApiKey tenantId keyId)
  | .getTenant id => sql (.selectTenant id)
  | .flush writes => flush writes
  | .commit writes => do
    flush writes
    sql .commit
  | .datetimeNow => send (.draw .datetimeNow)
  | .uuid4 => send (.draw .uuid4)
  | .tokenHex => send (.draw .tokenHex)
  | .tokenUrlsafe => send (.draw .tokenUrlsafe)

def gatewayStatements : (op : GatewayOp) → RequestProg (GatewayRet op)
  | .setRlsContext tenantId bypass => setRlsContext tenantId bypass
  | .commitAuditLog row => do
    flush [.insertAudit row]
    sql .commit
  | .commitUsageRecord row => do
    sql (.insertUsageRecord row)
    sql .commit
  | op => send (.gateway op)

inductive Endpoint where
  | ping
  | chatCompletions (body : ChatCompletionRequest) (idempotencyKey : Option String)

structure ProxyRequest where
  auth : AuthRequest
  endpoint : Endpoint

def answerProxy (config : GatewayConfig) (request : ProxyRequest) (tenant : TenantContext) : RequestProg Unit :=
  match request.endpoint with
  | .ping => pure ()
  | .chatCompletions body idempotencyKey => do
    let _ ← (serve config ⟨body, tenant, request.auth.correlationId, idempotencyKey⟩).expand
      gatewayStatements

/-- A request in its session. `get_db_session` closes the session when the request is over,
and with it rolls back. -/
def handleProxy (settings : AccountSettings) (config : GatewayConfig) (request : ProxyRequest) :
    RequestProg Unit :=
  Prog.ensure (do
      let tenant ← (getCurrentTenant settings request.auth).expand dbStatements
      answerProxy config request tenant)
    (sql .rollback)

end Statements

section Connections

/-- A setting in force, with the transaction that made it: the request and how many
transactions it had ended before. -/
structure InForce (ι : Type) where
  value : String
  request : ι
  transaction : ℕ

abbrev Settings (ι : Type) := Guc → Option (InForce ι)

variable {ι χ : Type}

/-- What `current_setting` reads. -/
def Settings.text (settings : Settings ι) (name : Guc) : String :=
  ((settings name).map InForce.value).getD ""

def Settings.context (settings : Settings ι) : RlsContext :=
  ⟨settings.text .tenantId, settings.text .bypassRls⟩

/-- The tenants whose protected rows the statement writes. An update finds the rows that the
policy shows. -/
def Statement.touched (db : Database) (context : RlsContext) : Statement → List Uuid
  | .write (.insertApiKey _ row) => [row.tenantId]
  | .write (.setRevokedAt keyId _) | .write (.setLastUsedAt keyId _) =>
    (((db.apiKeys.lookup keyId).filter fun row => grants context (some row.tenantId)).map
      ApiKey.tenantId).toList
  | .write (.insertAudit row) => row.tenantId.toList
  | .insertUsageRecord row => [row.tenantId]
  | _ => []

/-- A statement that was sent, with the settings in force. -/
structure Executed (ι : Type) where
  request : ι
  transaction : ℕ
  statement : Statement
  settings : Settings ι
  touched : List Uuid

/-- The committed rows; the settings of each connection; the connection that each session's
transaction is on, if it has begun; and all statements so far. -/
structure PoolShared (ι χ : Type) where
  db : Database
  settings : χ → Settings ι
  held : ι → Option χ
  transactions : ι → ℕ
  log : List (Executed ι)

def PoolShared.entry (s : PoolShared ι χ) (i : ι) (c : χ) (statement : Statement) : Executed ι :=
  ⟨i, s.transactions i, statement, s.settings c, statement.touched s.db (s.settings c).context⟩

/-- The session's own connection, or a free one. -/
def PoolShared.reaches (s : PoolShared ι χ) (i : ι) (c : χ) : Prop :=
  s.held i = some c ∨ s.held i = none ∧ ∀ j, s.held j ≠ some c

variable [DecidableEq ι] [DecidableEq χ]

def PoolShared.execute (s : PoolShared ι χ) (i : ι) (c : χ) (statement : Statement) :
    PoolShared ι χ :=
  { s with
    settings := match statement with
      | .setConfig name value => Function.update s.settings c
          (Function.update (s.settings c) name (some ⟨value, i, s.transactions i⟩))
      | _ => s.settings
    held := Function.update s.held i (some c)
    log := s.log ++ [s.entry i c statement] }

/-- The transaction ends, if there is one: its settings are undone and the connection is free. -/
def PoolShared.finish (s : PoolShared ι χ) (i : ι) (statement : Statement) : PoolShared ι χ :=
  match s.held i with
  | none => s
  | some c =>
    { s with
      settings := Function.update s.settings c fun _ => none
      held := Function.update s.held i none
      transactions := Function.update s.transactions i (s.transactions i + 1)
      log := s.log ++ [s.entry i c statement] }

/-- What Postgres answers, and which writes it takes. -/
def admits (db : Database) (context : RlsContext) : (statement : Statement) →
    StatementRet statement → Prop
  | .selectApiKey keyId, row =>
    row = (db.apiKeys.lookup keyId).filter fun row => grants context (some row.tenantId)
  | .selectTenantApiKey tenantId keyId, row =>
    row = (db.apiKeys.lookup keyId).filter fun row =>
      row.tenantId = tenantId && grants context (some row.tenantId)
  | .selectTenant id, tenant => tenant = db.tenants.lookup id
  | .write w, _ => (w.apply context db).isSome = true
  | .insertUsageRecord row, _ => fits row = true ∧ grants context (some row.tenantId) = true
  | .setConfig _ _, _ | .commit, _ | .rollback, _ => True

/-- A call that is carried out. The framework may close the session before a streamed
response is taken up or afterwards. -/
def PoolShared.serves (s : PoolShared ι χ) (i : ι) :
    (op : RequestOp) → RequestRet op → PoolShared ι χ → Prop
  | .sql .commit, _, s' => s' = s.finish i .commit
  | .sql .rollback, _, s' => s' = s.finish i .rollback
  | .sql statement, a, s' => ∃ c, s.reaches i c ∧
      admits s.db (s.settings c).context statement a ∧ s' = s.execute i c statement
  | .gateway (.beginStream _), _, s' => s' = s ∨ s' = s.finish i .rollback
  | .gateway _, _, s' | .draw _, _, s' => s' = s

/-- A call may raise before or after it took effect, and with or without the transaction being
rolled back at once. Between the calls the committed rows change in any way. -/
def requestWorld (ι χ : Type) [DecidableEq ι] [DecidableEq χ] :
    World RequestOp RequestRet Exn ι (PoolShared ι χ) Database where
  answer s i op o s' := match o with
    | .ok a => s.serves i op a s'
    | .error _ => ∃ mid, (mid = s ∨ ∃ a, s.serves i op a mid) ∧
        (s' = mid ∨ s' = mid.finish i .rollback)
  passes s db s' := s' = { s with db := db }

abbrev RequestPool (ι χ : Type) := Pool RequestOp RequestRet Exn Unit ι (PoolShared ι χ)
abbrev RequestLabel (ι : Type) := Label RequestOp RequestRet Exn ι Database

def requestPool (settings : AccountSettings) (config : GatewayConfig) (requests : ι → ProxyRequest)
    (db : Database) : RequestPool ι χ :=
  Pool.start ⟨db, fun _ _ => none, fun _ => none, fun _ => 0, []⟩ fun i =>
    handleProxy settings config (requests i)

end Connections

section Monitor

/-- The row is that of the presented key, which is not revoked, and the secret matches. -/
def verifies (settings : AccountSettings) (auth : AuthRequest) (keyId : String) (row : ApiKey) : Bool :=
  hasBearer auth.header && match parseApiKey (presentedKey auth.header) with
    | some (presented, secretPart) => presented = keyId && row.revokedAt.isNone &&
        verifyApiKeySecret settings secretPart row.hashedSecret
    | none => false

/-- What a request knows: the tenant of the verified key, the tenant it has authenticated as,
and the settings that it has made in its transaction. -/
structure RequestView where
  auth : AuthRequest
  keyTenant : Option Uuid
  tenant : Option Uuid
  made : Guc → Option String

def RequestView.start (auth : AuthRequest) : RequestView := ⟨auth, none, none, fun _ => none⟩

def RequestView.forget (view : RequestView) : RequestView := { view with made := fun _ => none }

def RequestView.bypasses (view : RequestView) : Prop :=
  view.made .tenantId = some "" ∧ view.made .bypassRls = some "on"

def RequestView.scopedTo (view : RequestView) (tenantId : Uuid) : Prop :=
  view.tenant = some tenantId ∧ view.made .tenantId = some tenantId.text ∧
    view.made .bypassRls = some "off"

def requestMonitor (settings : AccountSettings) : Monitor RequestOp RequestRet Exn RequestView where
  permits view
    | .sql (.selectApiKey _) | .sql (.write (.insertAudit _)) => view.bypasses
    | .sql (.write (.setLastUsedAt _ _)) => ∃ tenantId, view.scopedTo tenantId
    | .sql (.insertUsageRecord row) => view.scopedTo row.tenantId
    | .sql (.write _) | .sql (.selectTenantApiKey _ _) => False
    | _ => True
  answers _ _ _ := True
  advance
    | view, _, .error _ => view.forget
    | view, .sql (.setConfig name value), .ok _ =>
      { view with made := Function.update view.made name (some value) }
    | view, .sql (.selectApiKey keyId), .ok (some row) =>
      if verifies settings view.auth keyId row then { view with keyTenant := some row.tenantId }
      else view
    | view, .sql (.selectTenant id), .ok (some tenant) =>
      if view.keyTenant = some id ∧ tenant.isActive then { view with tenant := some id } else view
    | view, .sql .commit, .ok _ | view, .sql .rollback, .ok _ => view.forget
    | view, .gateway (.beginStream _), .ok _ => view.forget
    | view, _, .ok _ => view

variable {settings : AccountSettings}

/-- The two settings of `set_rls_context`. -/
def settingsFor (tenantId : Option Uuid) (bypass : Bool) : Guc → Option String
  | .tenantId => some ((tenantId.map Uuid.text).getD "")
  | .bypassRls => some (if bypass then "on" else "off")

theorem setRlsContext_holds (view : RequestView) (tenantId : Option Uuid) (bypass : Bool) :
    Holds (requestMonitor settings) (setRlsContext tenantId bypass)
      (fun r view' => match r with
        | .ok _ => view' = { view with made := settingsFor tenantId bypass }
        | .error _ => view' = view.forget) view := by
  refine ⟨trivial, fun o _ => ?_⟩
  rcases o with e | _
  · exact rfl
  refine ⟨trivial, fun o _ => ?_⟩
  rcases o with e | _
  · exact rfl
  · have both : Function.update (Function.update view.made .tenantId
        (some ((tenantId.map Uuid.text).getD ""))) .bypassRls (some (if bypass then "on" else "off")) =
        settingsFor tenantId bypass := by
      funext name
      cases name <;> rfl
    exact congrArg (fun made => { view with made := made }) both

theorem commit_holds (view : RequestView) :
    Holds (requestMonitor settings) (sql .commit) (fun _ view' => view' = view.forget) view := by
  refine ⟨trivial, fun o _ => ?_⟩
  cases o <;> exact rfl

/-- `write_audit_event`, from any state of the session. -/
theorem audit_holds (view : RequestView) (row : AuditLog) :
    Holds (requestMonitor settings) (do
      setRlsContext none true
      flush [.insertAudit row]
      sql .commit) (fun _ view' => view' = view.forget) view := by
  refine Holds.bind ((setRlsContext_holds view none true).mono fun r view' set => ?_)
  cases r with
  | error e => exact set
  | ok _ =>
    rw [set]
    refine ⟨⟨rfl, rfl⟩, fun o _ => ?_⟩
    rcases o with e | _
    · exact rfl
    · exact commit_holds _

theorem authFailure_holds {α : Type} (view : RequestView) (request : AuthRequest)
    (tenantId : Option Uuid) (detail : JsonObject) (message : String)
    {Q : Except Exn α → RequestView → Prop} (raised : ∀ e view', Q (.error e) view') :
    Holds (requestMonitor settings)
      ((authFailure request tenantId detail message : DbProg α).expand dbStatements) Q view := by
  rw [authFailure, Prog.expand_bind]
  have audit : (writeAuditEvent (dbSession []) tenantId "auth.failure" request.correlationId
      detail).expand dbStatements = (do
        setRlsContext none true
        flush [.insertAudit ⟨tenantId, "auth.failure", request.correlationId, detail⟩]
        sql .commit) := by
    simp only [writeAuditEvent, dbSession, ask, Prog.expand_bind, Prog.expand_perform]
    rfl
  rw [audit]
  refine Holds.bind ((audit_holds view _).mono fun r view' _ => ?_)
  cases r with
  | error e => exact raised e view'
  | ok _ => exact raised _ view'

/-- Where authentication ends: with the tenant it returns. -/
def authenticates (r : Except Exn TenantContext) (view : RequestView) : Prop :=
  match r with
  | .ok tenant => view.tenant = some tenant.tenantId
  | .error _ => True

theorem resolveTenant_holds {view : RequestView} (request : AuthRequest) (keyId : String) (row : ApiKey)
    (verified : view.keyTenant = some row.tenantId) :
    Holds (requestMonitor settings) ((resolveTenant request keyId row).expand dbStatements)
      authenticates view := by
  rw [resolveTenant]
  simp only [ask, Prog.expand_bind, Prog.expand_perform]
  refine Holds.bind ((setRlsContext_holds view (some row.tenantId) false).mono fun r view' set => ?_)
  cases r with
  | error e => trivial
  | ok _ =>
    rw [set]
    refine ⟨trivial, fun o _ => ?_⟩
    rcases o with e | tenant
    · trivial
    cases tenant with
    | none => exact authFailure_holds _ _ _ _ _ fun _ _ => trivial
    | some tenant =>
      by_cases active : tenant.isActive = true
      · -- The tenant is read and active, so what follows runs for it.
        have known : (requestMonitor settings).advance
            { view with made := settingsFor (some row.tenantId) false } (.sql (.selectTenant row.tenantId))
            (.ok (some tenant)) = { view with
              made := settingsFor (some row.tenantId) false
              tenant := some row.tenantId } := if_pos ⟨verified, active⟩
        rw [known]
        change Holds (requestMonitor settings) (Prog.expand dbStatements (if tenant.isActive = true then _ else _))
          authenticates _
        rw [if_pos active]
        refine ⟨trivial, fun o _ => ?_⟩
        rcases o with e | now
        · trivial
        refine ⟨⟨row.tenantId, rfl, rfl, rfl⟩, fun o _ => ?_⟩
        rcases o with e | _
        · trivial
        refine ⟨trivial, fun o _ => ?_⟩
        rcases o with e | _
        · trivial
        · exact rfl
      · change Holds (requestMonitor settings) (Prog.expand dbStatements (if tenant.isActive = true then _ else _))
          authenticates _
        rw [if_neg active]
        exact authFailure_holds _ _ _ _ _ fun _ _ => trivial

theorem getCurrentTenant_holds (auth : AuthRequest) :
    Holds (requestMonitor settings) ((getCurrentTenant settings auth).expand dbStatements) authenticates
      (.start auth) := by
  have failure (view : RequestView) (tenantId : Option Uuid) (detail : JsonObject) (message : String) :
      Holds (requestMonitor settings)
        ((authFailure auth tenantId detail message).expand dbStatements) authenticates view :=
    authFailure_holds view auth tenantId detail message fun _ _ => trivial
  rw [getCurrentTenant]
  split
  case isTrue => exact failure _ _ _ _
  case isFalse bearer =>
    split
    case h_1 => exact failure _ _ _ _
    case h_2 keyId secretPart parsed =>
      simp only [ask, Prog.expand_bind, Prog.expand_perform]
      refine Holds.bind ((setRlsContext_holds _ none true).mono fun r view' set => ?_)
      cases r with
      | error e => trivial
      | ok _ =>
        rw [set]
        refine ⟨⟨rfl, rfl⟩, fun o _ => ?_⟩
        rcases o with e | row
        · trivial
        cases row with
        | none => exact failure _ _ _ _
        | some row =>
          change Holds (requestMonitor settings)
            ((checkApiKey settings auth keyId secretPart row).expand dbStatements) authenticates _
          rw [checkApiKey]
          split
          case isTrue => exact failure _ _ _ _
          case isFalse live =>
            split
            case isTrue => exact failure _ _ _ _
            case isFalse verified =>
              refine resolveTenant_holds auth keyId row ?_
              have checked : verifies settings auth keyId row = true := by
                rw [Bool.not_eq_false] at bearer verified
                rw [verifies, bearer, parsed]
                simpa [verified] using live
              exact congrArg RequestView.keyTenant (if_pos checked)

/-- The program keeps to the monitor for a request that has authenticated as the tenant. -/
def ServesTenant (settings : AccountSettings) (tenantId : Uuid) {α : Type} (p : RequestProg α) : Prop :=
  ∀ view : RequestView, view.tenant = some tenantId →
    Holds (requestMonitor settings) p (fun _ view' => view'.tenant = some tenantId) view

theorem servesTenant_composes (settings : AccountSettings) (tenantId : Uuid) :
    Composes fun {_} (p : RequestProg _) => ServesTenant settings tenantId p :=
  composes_invariant (requestMonitor settings) fun view => view.tenant = some tenantId

theorem outside_serves (tenantId : Uuid) (op : GatewayOp) :
    ServesTenant settings tenantId (send (.gateway op)) := by
  intro view tenant
  refine ⟨trivial, fun o _ => ?_⟩
  rcases o with e | a
  · exact tenant
  · cases op <;> exact tenant

/-- `record_usage` for the request's own tenant. Between its context and the row only the cost is
calculated. -/
theorem recordUsage_serves (settings : AccountSettings) (request : ChatRequest) (providerName model : String)
    (promptTokens completionTokens : ℤ) (cacheHit : Bool) :
    ServesTenant settings request.tenant.tenantId
      ((recordUsage request providerName model promptTokens completionTokens cacheHit).expand
        gatewayStatements) := by
  have composes := servesTenant_composes settings request.tenant.tenantId
  have metric (m : Metric) : ServesTenant settings request.tenant.tenantId (send (.gateway (.metric m))) :=
    outside_serves _ _
  intro view tenant
  simp only [recordUsage, usageSession, call, Prog.expand_bind, Prog.expand_perform, gatewayStatements,
    Prog.bind_assoc]
  refine Holds.bind ((setRlsContext_holds view (some request.tenant.tenantId) false).mono
    fun r view' set => ?_)
  rcases r with e | _
  · rw [set]
    exact tenant
  rw [set]
  refine ⟨trivial, fun o _ => ?_⟩
  rcases o with e | cost
  · exact tenant
  refine ⟨⟨tenant, rfl, rfl⟩, fun o _ => ?_⟩
  rcases o with e | _
  · exact tenant
  refine Holds.bind ((commit_holds _).mono fun r view'' forgotten => ?_)
  rw [forgotten]
  rcases r with e | _
  · exact tenant
  have counted := composes.bind (metric (.chatCompletions providerName .success)) fun _ =>
    composes.bind (metric (.usageCostUsd providerName cost)) fun _ =>
      composes.bind (metric (.usageTokens providerName "prompt" promptTokens)) fun _ =>
        metric (.usageTokens providerName "completion" completionTokens)
  exact counted _ tenant

theorem requestParts (settings : AccountSettings) (config : GatewayConfig) (request : ChatRequest) :
    RequestParts config request fun {_} (p : GatewayProg _) =>
      ServesTenant settings request.tenant.tenantId (p.expand gatewayStatements) where
  composes := (servesTenant_composes settings request.tenant.tenantId).expand gatewayStatements
  calls op _ kind := by
    rw [call, Prog.expand_perform]
    cases op with
    | setRlsContext tenantId bypass => cases kind
    | commitAuditLog row => cases kind
    | commitUsageRecord row => cases kind
    | _ => exact outside_serves _ _
  audits eventType detail := by
    intro view tenant
    simp only [writeAuditEvent, auditSession, call, Prog.expand_bind, Prog.expand_perform]
    refine (audit_holds view _).mono fun r view' forgotten => ?_
    rw [forgotten]
    exact tenant
  records providerName _ := recordUsage_serves settings request providerName

theorem handleProxy_holds (settings : AccountSettings) (config : GatewayConfig) (request : ProxyRequest) :
    Holds (requestMonitor settings) (handleProxy settings config request) (fun _ _ => True)
      (.start request.auth) := by
  rw [handleProxy, holds_ensure]
  have answered : Holds (requestMonitor settings) (do
      let tenant ← (getCurrentTenant settings request.auth).expand dbStatements
      answerProxy config request tenant) (fun _ _ => True) (.start request.auth) := by
    refine Holds.bind ((getCurrentTenant_holds request.auth).mono fun r view authenticated => ?_)
    cases r with
    | error e => trivial
    | ok tenant =>
      change Holds (requestMonitor settings) (answerProxy config request tenant) (fun _ _ => True) view
      rw [answerProxy]
      split
      · trivial
      · refine Holds.bind (Holds.mono ((requestParts settings config _).serve view authenticated) ?_)
        intro r view' _
        cases r <;> trivial
  exact answered.mono fun _ _ _ => ⟨trivial, fun _ _ => trivial⟩

end Monitor

section Secure
variable {ι χ : Type}

/-- A statement on `api_keys`, `audit_log`, `usage_records` or `usage_rollups`. -/
def Statement.isProtected : Statement → Bool
  | .selectApiKey _ | .selectTenantApiKey _ _ | .insertUsageRecord _ => true
  | .write (.insertTenant _ _) | .write (.updateTenant _ _) => false
  | .write _ => true
  | .setConfig _ _ | .selectTenant _ | .commit | .rollback => false

/-- An insert into `usage_records` or an update of `api_keys`. -/
def Statement.isScoped : Statement → Bool
  | .insertUsageRecord _ | .write (.setRevokedAt _ _) | .write (.setLastUsedAt _ _) => true
  | _ => false

/-- What a statement must keep to, given the tenants that its request has authenticated as. -/
structure Executed.Secure (e : Executed ι) (authenticated : Uuid → Prop) : Prop where
  bypassed : e.statement.isProtected = true → e.settings.text .bypassRls = "on" →
    (∃ keyId, e.statement = .selectApiKey keyId) ∨ ∃ row, e.statement = .write (.insertAudit row)
  ofTenant : e.statement.isScoped = true → ∃ tenantId, authenticated tenantId ∧
    e.settings.text .tenantId = tenantId.text ∧ e.settings.text .bypassRls = "off" ∧
    ∀ owner ∈ e.touched, owner = tenantId
  current : ∀ name v, e.settings name = some v → v.request = e.request ∧ v.transaction = e.transaction
  made : e.statement.isProtected = true → ∀ name, (e.settings name).isSome = true

theorem Executed.Secure.mono {e : Executed ι} {authenticated authenticated' : Uuid → Prop}
    (h : e.Secure authenticated) (imp : ∀ tenantId, authenticated tenantId → authenticated' tenantId) :
    e.Secure authenticated' where
  bypassed := h.bypassed
  ofTenant isScoped := by
    obtain ⟨tenantId, known, rest⟩ := h.ofTenant isScoped
    exact ⟨tenantId, imp tenantId known, rest⟩
  current := h.current
  made := h.made

/-- No two sessions hold one connection; a setting in force was made by the transaction that
holds the connection; and what a session has made in its transaction is in force. -/
structure Guarded (s : PoolShared ι χ) (made : ι → Guc → Option String) : Prop where
  alone : ∀ i j c, s.held i = some c → s.held j = some c → i = j
  own : ∀ c name v, s.settings c name = some v →
    s.held v.request = some c ∧ v.transaction = s.transactions v.request
  linked : ∀ i name value, made i name = some value →
    ∃ c, s.held i = some c ∧ s.settings c name = some ⟨value, i, s.transactions i⟩

variable {s : PoolShared ι χ} {made : ι → Guc → Option String} {i : ι} {c : χ}

theorem Guarded.current (h : Guarded s made) (reaches : s.reaches i c) {name : Guc} {v : InForce ι}
    (inForce : s.settings c name = some v) : v.request = i ∧ v.transaction = s.transactions i := by
  obtain ⟨holds, transaction⟩ := h.own c name v inForce
  rcases reaches with own | ⟨_, free⟩
  · have same := h.alone _ _ c holds own
    rw [same] at transaction
    exact ⟨same, transaction⟩
  · exact absurd holds (free _)

theorem reaches_same (reaches : s.reaches i c) {c' : χ} (holds : s.held i = some c') : c' = c := by
  rcases reaches with own | ⟨none, _⟩
  · rw [holds] at own
    exact Option.some.inj own
  · rw [holds] at none
    cases none

theorem Guarded.text (h : Guarded s made) (reaches : s.reaches i c) {name : Guc} {value : String}
    (isMade : made i name = some value) :
    (s.settings c name).isSome = true ∧ (s.settings c).text name = value := by
  obtain ⟨c', holds, inForce⟩ := h.linked i name value isMade
  rw [reaches_same reaches holds] at inForce
  rw [Settings.text, inForce]
  exact ⟨rfl, rfl⟩

theorem granted_tenant {tenantId owner : Uuid}
    (granted : grants ⟨tenantId.text, "off"⟩ (some owner) = true) : owner = tenantId := by
  have texts : owner.text = tenantId.text := by
    simpa [grants] using granted
  obtain ⟨text, _⟩ := owner
  obtain ⟨text', _⟩ := tenantId
  obtain rfl : text = text' := texts
  rfl

theorem permitted_cases {settings : AccountSettings} {view : RequestView} {statement : Statement}
    (permitted : (requestMonitor settings).permits view (.sql statement)) :
    (view.bypasses ∧
      ((∃ keyId, statement = .selectApiKey keyId) ∨ ∃ row, statement = .write (.insertAudit row))) ∨
    (∃ tenantId, view.scopedTo tenantId ∧
      ((∃ row, statement = .insertUsageRecord row ∧ row.tenantId = tenantId) ∨
        ∃ keyId now, statement = .write (.setLastUsedAt keyId now))) ∨
    statement.isProtected = false ∧ statement.isScoped = false := by
  cases statement with
  | selectApiKey keyId => exact .inl ⟨permitted, .inl ⟨keyId, rfl⟩⟩
  | selectTenantApiKey tenantId keyId => exact permitted.elim
  | insertUsageRecord row => exact .inr (.inl ⟨row.tenantId, permitted, .inl ⟨row, rfl, rfl⟩⟩)
  | write w =>
    cases w with
    | insertAudit row => exact .inl ⟨permitted, .inr ⟨row, rfl⟩⟩
    | setLastUsedAt keyId now =>
      obtain ⟨tenantId, isScoped⟩ := permitted
      exact .inr (.inl ⟨tenantId, isScoped, .inr ⟨keyId, now, rfl⟩⟩)
    | _ => exact permitted.elim
  | _ => exact .inr (.inr ⟨rfl, rfl⟩)

theorem touched_own {db : Database} {tenantId : Uuid} {statement : Statement}
    (writes : (∃ row, statement = .insertUsageRecord row ∧ row.tenantId = tenantId) ∨
      ∃ keyId now, statement = .write (.setLastUsedAt keyId now)) :
    ∀ owner ∈ statement.touched db ⟨tenantId.text, "off"⟩, owner = tenantId := by
  rcases writes with ⟨row, rfl, rfl⟩ | ⟨keyId, now, rfl⟩
  · intro owner mem
    exact List.mem_singleton.mp mem
  · intro owner mem
    obtain ⟨row, found, rfl⟩ := Option.map_eq_some_iff.mp (Option.mem_toList.mp mem)
    exact granted_tenant (Option.filter_eq_some_iff.mp found).2

theorem Guarded.entry_unprotected (h : Guarded s made) (reaches : s.reaches i c) {statement : Statement}
    (unprotected : statement.isProtected = false) (unscoped : statement.isScoped = false)
    (authenticated : Uuid → Prop) : (s.entry i c statement).Secure authenticated := by
  refine ⟨fun isProtected => ?_, fun isScoped => ?_, fun _ _ inForce => h.current reaches inForce,
    fun isProtected => ?_⟩
  · rw [PoolShared.entry, unprotected] at isProtected
    cases isProtected
  · rw [PoolShared.entry, unscoped] at isScoped
    cases isScoped
  · rw [PoolShared.entry, unprotected] at isProtected
    cases isProtected

theorem Guarded.entry (h : Guarded s made) (reaches : s.reaches i c) {settings : AccountSettings}
    {view : RequestView} (own : made i = view.made) {statement : Statement}
    (permitted : (requestMonitor settings).permits view (.sql statement))
    {authenticated : Uuid → Prop} (known : ∀ tenantId, view.tenant = some tenantId → authenticated tenantId) :
    (s.entry i c statement).Secure authenticated := by
  have text {name : Guc} {value : String} (isMade : view.made name = some value) :
      (s.settings c name).isSome = true ∧ (s.settings c).text name = value := by
    rw [← own] at isMade
    exact h.text reaches isMade
  have current : ∀ name v, s.settings c name = some v →
      v.request = i ∧ v.transaction = s.transactions i := fun _ _ inForce => h.current reaches inForce
  rcases permitted_cases permitted with ⟨⟨tenantId, on⟩, lookup⟩ |
    ⟨tenantId, ⟨tenant, ofTenant, off⟩, writes⟩ | ⟨unprotected, unscoped⟩
  · refine ⟨fun _ _ => lookup, fun isScoped => ?_, current, fun _ name => ?_⟩
    · rcases lookup with ⟨keyId, rfl⟩ | ⟨row, rfl⟩ <;> cases isScoped
    · cases name with
      | tenantId => exact (text tenantId).1
      | bypassRls => exact (text on).1
  · have context : (s.settings c).context = ⟨tenantId.text, "off"⟩ := by
      rw [Settings.context, (text ofTenant).2, (text off).2]
    refine ⟨fun _ on => ?_, fun _ => ⟨tenantId, known _ tenant, (text ofTenant).2, (text off).2, ?_⟩,
      current, fun _ name => ?_⟩
    · change (s.settings c).text .bypassRls = "on" at on
      rw [(text off).2] at on
      exact absurd on (by decide)
    · change ∀ owner ∈ statement.touched s.db (s.settings c).context, owner = tenantId
      rw [context]
      exact touched_own writes
    · cases name with
      | tenantId => exact (text ofTenant).1
      | bypassRls => exact (text off).1
  · exact h.entry_unprotected reaches unprotected unscoped authenticated

variable [DecidableEq ι]

theorem forgotten {j : ι} {name : Guc} {value : String}
    (isMade : Function.update made i (fun _ => none) j name = some value) :
    j ≠ i ∧ made j name = some value := by
  rcases update_cases (Q := fun f : Guc → Option String => f name = some value) isMade with ⟨_, no⟩ | other
  · cases no
  · exact other

theorem Guarded.forget (h : Guarded s made) (i : ι) :
    Guarded s (Function.update made i fun _ => none) where
  alone := h.alone
  own := h.own
  linked j name value isMade := h.linked j name value (forgotten isMade).2

omit [DecidableEq ι] in
theorem Guarded.database (h : Guarded s made) (db : Database) : Guarded { s with db := db } made :=
  ⟨h.alone, h.own, h.linked⟩

theorem released {j : ι} {c' : χ} (holds : Function.update s.held i none j = some c') :
    s.held j = some c' := by
  rcases update_cases (Q := (· = some c')) holds with ⟨_, no⟩ | ⟨_, held⟩
  · cases no
  · exact held

theorem reaches_keeps (reaches : s.reaches i c) {j : ι} {c' : χ} (holds : s.held j = some c') :
    Function.update s.held i (some c) j = some c' := by
  by_cases same : j = i
  · rw [same] at holds
    rw [same, Function.update_self, reaches_same reaches holds]
  · rw [Function.update_of_ne same]
    exact holds

variable [DecidableEq χ]

theorem Guarded.finish (h : Guarded s made) (i : ι) (statement : Statement) :
    Guarded (s.finish i statement) (Function.update made i fun _ => none) := by
  rw [PoolShared.finish]
  split
  case h_1 => exact h.forget i
  case h_2 c holds =>
    -- The settings that go are those of the connection that this session holds.
    have others {j : ι} {c' : χ} (apart : j ≠ i) (other : s.held j = some c') : c' ≠ c := by
      rintro rfl
      exact apart (h.alone j i _ other holds)
    constructor
    case alone =>
      exact fun j k c' first second => h.alone j k c' (released first) (released second)
    case own =>
      intro c' name v inForce
      change Function.update s.settings c (fun _ => none) c' name = some v at inForce
      by_cases same : c' = c
      · rw [same, Function.update_self] at inForce
        cases inForce
      · rw [Function.update_of_ne same] at inForce
        obtain ⟨holder, transaction⟩ := h.own c' name v inForce
        have apart : v.request ≠ i := by
          intro mine
          rw [mine, holds] at holder
          exact same (Option.some.inj holder).symm
        exact ⟨(Function.update_of_ne apart _ _).trans holder,
          transaction.trans (Function.update_of_ne apart _ _).symm⟩
    case linked =>
      intro j name value isMade
      obtain ⟨apart, isMade⟩ := forgotten isMade
      obtain ⟨c', holder, inForce⟩ := h.linked j name value isMade
      refine ⟨c', (Function.update_of_ne apart _ _).trans holder, ?_⟩
      change Function.update s.settings c (fun _ => none) c' name = some ⟨value, j,
        Function.update s.transactions i _ j⟩
      rw [Function.update_of_ne (others apart holder), Function.update_of_ne apart]
      exact inForce

/-- What a session has made after the statement. -/
def Statement.makes (statement : Statement) (made : Guc → Option String) : Guc → Option String :=
  match statement with
  | .setConfig name value => Function.update made name (some value)
  | _ => made

theorem execute_apart {c' : χ} (apart : c' ≠ c) (statement : Statement) :
    (s.execute i c statement).settings c' = s.settings c' := by
  cases statement with
  | setConfig name value => exact Function.update_of_ne apart _ _
  | _ => rfl

theorem execute_own (s : PoolShared ι χ) (i : ι) (c : χ) (statement : Statement) (name : Guc) :
    ((s.execute i c statement).settings c name = s.settings c name ∧
        ∀ made, statement.makes made name = made name) ∨
      ∃ value, (s.execute i c statement).settings c name = some ⟨value, i, s.transactions i⟩ ∧
        ∀ made, statement.makes made name = some value := by
  cases statement with
  | setConfig name' value =>
    have updated : (s.execute i c (.setConfig name' value)).settings c =
        Function.update (s.settings c) name' (some ⟨value, i, s.transactions i⟩) :=
      Function.update_self _ _ _
    rw [updated]
    by_cases named : name = name'
    · rw [named, Function.update_self]
      exact .inr ⟨value, rfl, fun _ => Function.update_self _ _ _⟩
    · rw [Function.update_of_ne named]
      exact .inl ⟨rfl, fun _ => Function.update_of_ne named _ _⟩
  | _ => exact .inl ⟨rfl, fun _ => rfl⟩

theorem Guarded.execute (h : Guarded s made) (reaches : s.reaches i c) (statement : Statement) :
    Guarded (s.execute i c statement) (Function.update made i (statement.makes (made i))) := by
  have others {j : ι} {c' : χ} (apart : j ≠ i) (holds : s.held j = some c') : c' ≠ c := by
    rintro rfl
    rcases reaches with own | ⟨_, free⟩
    · exact apart (h.alone j i _ holds own)
    · exact free j holds
  constructor
  case alone =>
    intro j k c'
    refine unique_update (Q := (· = some c')) (fun j k => h.alone j k c') ?_ j k
    intro same j apart holds
    exact others apart holds (Option.some.inj same).symm
  case own =>
    intro c' name v inForce
    by_cases same : c' = c
    · rw [same] at inForce ⊢
      rcases execute_own s i c statement name with ⟨old, _⟩ | ⟨value, new, _⟩
      · rw [old] at inForce
        obtain ⟨holds, transaction⟩ := h.own c name v inForce
        exact ⟨reaches_keeps reaches holds, transaction⟩
      · rw [new] at inForce
        obtain rfl := Option.some.inj inForce
        exact ⟨Function.update_self _ _ _, rfl⟩
    · rw [execute_apart same] at inForce
      obtain ⟨holds, transaction⟩ := h.own c' name v inForce
      exact ⟨reaches_keeps reaches holds, transaction⟩
  case linked =>
    intro j name value isMade
    by_cases mine : j = i
    · rw [mine, Function.update_self] at isMade
      rw [mine]
      rcases execute_own s i c statement name with ⟨old, unmade⟩ | ⟨value', new, makes⟩
      · rw [unmade] at isMade
        obtain ⟨c', holds, inForce⟩ := h.linked i name value isMade
        rw [reaches_same reaches holds] at inForce
        exact ⟨c, Function.update_self _ _ _, old.trans inForce⟩
      · rw [makes] at isMade
        obtain rfl := Option.some.inj isMade
        exact ⟨c, Function.update_self _ _ _, new⟩
    · rw [Function.update_of_ne mine] at isMade
      obtain ⟨c', holds, inForce⟩ := h.linked j name value isMade
      refine ⟨c', reaches_keeps reaches holds, ?_⟩
      rw [execute_apart (others mine holds)]
      exact inForce

/-- A session without leaks: what is in force is in order, and so is every statement so far. -/
structure Sound (authenticated : ι → Uuid → Prop) (s : PoolShared ι χ)
    (made : ι → Guc → Option String) : Prop where
  guarded : Guarded s made
  secure : ∀ e ∈ s.log, e.Secure (authenticated e.request)

variable {authenticated : ι → Uuid → Prop}

omit [DecidableEq ι] [DecidableEq χ] in
theorem Sound.logged (h : Sound authenticated s made) {statement : Statement}
    (entry : (s.entry i c statement).Secure (authenticated i)) :
    ∀ e ∈ s.log ++ [s.entry i c statement], e.Secure (authenticated e.request) := by
  intro e mem
  rcases List.mem_append.mp mem with mem | mem
  · exact h.secure e mem
  · rw [List.mem_singleton.mp mem]
    exact entry

omit [DecidableEq χ] in
theorem Sound.forget (h : Sound authenticated s made) (i : ι) :
    Sound authenticated s (Function.update made i fun _ => none) :=
  ⟨h.guarded.forget i, h.secure⟩

theorem Sound.finish (h : Sound authenticated s made) (i : ι) (statement : Statement)
    (unprotected : statement.isProtected = false) (unscoped : statement.isScoped = false) :
    Sound authenticated (s.finish i statement) (Function.update made i fun _ => none) := by
  refine ⟨h.guarded.finish i statement, ?_⟩
  rw [PoolShared.finish]
  split
  case h_1 => exact h.secure
  case h_2 c holds =>
    exact h.logged (h.guarded.entry_unprotected (.inl holds) unprotected unscoped _)

theorem serves_sql {s' : PoolShared ι χ} {statement : Statement} {a : StatementRet statement}
    (served : s.serves i (.sql statement) a s') :
    ((statement = .commit ∨ statement = .rollback) ∧ s' = s.finish i statement) ∨
      (statement ≠ .commit ∧ statement ≠ .rollback) ∧
        ∃ c, s.reaches i c ∧ s' = s.execute i c statement := by
  cases statement with
  | commit => exact .inl ⟨.inl rfl, served⟩
  | rollback => exact .inl ⟨.inr rfl, served⟩
  | _ =>
    obtain ⟨c, reaches, _, rfl⟩ := served
    refine .inr ⟨⟨fun same => ?_, fun same => ?_⟩, c, reaches, rfl⟩
    · cases same
    · cases same

theorem advance_made {settings : AccountSettings} (view : RequestView) {statement : Statement}
    (a : StatementRet statement) (goesOn : statement ≠ .commit ∧ statement ≠ .rollback) :
    ((requestMonitor settings).advance view (.sql statement) (.ok a)).made = statement.makes view.made := by
  cases statement with
  | commit => exact absurd rfl goesOn.1
  | rollback => exact absurd rfl goesOn.2
  | selectApiKey keyId =>
    cases a with
    | none => rfl
    | some row =>
      simp only [requestMonitor]
      split <;> rfl
  | selectTenant id =>
    cases a with
    | none => rfl
    | some tenant =>
      simp only [requestMonitor]
      split <;> rfl
  | _ => rfl

theorem Sound.serve (h : Sound authenticated s made) {settings : AccountSettings} {view : RequestView}
    (own : made i = view.made) (known : ∀ tenantId, view.tenant = some tenantId → authenticated i tenantId)
    {op : RequestOp} {a : RequestRet op} {s' : PoolShared ι χ}
    (permitted : (requestMonitor settings).permits view op) (served : s.serves i op a s') :
    Sound authenticated s'
      (Function.update made i ((requestMonitor settings).advance view op (.ok a)).made) := by
  have unmoved : Sound authenticated s (Function.update made i view.made) := by
    rw [← own, Function.update_eq_self]
    exact h
  cases op with
  | sql statement =>
    rcases serves_sql served with ⟨rfl | rfl, rfl⟩ | ⟨goesOn, c, reaches, rfl⟩
    · exact h.finish i .commit rfl rfl
    · exact h.finish i .rollback rfl rfl
    · rw [advance_made view a goesOn, ← own]
      refine ⟨h.guarded.execute reaches statement, ?_⟩
      exact h.logged (h.guarded.entry reaches own permitted known)
  | draw op =>
    obtain rfl := served
    exact unmoved
  | gateway op =>
    cases op with
    | beginStream source =>
      rcases served with rfl | rfl
      · exact h.forget i
      · exact h.finish i .rollback rfl rfl
    | _ =>
      obtain rfl := served
      exact unmoved

theorem Sound.raise (h : Sound authenticated s made) {settings : AccountSettings} {view : RequestView}
    (own : made i = view.made) (known : ∀ tenantId, view.tenant = some tenantId → authenticated i tenantId)
    {op : RequestOp} {mid s' : PoolShared ι χ} (permitted : (requestMonitor settings).permits view op)
    (served : mid = s ∨ ∃ a, s.serves i op a mid) (ended : s' = mid ∨ s' = mid.finish i .rollback) :
    Sound authenticated s' (Function.update made i fun _ => none) := by
  have before : Sound authenticated mid (Function.update made i fun _ => none) := by
    rcases served with rfl | ⟨a, served⟩
    · exact h.forget i
    · have after := (h.serve own known permitted served).forget i
      rw [Function.update_idem] at after
      exact after
  rcases ended with rfl | rfl
  · exact before
  · have after := before.finish i .rollback rfl rfl
    rw [Function.update_idem] at after
    exact after

end Secure

section Runs
variable {ι χ : Type} {settings : AccountSettings} {config : GatewayConfig} {requests : ι → ProxyRequest}

abbrev RequestEvent := Event RequestOp RequestRet Exn

/-- The calls of a request show that it presented a live key of the tenant, and that the
tenant is active. -/
def AuthenticatedAs (settings : AccountSettings) (auth : AuthRequest) (calls : List RequestEvent)
    (tenantId : Uuid) : Prop :=
  ∃ keyId row tenant, ⟨.sql (.selectApiKey keyId), .ok (some row)⟩ ∈ calls ∧
    verifies settings auth keyId row = true ∧ row.tenantId = tenantId ∧
    ⟨.sql (.selectTenant tenantId), .ok (some tenant)⟩ ∈ calls ∧ tenant.isActive = true

theorem advance_cases (settings : AccountSettings) (view : RequestView) (op : RequestOp) (o : Except Exn (RequestRet op)) :
    ((requestMonitor settings).advance view op o).auth = view.auth ∧
    (((requestMonitor settings).advance view op o).keyTenant = view.keyTenant ∨
      ∃ keyId row, (⟨op, o⟩ : RequestEvent) = ⟨.sql (.selectApiKey keyId), .ok (some row)⟩ ∧
        verifies settings view.auth keyId row = true ∧
        ((requestMonitor settings).advance view op o).keyTenant = some row.tenantId) ∧
    (((requestMonitor settings).advance view op o).tenant = view.tenant ∨
      ∃ id tenant, (⟨op, o⟩ : RequestEvent) = ⟨.sql (.selectTenant id), .ok (some tenant)⟩ ∧
        tenant.isActive = true ∧ view.keyTenant = some id ∧
        ((requestMonitor settings).advance view op o).tenant = some id) := by
  cases op with
  | sql statement =>
    rcases o with e | a
    · exact ⟨rfl, .inl rfl, .inl rfl⟩
    cases statement with
    | selectApiKey keyId =>
      cases a with
      | none => exact ⟨rfl, .inl rfl, .inl rfl⟩
      | some row =>
        simp only [requestMonitor]
        split
        case isTrue verified => exact ⟨rfl, .inr ⟨keyId, row, rfl, verified, rfl⟩, .inl rfl⟩
        case isFalse => exact ⟨rfl, .inl rfl, .inl rfl⟩
    | selectTenant id =>
      cases a with
      | none => exact ⟨rfl, .inl rfl, .inl rfl⟩
      | some tenant =>
        simp only [requestMonitor]
        split
        case isTrue known => exact ⟨rfl, .inl rfl, .inr ⟨id, tenant, rfl, known.2, known.1, rfl⟩⟩
        case isFalse => exact ⟨rfl, .inl rfl, .inl rfl⟩
    | _ => exact ⟨rfl, .inl rfl, .inl rfl⟩
  | draw op => cases o <;> exact ⟨rfl, .inl rfl, .inl rfl⟩
  | gateway op =>
    rcases o with e | a
    · exact ⟨rfl, .inl rfl, .inl rfl⟩
    · cases op <;> exact ⟨rfl, .inl rfl, .inl rfl⟩

theorem AuthenticatedAs.mono {auth : AuthRequest} {calls calls' : List RequestEvent} {tenantId : Uuid}
    (h : AuthenticatedAs settings auth calls tenantId) (sub : ∀ e ∈ calls, e ∈ calls') :
    AuthenticatedAs settings auth calls' tenantId := by
  obtain ⟨keyId, row, tenant, found, verified, owner, read, active⟩ := h
  exact ⟨keyId, row, tenant, sub _ found, verified, owner, sub _ read, active⟩

theorem view_authenticated (auth : AuthRequest) (calls : List RequestEvent) :
    ((requestMonitor settings).after (.start auth) calls).auth = auth ∧
    (∀ tenantId, ((requestMonitor settings).after (.start auth) calls).keyTenant = some tenantId →
      ∃ keyId row, ⟨.sql (.selectApiKey keyId), .ok (some row)⟩ ∈ calls ∧
        verifies settings auth keyId row = true ∧ row.tenantId = tenantId) ∧
    ∀ tenantId, ((requestMonitor settings).after (.start auth) calls).tenant = some tenantId →
      AuthenticatedAs settings auth calls tenantId := by
  induction calls using List.reverseRecOn with
  | nil =>
    refine ⟨rfl, fun _ no => ?_, fun _ no => ?_⟩
    · cases no
    · cases no
  | append_singleton calls e ih =>
    obtain ⟨sameAuth, byKey, byTenant⟩ := ih
    obtain ⟨op, o⟩ := e
    rw [Monitor.after_concat]
    obtain ⟨auth', keyed, named⟩ := advance_cases settings
      ((requestMonitor settings).after (.start auth) calls) op o
    have earlier : ∀ e ∈ calls, e ∈ calls ++ [(⟨op, o⟩ : RequestEvent)] :=
      fun e mem => List.mem_append_left _ mem
    have last : (⟨op, o⟩ : RequestEvent) ∈ calls ++ [⟨op, o⟩] := List.mem_append_right _ (.head _)
    refine ⟨auth'.trans sameAuth, fun tenantId known => ?_, fun tenantId known => ?_⟩
    · rcases keyed with same | ⟨keyId, row, event, verified, new⟩
      · rw [same] at known
        obtain ⟨keyId, row, found, rest⟩ := byKey tenantId known
        exact ⟨keyId, row, earlier _ found, rest⟩
      · rw [new] at known
        rw [event] at last ⊢
        rw [sameAuth] at verified
        exact ⟨keyId, row, last, verified, Option.some.inj known⟩
    · rcases named with same | ⟨id, tenant, event, active, key, new⟩
      · rw [same] at known
        exact (byTenant tenantId known).mono earlier
      · rw [new] at known
        obtain rfl := Option.some.inj known
        obtain ⟨keyId, row, found, verified, owner⟩ := byKey id key
        refine ⟨keyId, row, tenant, earlier _ found, verified, owner, ?_, active⟩
        rw [event] at last ⊢
        exact last

abbrev RequestPool.view (settings : AccountSettings) (requests : ι → ProxyRequest) (p : RequestPool ι χ) :
    ι → RequestView :=
  p.monitored (requestMonitor settings) fun i => .start (requests i).auth

/-- The tenants that each request has authenticated as so far. -/
def RequestPool.authenticated (settings : AccountSettings) (requests : ι → ProxyRequest)
    (p : RequestPool ι χ) (i : ι) : Uuid → Prop :=
  AuthenticatedAs settings (requests i).auth (p.history i)

structure PoolInvariant (settings : AccountSettings) (requests : ι → ProxyRequest) (p : RequestPool ι χ) :
    Prop where
  tracked : p.Tracked (requestMonitor settings) (fun _ _ _ => True) fun i => .start (requests i).auth
  sound : Sound (p.authenticated settings requests) p.shared fun i => (p.view settings requests i).made

theorem PoolInvariant.start (settings : AccountSettings) (config : GatewayConfig)
    (requests : ι → ProxyRequest) (db : Database) :
    PoolInvariant settings requests (requestPool settings config requests db : RequestPool ι χ) where
  tracked := Pool.start_tracked fun i => handleProxy_holds settings config (requests i)
  sound := by
    refine ⟨⟨?_, ?_, ?_⟩, ?_⟩
    · exact fun _ _ _ no => by cases no
    · exact fun _ _ _ no => by cases no
    · exact fun _ _ _ no => by cases no
    · exact fun _ mem => by cases mem

variable [DecidableEq ι] [DecidableEq χ]

theorem pool_step (p : RequestPool ι χ) (l : RequestLabel ι) (p' : RequestPool ι χ)
    (h : PoolInvariant settings requests p) (step : Step (requestWorld ι χ) p l p') :
    PoolInvariant settings requests p' := by
  obtain ⟨tracked, moved⟩ := step_cases (fun _ _ _ _ _ _ _ => trivial) h.tracked step
  -- What the requests have shown so far, they have shown afterwards too.
  have later {s : PoolShared ι χ} {made : ι → Guc → Option String}
      (sound : Sound (p.authenticated settings requests) s made) :
      Sound (p'.authenticated settings requests) s made :=
    ⟨sound.guarded, fun e mem => (sound.secure e mem).mono fun _ shown =>
      AuthenticatedAs.mono shown fun _ mem => step.history_mono _ mem⟩
  refine ⟨tracked, later ?_⟩
  rcases moved with ⟨i, op, o, rfl, permitted, answered, views⟩ | ⟨db, rfl, moved, views⟩
  · have views : p'.view settings requests = Function.update (p.view settings requests) i
        ((requestMonitor settings).advance (p.view settings requests i) op o) := views
    have made : (fun j => (p'.view settings requests j).made) =
        Function.update (fun j => (p.view settings requests j).made) i
          ((requestMonitor settings).advance (p.view settings requests i) op o).made := by
      funext j
      rw [views]
      exact Function.apply_update (fun _ => RequestView.made) (p.view settings requests) i _ j
    have known : ∀ tenantId, (p.view settings requests i).tenant = some tenantId →
        p.authenticated settings requests i tenantId :=
      (view_authenticated (requests i).auth (p.history i)).2.2
    rw [made]
    cases o with
    | ok a => exact h.sound.serve rfl known permitted answered
    | error e =>
      obtain ⟨mid, served, ended⟩ := answered
      exact h.sound.raise rfl known permitted served ended
  · have views : p'.view settings requests = p.view settings requests := views
    rw [views, moved]
    exact ⟨h.sound.guarded.database db, h.sound.secure⟩

/-- In every run of any requests over any pool of connections, every statement keeps to the
security context of its own transaction. -/
theorem security_context_never_leaks (settings : AccountSettings) (config : GatewayConfig)
    (requests : ι → ProxyRequest) (db : Database) (run : List (RequestLabel ι × RequestPool ι χ))
    (isRun : IsRun (Step (requestWorld ι χ)) (requestPool settings config requests db) run) :
    ∀ p ∈ visited (requestPool settings config requests db) run, ∀ e ∈ p.shared.log,
      e.Secure (AuthenticatedAs settings (requests e.request).auth (p.history e.request)) := by
  intro p mem
  exact (isRun.always pool_step (.start settings config requests db) p mem).sound.secure

end Runs

section Ping

def pingKeyId : String := "0001020304050607"

def pingTenant : Tenant :=
  ⟨"acme", hundredDollars, 60, 100000, 5, false, false, .finite (3 / 4), .block, false, true⟩

def pingKey : ApiKey := ⟨helloTenantId, "secret", "key", none, none⟩

def pingDatabase : Database where
  tenants := (∅ : AList fun _ : Uuid => Tenant).insert helloTenantId pingTenant
  apiKeys := (∅ : AList fun _ : String => ApiKey).insert pingKeyId pingKey
  auditLog := []

def pingHeader : HeaderValue where
  chars := "Bearer agk_live_0001020304050607.secret".toList
  latin1 := by
    have all : "Bearer agk_live_0001020304050607.secret".toList.all (fun c => decide (0 < c.toNat ∧ c.toNat < 256)) = true := by
      decide +kernel
    exact fun c mem => of_decide_eq_true (List.all_eq_true.mp all c mem)

def pingRequest : ProxyRequest := ⟨⟨some pingHeader, some "c"⟩, .ping⟩

def pingCalls : List RequestEvent :=
  [⟨.sql (.setConfig .tenantId ""), .ok ()⟩, ⟨.sql (.setConfig .bypassRls "on"), .ok ()⟩,
    ⟨.sql (.selectApiKey pingKeyId), .ok (some pingKey)⟩,
    ⟨.sql (.setConfig .tenantId helloTenantId.text), .ok ()⟩, ⟨.sql (.setConfig .bypassRls "off"), .ok ()⟩,
    ⟨.sql (.selectTenant helloTenantId), .ok (some pingTenant)⟩, ⟨.draw .datetimeNow, .ok noon⟩,
    ⟨.sql (.write (.setLastUsedAt pingKeyId noon)), .ok ()⟩, ⟨.sql .commit, .ok ()⟩,
    ⟨.sql .rollback, .ok ()⟩]

theorem pingCalls_runs : Runs (handleProxy plainSettings helloConfig pingRequest) pingCalls (.ok ()) := by
  have bearer : ¬ hasBearer pingRequest.auth.header = false := by decide +kernel
  have parsed : parseApiKey (presentedKey pingRequest.auth.header) = some (pingKeyId, "secret") := by
    decide +kernel
  rw [handleProxy, getCurrentTenant, if_neg bearer, parsed]
  exact .call (.call (.call (.call (.call (.call (.call (.call (.call (.call (.done _))))))))))

abbrev pingPool : RequestPool Unit Unit :=
  requestPool plainSettings helloConfig (fun _ => pingRequest) pingDatabase

theorem security_context_never_leaks_ping :
    ∃ run : List (RequestLabel Unit × RequestPool Unit Unit),
      IsRun (Step (requestWorld Unit Unit)) pingPool run ∧
      (final pingPool run).shared.log.length = 8 ∧
      ∀ p ∈ visited pingPool run, ∀ e ∈ p.shared.log,
        e.Secure (AuthenticatedAs plainSettings pingRequest.auth (p.history e.request)) := by
  have served : ∃ s, (requestWorld Unit Unit).Serves (fun _ _ => True) () pingPool.shared pingCalls s ∧
      s.log.length = 8 := by
    refine ⟨_, ⟨trivial, _, ⟨(), .inr ⟨rfl, fun _ no => ?_⟩, trivial, rfl⟩,
      trivial, _, ⟨(), .inl rfl, trivial, rfl⟩, trivial, _, ⟨(), .inl rfl, rfl, rfl⟩,
      trivial, _, ⟨(), .inl rfl, trivial, rfl⟩, trivial, _, ⟨(), .inl rfl, trivial, rfl⟩,
      trivial, _, ⟨(), .inl rfl, rfl, rfl⟩, trivial, _, rfl, trivial, _, ⟨(), .inl rfl, rfl, rfl⟩,
      trivial, _, rfl, trivial, _, rfl, rfl⟩, rfl⟩
    cases no
  obtain ⟨s, served, length⟩ := served
  obtain ⟨run, isRun, _, ends, -⟩ := solo_run (p := pingPool) (i := ()) pingCalls_runs.reaches served
  refine ⟨run, isRun, ?_, security_context_never_leaks _ _ _ _ run isRun⟩
  rw [ends]
  exact length

end Ping
end AegisGateway.RowSecurity
