import AegisGateway.ApiKeys
import AegisGateway.BudgetScan
import AegisGateway.UsageBilling
import Mathlib.Data.List.AList

set_option autoImplicit false

/-!
# Tenants and their API keys

`create_tenant`, `update_tenant`, `create_api_key` and `revoke_api_key` of
`api/admin.py` and `get_current_tenant` of `middleware/auth.py`, as programs over one
database session. Writes wait in the session until a flush or a commit; Postgres takes
them when every value fits its column and row-level security grants the row. What is
not committed when the program ends is rolled back.
-/
namespace AegisGateway.Accounts
open EffectProgram ApiKeys
open BudgetScan (RlsContext UtcDateTime noon)
open UsageBilling (storable isInt32)

section Rows

/-- A row of `tenants` under its id. -/
structure Tenant where
  name : String
  monthlyBudgetUsd : Numeric102
  rateLimitRpm : ℤ
  rateLimitTpm : ℤ
  maxConcurrentRequests : ℤ
  piiRedactionEnabled : Bool
  injectionDetectionEnabled : Bool
  injectionDetectionThreshold : PyFloat
  injectionDetectionMode : InjectionMode
  cacheEnabled : Bool
  isActive : Bool

/-- A row of `api_keys` under its key id. -/
structure ApiKey where
  tenantId : Uuid
  hashedSecret : String
  name : String
  revokedAt : Option UtcDateTime
  lastUsedAt : Option UtcDateTime

structure Database where
  tenants : AList fun _ : Uuid => Tenant
  apiKeys : AList fun _ : String => ApiKey
  auditLog : List AuditLog

def Database.empty : Database := ⟨∅, ∅, []⟩

/-- What Postgres stores of a number in a `Numeric(10,2)` column. -/
def toNumeric102 (d : Decimal) : Option Numeric102 :=
  let scaled := d.value * 100
  let cents : ℤ := if 0 ≤ scaled then ⌊scaled + 1 / 2⌋ else -⌊-scaled + 1 / 2⌋
  if h : |cents| < 10 ^ 10 then some ⟨cents, h⟩ else none

end Rows

section Payloads

structure TenantCreateRequest where
  name : String
  monthlyBudgetUsd : Decimal := ⟨10000, 2⟩
  rateLimitRpm : ℤ := 60
  rateLimitTpm : ℤ := 100000
  maxConcurrentRequests : ℤ := 5
  piiRedactionEnabled : Bool := true
  injectionDetectionEnabled : Bool := true
  injectionDetectionThreshold : PyFloat := .finite (3 / 4)
  injectionDetectionMode : InjectionMode := .block
  cacheEnabled : Bool := true

/-- The row that is inserted, if it fits the columns. -/
def TenantCreateRequest.row (payload : TenantCreateRequest) : Option Tenant :=
  if storable 255 payload.name && isInt32 payload.rateLimitRpm && isInt32 payload.rateLimitTpm &&
      isInt32 payload.maxConcurrentRequests then
    (toNumeric102 payload.monthlyBudgetUsd).map fun budget =>
      ⟨payload.name, budget, payload.rateLimitRpm, payload.rateLimitTpm,
        payload.maxConcurrentRequests, payload.piiRedactionEnabled,
        payload.injectionDetectionEnabled, payload.injectionDetectionThreshold,
        payload.injectionDetectionMode, payload.cacheEnabled, true⟩
  else none

/-- A field of a PATCH: not supplied, null, or a value. -/
abbrev Supplied (α : Type) := Option (Option α)

structure TenantUpdateRequest where
  name : Supplied String := none
  monthlyBudgetUsd : Supplied Decimal := none
  rateLimitRpm : Supplied ℤ := none
  rateLimitTpm : Supplied ℤ := none
  maxConcurrentRequests : Supplied ℤ := none
  piiRedactionEnabled : Supplied Bool := none
  injectionDetectionEnabled : Supplied Bool := none
  injectionDetectionThreshold : Supplied PyFloat := none
  injectionDetectionMode : Supplied InjectionMode := none
  cacheEnabled : Supplied Bool := none
  isActive : Supplied Bool := none

/-- The column after the PATCH. No column takes a null. -/
def column {α β : Type} (old : β) (store : α → Option β) : Supplied α → Option β
  | none => some old
  | some none => none
  | some (some a) => store a

def storeIf {α : Type} (fits : α → Bool) (a : α) : Option α := if fits a then some a else none

/-- The row after the PATCH. -/
def TenantUpdateRequest.applyTo (payload : TenantUpdateRequest) (tenant : Tenant) : Option Tenant := do
  let name ← column tenant.name (storeIf (storable 255)) payload.name
  let budget ← column tenant.monthlyBudgetUsd toNumeric102 payload.monthlyBudgetUsd
  let rpm ← column tenant.rateLimitRpm (storeIf isInt32) payload.rateLimitRpm
  let tpm ← column tenant.rateLimitTpm (storeIf isInt32) payload.rateLimitTpm
  let concurrent ← column tenant.maxConcurrentRequests (storeIf isInt32) payload.maxConcurrentRequests
  let pii ← column tenant.piiRedactionEnabled some payload.piiRedactionEnabled
  let injection ← column tenant.injectionDetectionEnabled some payload.injectionDetectionEnabled
  let threshold ← column tenant.injectionDetectionThreshold some payload.injectionDetectionThreshold
  let mode ← column tenant.injectionDetectionMode some payload.injectionDetectionMode
  let cache ← column tenant.cacheEnabled some payload.cacheEnabled
  let active ← column tenant.isActive some payload.isActive
  return ⟨name, budget, rpm, tpm, concurrent, pii, injection, threshold, mode, cache, active⟩

def suppliedMember {α : Type} (key : String) (render : α → Json) : Supplied α → JsonObject
  | none => []
  | some none => [(key, .null)]
  | some (some a) => [(key, render a)]

def TenantUpdateRequest.finiteThreshold (payload : TenantUpdateRequest) : Bool :=
  match payload.injectionDetectionThreshold with
  | some (some threshold) => threshold.isFinite
  | _ => true

/-- `model_dump(exclude_unset=True)` as JSON, if the `detail` column can get it. `json.dumps`
raises on the `Decimal` of a budget, which `_json_safe` does not reach inside the nested
dictionary, and `JSONB` refuses the `NaN` and `Infinity` that it writes for a threshold. -/
def TenantUpdateRequest.changes (floatRepr : ℚ → String) (payload : TenantUpdateRequest) :
    Option JsonObject :=
  match payload.monthlyBudgetUsd, payload.finiteThreshold with
  | some (some _), _ => none
  | _, false => none
  | _, true => some (
      suppliedMember "name" .str payload.name ++
      suppliedMember "monthly_budget_usd" (fun _ => .null) payload.monthlyBudgetUsd ++
      suppliedMember "rate_limit_rpm" .int payload.rateLimitRpm ++
      suppliedMember "rate_limit_tpm" .int payload.rateLimitTpm ++
      suppliedMember "max_concurrent_requests" .int payload.maxConcurrentRequests ++
      suppliedMember "pii_redaction_enabled" .bool payload.piiRedactionEnabled ++
      suppliedMember "injection_detection_enabled" .bool payload.injectionDetectionEnabled ++
      suppliedMember "injection_detection_threshold" (fun x => .float (x.text floatRepr))
        payload.injectionDetectionThreshold ++
      suppliedMember "injection_detection_mode" (fun mode => .str mode.text)
        payload.injectionDetectionMode ++
      suppliedMember "cache_enabled" .bool payload.cacheEnabled ++
      suppliedMember "is_active" .bool payload.isActive)

end Payloads

section Postgres

inductive Write where
  | insertTenant (id : Uuid) (payload : TenantCreateRequest)
  | updateTenant (id : Uuid) (payload : TenantUpdateRequest)
  | insertApiKey (keyId : String) (row : ApiKey)
  | setRevokedAt (keyId : String) (now : UtcDateTime)
  | setLastUsedAt (keyId : String) (now : UtcDateTime)
  | insertAudit (row : AuditLog)

/-- The `tenant_isolation` policy. -/
def grants (context : RlsContext) (tenantId : Option Uuid) : Bool :=
  context.bypass = "on" || tenantId.map Uuid.text = some context.tenantId

def Database.nameFree (db : Database) (name : String) (own : Option Uuid) : Bool :=
  db.tenants.entries.all fun entry => entry.2.name ≠ name || some entry.1 = own

def Database.updateApiKey (db : Database) (context : RlsContext) (keyId : String)
    (f : ApiKey → ApiKey) : Option Database :=
  match db.apiKeys.lookup keyId with
  | some row =>
    if grants context (some row.tenantId) then
      some { db with apiKeys := db.apiKeys.insert keyId (f row) }
    else none
  | none => none

def Write.apply (context : RlsContext) (db : Database) : Write → Option Database
  | .insertTenant id payload =>
    if (db.tenants.lookup id).isNone && db.nameFree payload.name none then
      payload.row.map fun row => { db with tenants := db.tenants.insert id row }
    else none
  | .updateTenant id payload =>
    match (db.tenants.lookup id).bind payload.applyTo with
    | some row =>
      if db.nameFree row.name (some id) then some { db with tenants := db.tenants.insert id row }
      else none
    | none => none
  | .insertApiKey keyId row =>
    if (db.apiKeys.lookup keyId).isNone && (db.tenants.lookup row.tenantId).isSome &&
        storable 16 keyId && storable 64 row.hashedSecret && storable 255 row.name &&
        grants context (some row.tenantId) then
      some { db with apiKeys := db.apiKeys.insert keyId row }
    else none
  | .setRevokedAt keyId now => db.updateApiKey context keyId fun row => { row with revokedAt := some now }
  | .setLastUsedAt keyId now =>
    db.updateApiKey context keyId fun row => { row with lastUsedAt := some now }
  | .insertAudit row =>
    if row.tenantId.all (fun id => (db.tenants.lookup id).isSome) && storable 64 row.eventType &&
        row.correlationId.all (storable 64) && grants context row.tenantId then
      some { db with auditLog := db.auditLog ++ [row] }
    else none

def applyWrites (context : RlsContext) (db : Database) (writes : List Write) : Option Database :=
  writes.foldlM (Write.apply context) db

inductive DbOp where
  | setRlsContext (tenantId : Option Uuid) (bypass : Bool)
  | selectApiKey (keyId : String)
  | selectTenantApiKey (tenantId : Uuid) (keyId : String)
  | getTenant (id : Uuid)
  | flush (writes : List Write)
  | commit (writes : List Write)
  | datetimeNow
  | uuid4
  | tokenHex
  | tokenUrlsafe

abbrev DbRet : DbOp → Type
  | .selectApiKey _ | .selectTenantApiKey _ _ => Option ApiKey
  | .getTenant _ => Option Tenant
  | .datetimeNow => UtcDateTime
  | .uuid4 => Uuid
  | .tokenHex | .tokenUrlsafe => String
  | .setRlsContext _ _ | .flush _ | .commit _ => Unit

abbrev DbProg := Prog DbOp DbRet Exn

abbrev ask (op : DbOp) : DbProg (DbRet op) := Prog.perform op

/-- One session: what is committed, what its transaction sees, and the settings it made. -/
structure Txn where
  committed : Database
  working : Database
  context : RlsContext

/-- What one operation takes from the clock and the random number generator. -/
structure Drawn where
  now : UtcDateTime
  uuid : Uuid
  keyId : String
  secretPart : String

def dbapiError : Exn := .other "DBAPIError"

def answerDb (drawn : Drawn) (txn : Txn) : (op : DbOp) → Except Exn (DbRet op) × Txn
  | .setRlsContext tenantId bypass =>
    (.ok (), { txn with
      context := ⟨(tenantId.map Uuid.text).getD "", if bypass then "on" else "off"⟩ })
  | .selectApiKey keyId =>
    (.ok ((txn.working.apiKeys.lookup keyId).filter fun row =>
      grants txn.context (some row.tenantId)), txn)
  | .selectTenantApiKey tenantId keyId =>
    (.ok ((txn.working.apiKeys.lookup keyId).filter fun row =>
      row.tenantId = tenantId && grants txn.context (some row.tenantId)), txn)
  | .getTenant id => (.ok (txn.working.tenants.lookup id), txn)
  | .flush writes =>
    match applyWrites txn.context txn.working writes with
    | some db => (.ok (), { txn with working := db })
    | none => (.error dbapiError, txn)
  | .commit writes =>
    match applyWrites txn.context txn.working writes with
    | some db => (.ok (), ⟨db, db, .none⟩)
    | none => (.error dbapiError, txn)
  | .datetimeNow => (.ok drawn.now, txn)
  | .uuid4 => (.ok drawn.uuid, txn)
  | .tokenHex => (.ok drawn.keyId, txn)
  | .tokenUrlsafe => (.ok drawn.secretPart, txn)

/-- An operation by itself, in a session of its own. -/
def transact {α : Type} (drawn : Drawn) (p : DbProg α) (db : Database) : Except Exn α × Database :=
  let ended := p.runState (answerDb drawn) ⟨db, db, .none⟩
  (ended.1, ended.2.committed)

end Postgres

/-- The session, with the writes that a commit takes along. -/
def dbSession (pendingWrites : List Write) : Session AuditLog DbProg where
  setRlsContext tenantId bypass := ask (.setRlsContext tenantId bypass)
  commitRow row := ask (.commit (pendingWrites ++ [.insertAudit row]))

/-- The settings and library functions that the endpoints read. -/
structure AccountSettings where
  apiKeyPepper : String
  /-- `hmac.new(pepper, secret, sha256).hexdigest()`. -/
  hmacHex : String → String → String
  floatRepr : ℚ → String

def hashApiKeySecret (settings : AccountSettings) (secretPart : String) : String :=
  settings.hmacHex settings.apiKeyPepper secretPart

def verifyApiKeySecret (settings : AccountSettings) (secretPart expectedHash : String) : Bool :=
  hashApiKeySecret settings secretPart = expectedHash

section Admin

/-- An admin request after its own authentication. -/
structure AdminRequest where
  adminId : String
  correlationId : Option String

def notFound (detail : String) : HttpException := ⟨404, .str detail, []⟩

def createTenant (request : AdminRequest) (payload : TenantCreateRequest) : DbProg Uuid := do
  ask (.setRlsContext none true)
  let id ← ask .uuid4
  ask (.flush [.insertTenant id payload])
  writeAuditEvent (dbSession []) (some id) "admin.tenant_created" request.correlationId
    [("admin_id", .str request.adminId), ("name", .str payload.name)]
  return id

/-- A detail that cannot be stored fails the commit. -/
def writeChanges (request : AdminRequest) (tenantId : Uuid) (payload : TenantUpdateRequest) :
    Option JsonObject → DbProg Unit
  | some changes =>
    writeAuditEvent (dbSession [.updateTenant tenantId payload]) (some tenantId) "admin.tenant_updated"
      request.correlationId [("admin_id", .str request.adminId), ("changes", .obj changes)]
  | none => do
    ask (.setRlsContext none true)
    Prog.raise (.other "StatementError")

def updateTenant (settings : AccountSettings) (request : AdminRequest) (tenantId : Uuid)
    (payload : TenantUpdateRequest) : DbProg Unit := do
  ask (.setRlsContext none true)
  match ← ask (.getTenant tenantId) with
  | none => Prog.raise (.http (notFound "Tenant not found."))
  | some _ => writeChanges request tenantId payload (payload.changes settings.floatRepr)

structure ApiKeyCreated where
  keyId : String
  name : String
  apiKey : String

def createApiKey (settings : AccountSettings) (request : AdminRequest) (tenantId : Uuid)
    (name : String) : DbProg ApiKeyCreated := do
  ask (.setRlsContext none true)
  match ← ask (.getTenant tenantId) with
  | none => Prog.raise (.http (notFound "Tenant not found."))
  | some _ =>
    let keyId ← ask .tokenHex
    let secretPart ← ask .tokenUrlsafe
    ask (.flush [.insertApiKey keyId ⟨tenantId, hashApiKeySecret settings secretPart, name, none, none⟩])
    writeAuditEvent (dbSession []) (some tenantId) "admin.api_key_issued" request.correlationId
      [("admin_id", .str request.adminId), ("key_id", .str keyId), ("name", .str name)]
    return ⟨keyId, name, fullKey keyId secretPart⟩

def revokeApiKey (request : AdminRequest) (tenantId : Uuid) (keyId : String) : DbProg Unit := do
  ask (.setRlsContext none true)
  match ← ask (.selectTenantApiKey tenantId keyId) with
  | none => Prog.raise (.http (notFound "API key not found."))
  | some row =>
    match row.revokedAt with
    | some _ => return ()
    | none =>
      let now ← ask .datetimeNow
      writeAuditEvent (dbSession [.setRevokedAt keyId now]) (some tenantId) "admin.api_key_revoked"
        request.correlationId [("admin_id", .str request.adminId), ("key_id", .str keyId)]

end Admin

section Authentication

/-- What `get_current_tenant` reads of a request. -/
structure AuthRequest where
  authorization : Option HeaderValue
  correlationId : Option String

def AuthRequest.header (request : AuthRequest) : List Char :=
  match request.authorization with
  | some value => value.chars
  | none => []

def unauthorized (message : String) : HttpException :=
  ⟨401, openaiError message "invalid_request_error" "invalid_api_key", []⟩

def invalidKey : String := "Invalid API key provided."

/-- Every failure is audited and raised. -/
def authFailure {α : Type} (request : AuthRequest) (tenantId : Option Uuid) (detail : JsonObject)
    (message : String) : DbProg α := do
  writeAuditEvent (dbSession []) tenantId "auth.failure" request.correlationId detail
  Prog.raise (.http (unauthorized message))

def tenantContext (tenantId : Uuid) (tenant : Tenant) (keyId : String) : TenantContext where
  tenantId := tenantId
  apiKeyId := keyId
  monthlyBudgetUsd := tenant.monthlyBudgetUsd
  rateLimitRpm := tenant.rateLimitRpm
  rateLimitTpm := tenant.rateLimitTpm
  maxConcurrentRequests := tenant.maxConcurrentRequests
  piiRedactionEnabled := tenant.piiRedactionEnabled
  injectionDetectionEnabled := tenant.injectionDetectionEnabled
  injectionDetectionThreshold := tenant.injectionDetectionThreshold
  injectionDetectionMode := tenant.injectionDetectionMode
  cacheEnabled := tenant.cacheEnabled

/-- From the verified key on: the tenant's own context, its row, and the key's last use. -/
def resolveTenant (request : AuthRequest) (keyId : String) (row : ApiKey) : DbProg TenantContext := do
  let inactive : DbProg TenantContext := authFailure request (some row.tenantId)
    [("reason", .str "tenant_inactive"), ("key_id", .str keyId)] "Tenant is inactive."
  ask (.setRlsContext (some row.tenantId) false)
  match ← ask (.getTenant row.tenantId) with
  | none => inactive
  | some tenant =>
    if tenant.isActive then do
      let now ← ask .datetimeNow
      ask (.commit [.setLastUsedAt keyId now])
      return tenantContext row.tenantId tenant keyId
    else inactive

/-- From the key's row on. -/
def checkApiKey (settings : AccountSettings) (request : AuthRequest) (keyId secretPart : String)
    (row : ApiKey) : DbProg TenantContext :=
  if row.revokedAt.isSome then
    authFailure request (some row.tenantId)
      [("reason", .str "key_revoked"), ("key_id", .str keyId)] invalidKey
  else if verifyApiKeySecret settings secretPart row.hashedSecret = false then
    authFailure request (some row.tenantId)
      [("reason", .str "invalid_secret"), ("key_id", .str keyId)] invalidKey
  else resolveTenant request keyId row

def getCurrentTenant (settings : AccountSettings) (request : AuthRequest) : DbProg TenantContext :=
  if hasBearer request.header = false then
    authFailure request none [("reason", .str "missing_bearer_token")] "Missing bearer token."
  else
    match parseApiKey (presentedKey request.header) with
    | none => authFailure request none [("reason", .str "malformed_api_key")] "Malformed API key."
    | some (keyId, secretPart) => do
      ask (.setRlsContext none true)
      match ← ask (.selectApiKey keyId) with
      | none =>
        authFailure request none [("reason", .str "key_not_found"), ("key_id", .str keyId)] invalidKey
      | some row => checkApiKey settings request keyId secretPart row

end Authentication

section Effects
variable {db db' : Database} {drawn : Drawn} {context : RlsContext} {txn txn' : Txn}

/-- What `write_audit_event` sets before it writes. -/
def bypassing : RlsContext := ⟨"", "on"⟩

theorem bypassing_grants (tenantId : Option Uuid) : grants bypassing tenantId = true := rfl

/-- The two databases have the same tenants and keys. -/
def SameAccounts (db db' : Database) : Prop := db'.tenants = db.tenants ∧ db'.apiKeys = db.apiKeys

theorem SameAccounts.refl (db : Database) : SameAccounts db db := ⟨rfl, rfl⟩

theorem applyWrites_cons (context : RlsContext) (db : Database) (write : Write) (rest : List Write) :
    applyWrites context db (write :: rest) =
      (write.apply context db).bind fun db' => applyWrites context db' rest := rfl

theorem applyWrites_singleton (context : RlsContext) (db : Database) (write : Write) :
    applyWrites context db [write] = write.apply context db := by
  rw [applyWrites_cons]
  cases write.apply context db <;> rfl

section Written

theorem insertTenant_applied {id : Uuid} {payload : TenantCreateRequest}
    (h : (Write.insertTenant id payload).apply context db = some db') :
    db.nameFree payload.name none = true ∧ ∃ row, payload.row = some row ∧
      db' = { db with tenants := db.tenants.insert id row } := by
  rw [Write.apply] at h
  split at h
  case isFalse => cases h
  case isTrue accepted =>
    obtain ⟨row, made, rfl⟩ := Option.map_eq_some_iff.mp h
    exact ⟨(Bool.and_eq_true_iff.mp accepted).2, row, made, rfl⟩

theorem updateTenant_applied {id : Uuid} {payload : TenantUpdateRequest}
    (h : (Write.updateTenant id payload).apply context db = some db') :
    ∃ tenant row, db.tenants.lookup id = some tenant ∧ payload.applyTo tenant = some row ∧
      db.nameFree row.name (some id) = true ∧
      db' = { db with tenants := db.tenants.insert id row } := by
  rw [Write.apply] at h
  split at h
  case h_2 => cases h
  case h_1 row made =>
    obtain ⟨tenant, found, made⟩ := Option.bind_eq_some_iff.mp made
    split at h
    case isFalse => cases h
    case isTrue free =>
      cases h
      exact ⟨tenant, row, found, made, free, rfl⟩

theorem insertApiKey_applied {keyId : String} {row : ApiKey}
    (h : (Write.insertApiKey keyId row).apply context db = some db') :
    db.apiKeys.lookup keyId = none ∧ (db.tenants.lookup row.tenantId).isSome = true ∧
      db' = { db with apiKeys := db.apiKeys.insert keyId row } := by
  rw [Write.apply] at h
  split at h
  case isFalse => cases h
  case isTrue accepted =>
    cases h
    simp only [Bool.and_eq_true, Option.isNone_iff_eq_none] at accepted
    exact ⟨accepted.1.1.1.1.1, accepted.1.1.1.1.2, rfl⟩

theorem updateApiKey_applied {keyId : String} {f : ApiKey → ApiKey}
    (h : db.updateApiKey context keyId f = some db') :
    ∃ row, db.apiKeys.lookup keyId = some row ∧
      db' = { db with apiKeys := db.apiKeys.insert keyId (f row) } := by
  rw [Database.updateApiKey] at h
  split at h
  case h_2 => cases h
  case h_1 row stored =>
    split at h
    case isFalse => cases h
    case isTrue =>
      cases h
      exact ⟨row, stored, rfl⟩

theorem insertAudit_applied {row : AuditLog}
    (h : (Write.insertAudit row).apply context db = some db') :
    db' = { db with auditLog := db.auditLog ++ [row] } := by
  rw [Write.apply] at h
  split at h
  case isFalse => cases h
  case isTrue =>
    cases h
    rfl

end Written

theorem insertAudit_same {row : AuditLog}
    (h : (Write.insertAudit row).apply context db = some db') : SameAccounts db db' := by
  cases insertAudit_applied h
  exact ⟨rfl, rfl⟩

theorem auditOnly_same {row : AuditLog}
    (h : applyWrites context db ([] ++ [.insertAudit row]) = some db') : SameAccounts db db' := by
  rw [List.nil_append, applyWrites_singleton] at h
  exact insertAudit_same h

theorem writeThenAudit_same {write : Write} {row : AuditLog}
    (h : applyWrites context db ([write] ++ [.insertAudit row]) = some db') :
    ∃ written, write.apply context db = some written ∧ SameAccounts written db' := by
  rw [List.singleton_append, applyWrites_cons] at h
  obtain ⟨written, applied, rest⟩ := Option.bind_eq_some_iff.mp h
  rw [applyWrites_singleton] at rest
  exact ⟨written, applied, insertAudit_same rest⟩

section Audited
variable {pendingWrites : List Write} {tenantId : Option Uuid} {eventType : String}
  {correlationId : Option String} {detail : JsonObject}

theorem audit_taken (applied : applyWrites bypassing txn.working
      (pendingWrites ++ [.insertAudit ⟨tenantId, eventType, correlationId, detail⟩]) = some db') :
    (writeAuditEvent (dbSession pendingWrites) tenantId eventType correlationId detail).runState
      (answerDb drawn) txn = (.ok (), ⟨db', db', .none⟩) := by
  change answerDb drawn { txn with context := bypassing } (.commit _) = _
  rw [answerDb, applied]

theorem audit_refused (applied : applyWrites bypassing txn.working
      (pendingWrites ++ [.insertAudit ⟨tenantId, eventType, correlationId, detail⟩]) = none) :
    (writeAuditEvent (dbSession pendingWrites) tenantId eventType correlationId detail).runState
      (answerDb drawn) txn = (.error dbapiError, { txn with context := bypassing }) := by
  change answerDb drawn { txn with context := bypassing } (.commit _) = _
  rw [answerDb, applied]

theorem audit_cases {r : Except Exn Unit}
    (run : (writeAuditEvent (dbSession pendingWrites) tenantId eventType correlationId detail).runState
      (answerDb drawn) txn = (r, txn')) :
    (∃ e, r = .error e ∧ txn'.committed = txn.committed) ∨
      ∃ db', r = .ok () ∧ applyWrites bypassing txn.working
        (pendingWrites ++ [.insertAudit ⟨tenantId, eventType, correlationId, detail⟩]) = some db' ∧
        txn' = ⟨db', db', .none⟩ := by
  cases applied : applyWrites bypassing txn.working
      (pendingWrites ++ [.insertAudit ⟨tenantId, eventType, correlationId, detail⟩]) with
  | some db' =>
    rw [audit_taken applied] at run
    cases run
    exact .inr ⟨db', rfl, rfl, rfl⟩
  | none =>
    rw [audit_refused applied] at run
    cases run
    exact .inl ⟨_, rfl, rfl⟩

end Audited

section Keeps
variable {I : Database → Prop} (each : ∀ {context : RlsContext} {db db' : Database} (write : Write),
  I db → write.apply context db = some db' → I db')
include each

theorem applyWrites_keeps {writes : List Write} (h : I db)
    (applied : applyWrites context db writes = some db') : I db' := by
  induction writes generalizing db with
  | nil =>
    cases applied
    exact h
  | cons write rest ih =>
    rw [applyWrites_cons] at applied
    obtain ⟨written, first, later⟩ := Option.bind_eq_some_iff.mp applied
    exact ih (each write h first) later

theorem answerDb_keeps (drawn : Drawn) (op : DbOp) (committed : I txn.committed)
    (working : I txn.working) :
    I (answerDb drawn txn op).2.committed ∧ I (answerDb drawn txn op).2.working := by
  cases op with
  | flush writes =>
    rw [answerDb]
    split
    · rename_i applied
      exact ⟨committed, applyWrites_keeps each working applied⟩
    · exact ⟨committed, working⟩
  | commit writes =>
    rw [answerDb]
    split
    · rename_i applied
      exact ⟨applyWrites_keeps each working applied, applyWrites_keeps each working applied⟩
    · exact ⟨committed, working⟩
  | _ => exact ⟨committed, working⟩

theorem transact_keeps {α : Type} (drawn : Drawn) (p : DbProg α) (h : I db) :
    I (transact drawn p db).2 := by
  have run (p : DbProg α) (txn : Txn) (committed : I txn.committed) (working : I txn.working) :
      I (p.runState (answerDb drawn) txn).2.committed := by
    induction p generalizing txn with
    | done r => exact committed
    | call op next ih =>
      obtain ⟨committed', working'⟩ := answerDb_keeps each drawn op committed working
      exact ih _ _ committed' working'
  exact run p _ h h

end Keeps

theorem transact_run {α : Type} {p : DbProg α} {r : Except Exn α}
    (h : transact drawn p db = (r, db')) :
    ∃ txn, p.runState (answerDb drawn) ⟨db, db, .none⟩ = (r, txn) ∧ txn.committed = db' := by
  rw [transact] at h
  obtain ⟨result, committed⟩ := Prod.mk.inj h
  exact ⟨_, Prod.ext result rfl, committed⟩

theorem ask_run {α : Type} {op : DbOp} {a : DbRet op} {f : DbRet op → DbProg α}
    {out : Except Exn α × Txn} (next : Txn) (answered : answerDb drawn txn op = (.ok a, next))
    (run : (ask op >>= f).runState (answerDb drawn) txn = out) :
    (f a).runState (answerDb drawn) next = out := by
  rw [Prog.bind_def, Prog.runState_andThen] at run
  have first : (ask op).runState (answerDb drawn) txn = (.ok a, next) := answered
  rw [first] at run
  exact run

theorem flush_cases {α : Type} {write : Write} {f : Unit → DbProg α} {r : Except Exn α}
    (run : (ask (.flush [write]) >>= f).runState (answerDb drawn) txn = (r, txn')) :
    (r = .error dbapiError ∧ txn' = txn) ∨
      ∃ db', write.apply txn.context txn.working = some db' ∧
        (f ()).runState (answerDb drawn) { txn with working := db' } = (r, txn') := by
  rw [← applyWrites_singleton]
  cases applied : applyWrites txn.context txn.working [write] with
  | some db' =>
    have answered : answerDb drawn txn (.flush [write]) = (.ok (), { txn with working := db' }) := by
      rw [answerDb, applied]
    exact .inr ⟨db', rfl, ask_run _ answered run⟩
  | none =>
    have answered : (ask (.flush [write])).runState (answerDb drawn) txn = (.error dbapiError, txn) := by
      change answerDb drawn txn (.flush [write]) = _
      rw [answerDb, applied]
    rw [Prog.bind_def, Prog.runState_andThen, answered] at run
    cases run
    exact .inl ⟨rfl, rfl⟩

theorem audited_cases {α : Type} {pendingWrites : List Write} {tenantId : Option Uuid}
    {eventType : String} {correlationId : Option String} {detail : JsonObject}
    {f : Unit → DbProg α} {r : Except Exn α}
    (run : (writeAuditEvent (dbSession pendingWrites) tenantId eventType correlationId detail >>=
      f).runState (answerDb drawn) txn = (r, txn')) :
    (∃ e, r = .error e ∧ txn'.committed = txn.committed) ∨
      ∃ db', applyWrites bypassing txn.working
        (pendingWrites ++ [.insertAudit ⟨tenantId, eventType, correlationId, detail⟩]) = some db' ∧
        (f ()).runState (answerDb drawn) ⟨db', db', .none⟩ = (r, txn') := by
  rcases Prog.runState_bind run with ⟨e, first, rfl⟩ | ⟨_, _, first, rest⟩
  · rcases audit_cases first with ⟨_, _, same⟩ | ⟨_, ok, _⟩
    · exact .inl ⟨e, rfl, same⟩
    · cases ok
  · rcases audit_cases first with ⟨_, raised, _⟩ | ⟨db', _, applied, rfl⟩
    · cases raised
    · exact .inr ⟨db', applied, rest⟩

theorem row_isActive {payload : TenantCreateRequest} {row : Tenant} (h : payload.row = some row) :
    row.isActive = true := by
  rw [TenantCreateRequest.row] at h
  split at h
  · obtain ⟨budget, _, rfl⟩ := Option.map_eq_some_iff.mp h
    rfl
  · cases h

theorem createTenant_cases {request : AdminRequest} {payload : TenantCreateRequest}
    {r : Except Exn Uuid} (h : transact drawn (createTenant request payload) db = (r, db')) :
    (∃ e, r = .error e ∧ db' = db) ∨
      ∃ row, r = .ok drawn.uuid ∧ row.isActive = true ∧
        db'.tenants = db.tenants.insert drawn.uuid row ∧ db'.apiKeys = db.apiKeys := by
  obtain ⟨txn, run, rfl⟩ := transact_run h
  have run := ask_run ⟨db, db, bypassing⟩ rfl run
  have run := ask_run ⟨db, db, bypassing⟩ rfl run
  rcases flush_cases run with ⟨rfl, rfl⟩ | ⟨db₁, inserted, run⟩
  · exact .inl ⟨_, rfl, rfl⟩
  obtain ⟨_, row, made, rfl⟩ := insertTenant_applied inserted
  rcases audited_cases run with ⟨e, rfl, same⟩ | ⟨db₂, applied, run⟩
  · exact .inl ⟨e, rfl, same⟩
  · cases run
    obtain ⟨tenants, apiKeys⟩ := auditOnly_same applied
    exact .inr ⟨row, rfl, row_isActive made, tenants, apiKeys⟩

/-- What a PATCH makes of the flag. -/
def TenantUpdateRequest.activeAfter (payload : TenantUpdateRequest) (before : Bool) : Bool :=
  match payload.isActive with
  | some (some active) => active
  | _ => before

theorem applyTo_isActive {payload : TenantUpdateRequest} {tenant row : Tenant}
    (h : payload.applyTo tenant = some row) : row.isActive = payload.activeAfter tenant.isActive := by
  rw [TenantUpdateRequest.applyTo] at h
  -- The ten columns before the flag.
  iterate 10 obtain ⟨_, _, h⟩ := Option.bind_eq_some_iff.mp h
  obtain ⟨active, set, stored⟩ := Option.bind_eq_some_iff.mp h
  cases stored
  rw [TenantUpdateRequest.activeAfter]
  rcases flag : payload.isActive with _ | _ | active'
  · rw [flag] at set
    cases set
    rfl
  · rw [flag] at set
    cases set
  · rw [flag] at set
    cases set
    rfl

theorem updateTenant_cases {settings : AccountSettings} {request : AdminRequest} {tenantId : Uuid}
    {payload : TenantUpdateRequest} {r : Except Exn Unit}
    (h : transact drawn (updateTenant settings request tenantId payload) db = (r, db')) :
    (∃ e, r = .error e ∧ db' = db) ∨
      ∃ tenant row, r = .ok () ∧ db.tenants.lookup tenantId = some tenant ∧
        row.isActive = payload.activeAfter tenant.isActive ∧
        db'.tenants = db.tenants.insert tenantId row ∧ db'.apiKeys = db.apiKeys := by
  obtain ⟨txn, run, rfl⟩ := transact_run h
  have run := ask_run ⟨db, db, bypassing⟩ rfl run
  have run := ask_run ⟨db, db, bypassing⟩ rfl run
  cases found : db.tenants.lookup tenantId with
  | none =>
    simp only [found] at run
    cases run
    exact .inl ⟨_, rfl, rfl⟩
  | some tenant =>
    simp only [found] at run
    cases detail : payload.changes settings.floatRepr with
    | none =>
      rw [detail] at run
      have run := ask_run ⟨db, db, bypassing⟩ rfl run
      cases run
      exact .inl ⟨_, rfl, rfl⟩
    | some changes =>
      rw [detail] at run
      rcases audit_cases run with ⟨e, rfl, same⟩ | ⟨db₂, rfl, applied, rfl⟩
      · exact .inl ⟨e, rfl, same⟩
      · obtain ⟨db₁, updated, tenants, apiKeys⟩ := writeThenAudit_same applied
        obtain ⟨_, row, stored, made, _, rfl⟩ := updateTenant_applied updated
        cases found.symm.trans stored
        exact .inr ⟨tenant, row, rfl, rfl, applyTo_isActive made, tenants, apiKeys⟩

theorem createApiKey_cases {settings : AccountSettings} {request : AdminRequest} {tenantId : Uuid}
    {name : String} {r : Except Exn ApiKeyCreated}
    (h : transact drawn (createApiKey settings request tenantId name) db = (r, db')) :
    (∃ e, r = .error e ∧ db' = db) ∨
      r = .ok ⟨drawn.keyId, name, fullKey drawn.keyId drawn.secretPart⟩ ∧
        db.apiKeys.lookup drawn.keyId = none ∧ db'.tenants = db.tenants ∧
        db'.apiKeys = db.apiKeys.insert drawn.keyId
          ⟨tenantId, hashApiKeySecret settings drawn.secretPart, name, none, none⟩ := by
  obtain ⟨txn, run, rfl⟩ := transact_run h
  have run := ask_run ⟨db, db, bypassing⟩ rfl run
  have run := ask_run ⟨db, db, bypassing⟩ rfl run
  cases found : db.tenants.lookup tenantId with
  | none =>
    simp only [found] at run
    cases run
    exact .inl ⟨_, rfl, rfl⟩
  | some tenant =>
    simp only [found] at run
    have run := ask_run ⟨db, db, bypassing⟩ rfl run
    have run := ask_run ⟨db, db, bypassing⟩ rfl run
    rcases flush_cases run with ⟨rfl, rfl⟩ | ⟨db₁, inserted, run⟩
    · exact .inl ⟨_, rfl, rfl⟩
    obtain ⟨fresh, _, rfl⟩ := insertApiKey_applied inserted
    rcases audited_cases run with ⟨e, rfl, same⟩ | ⟨db₂, applied, run⟩
    · exact .inl ⟨e, rfl, same⟩
    · cases run
      obtain ⟨tenants, apiKeys⟩ := auditOnly_same applied
      exact .inr ⟨rfl, fresh, tenants, apiKeys⟩

theorem revokeApiKey_cases {request : AdminRequest} {tenantId : Uuid} {keyId : String}
    {r : Except Exn Unit} (h : transact drawn (revokeApiKey request tenantId keyId) db = (r, db')) :
    (∃ e, r = .error e ∧ db' = db) ∨
      ∃ row, r = .ok () ∧ db.apiKeys.lookup keyId = some row ∧ row.tenantId = tenantId ∧
        db'.tenants = db.tenants ∧
        (row.revokedAt.isSome = true ∧ db'.apiKeys = db.apiKeys ∨
          db'.apiKeys = db.apiKeys.insert keyId { row with revokedAt := some drawn.now }) := by
  obtain ⟨txn, run, rfl⟩ := transact_run h
  have run := ask_run ⟨db, db, bypassing⟩ rfl run
  have run := ask_run ⟨db, db, bypassing⟩ rfl run
  cases found : (db.apiKeys.lookup keyId).filter fun row =>
      row.tenantId = tenantId && grants bypassing (some row.tenantId) with
  | none =>
    simp only [found] at run
    cases run
    exact .inl ⟨_, rfl, rfl⟩
  | some row =>
    simp only [found] at run
    obtain ⟨stored, owned⟩ := Option.filter_eq_some_iff.mp found
    simp only [bypassing_grants, Bool.and_true, decide_eq_true_eq] at owned
    cases revoked : row.revokedAt with
    | some time =>
      simp only [revoked] at run
      cases run
      exact .inr ⟨row, rfl, stored, owned, rfl, .inl ⟨by simp [revoked], rfl⟩⟩
    | none =>
      simp only [revoked] at run
      have run := ask_run ⟨db, db, bypassing⟩ rfl run
      rcases audit_cases run with ⟨e, rfl, same⟩ | ⟨db₂, rfl, applied, rfl⟩
      · exact .inl ⟨e, rfl, same⟩
      · obtain ⟨db₁, updated, tenants, apiKeys⟩ := writeThenAudit_same applied
        obtain ⟨_, stored', rfl⟩ := updateApiKey_applied updated
        cases stored.symm.trans stored'
        exact .inr ⟨row, rfl, stored, owned, tenants, .inr apiKeys⟩

theorem authFailure_cases {α : Type} {request : AuthRequest} {tenantId : Option Uuid}
    {detail : JsonObject} {message : String} {r : Except Exn α}
    (run : (authFailure request tenantId detail message).runState (answerDb drawn)
      ⟨db, db, context⟩ = (r, txn)) :
    (∃ e, r = .error e) ∧ SameAccounts db txn.committed := by
  rcases audited_cases run with ⟨e, rfl, same⟩ | ⟨db₂, applied, run⟩
  · refine ⟨⟨e, rfl⟩, ?_⟩
    rw [same]
    exact .refl db
  · cases run
    exact ⟨⟨_, rfl⟩, auditOnly_same applied⟩

/-- The rows that let a key in. -/
structure Admits (settings : AccountSettings) (db : Database) (keyId secretPart : String)
    (row : ApiKey) (tenant : Tenant) : Prop where
  stored : db.apiKeys.lookup keyId = some row
  unrevoked : row.revokedAt = none
  verified : hashApiKeySecret settings secretPart = row.hashedSecret
  owner : db.tenants.lookup row.tenantId = some tenant
  active : tenant.isActive = true

def Database.touched (db : Database) (keyId : String) (row : ApiKey) (now : UtcDateTime) : Database :=
  { db with apiKeys := db.apiKeys.insert keyId { row with lastUsedAt := some now } }

theorem Admits.row_eq {settings : AccountSettings} {keyId secretPart : String} {row row' : ApiKey}
    {tenant : Tenant} (h : Admits settings db keyId secretPart row tenant)
    (stored : db.apiKeys.lookup keyId = some row') : row = row' :=
  Option.some.inj (h.stored.symm.trans stored)

/-- The rows admit the key and it is let in, or they do not and an exception is raised. -/
def Decides (settings : AccountSettings) (drawn : Drawn) (db : Database) (keyId secretPart : String)
    (r : Except Exn TenantContext) (db' : Database) : Prop :=
  ((∃ e, r = .error e) ∧ SameAccounts db db' ∧
      ∀ row tenant, ¬ Admits settings db keyId secretPart row tenant) ∨
    ∃ row tenant, Admits settings db keyId secretPart row tenant ∧
      r = .ok (tenantContext row.tenantId tenant keyId) ∧ db' = db.touched keyId row drawn.now

theorem own_grants (tenantId : Uuid) : grants ⟨tenantId.text, "off"⟩ (some tenantId) = true := by
  simp [grants]

theorem bypassing_sees (found : Option ApiKey) :
    (found.filter fun row => grants bypassing (some row.tenantId)) = found := by
  cases found with
  | none => rfl
  | some row => simp [bypassing_grants]

variable {settings : AccountSettings} {request : AuthRequest} {keyId secretPart : String}
  {row : ApiKey} {r : Except Exn TenantContext}

/-- The run of a failure branch, whose tenant, if any, is that of a stored key. -/
def Refused (request : AuthRequest) (drawn : Drawn) (db : Database) (r : Except Exn TenantContext)
    (txn : Txn) : Prop :=
  ∃ tenantId detail message context,
    (∀ id ∈ tenantId, ∃ keyId row, db.apiKeys.lookup keyId = some row ∧ row.tenantId = id) ∧
    (authFailure request tenantId detail message).runState (answerDb drawn) ⟨db, db, context⟩ = (r, txn)

theorem refused_unknown {detail : JsonObject} {message : String}
    (run : (authFailure request none detail message).runState (answerDb drawn) ⟨db, db, context⟩ =
      (r, txn)) : Refused request drawn db r txn :=
  ⟨none, detail, message, context, by simp, run⟩

theorem refused_known {detail : JsonObject} {message : String}
    (stored : db.apiKeys.lookup keyId = some row)
    (run : (authFailure request (some row.tenantId) detail message).runState (answerDb drawn)
      ⟨db, db, context⟩ = (r, txn)) : Refused request drawn db r txn := by
  refine ⟨some row.tenantId, detail, message, context, fun id mem => ?_, run⟩
  cases mem
  exact ⟨keyId, row, stored, rfl⟩

theorem Refused.raised (h : Refused request drawn db r txn) :
    (∃ e, r = .error e) ∧ SameAccounts db txn.committed := by
  obtain ⟨_, _, _, _, _, run⟩ := h
  exact authFailure_cases run

/-- A failure branch is run and the rows do not admit the key, or they do and it is let in. -/
def Settles (settings : AccountSettings) (request : AuthRequest) (drawn : Drawn) (db : Database)
    (keyId secretPart : String) (r : Except Exn TenantContext) (txn : Txn) : Prop :=
  (Refused request drawn db r txn ∧ ∀ row tenant, ¬ Admits settings db keyId secretPart row tenant) ∨
    ∃ row tenant, Admits settings db keyId secretPart row tenant ∧
      r = .ok (tenantContext row.tenantId tenant keyId) ∧
      txn.committed = db.touched keyId row drawn.now

theorem Settles.decides (h : Settles settings request drawn db keyId secretPart r txn) :
    Decides settings drawn db keyId secretPart r txn.committed := by
  rcases h with ⟨refused, none⟩ | admitted
  · exact .inl ⟨refused.raised.1, refused.raised.2, none⟩
  · exact .inr admitted

theorem resolveTenant_settles (stored : db.apiKeys.lookup keyId = some row)
    (unrevoked : row.revokedAt = none)
    (verified : hashApiKeySecret settings secretPart = row.hashedSecret)
    (run : (resolveTenant request keyId row).runState (answerDb drawn) ⟨db, db, context⟩ = (r, txn)) :
    Settles settings request drawn db keyId secretPart r txn := by
  have run := ask_run ⟨db, db, ⟨row.tenantId.text, "off"⟩⟩ rfl run
  have run := ask_run ⟨db, db, ⟨row.tenantId.text, "off"⟩⟩ rfl run
  cases owner : db.tenants.lookup row.tenantId with
  | none =>
    simp only [owner] at run
    refine .inl ⟨refused_known stored run, fun row' tenant admits => ?_⟩
    cases admits.row_eq stored
    exact absurd (owner.symm.trans admits.owner) (by simp)
  | some tenant =>
    simp only [owner] at run
    split at run
    case isFalse inactive =>
      refine .inl ⟨refused_known stored run, fun row' tenant' admits => ?_⟩
      cases admits.row_eq stored
      cases owner.symm.trans admits.owner
      exact inactive admits.active
    case isTrue active =>
      have run := ask_run ⟨db, db, ⟨row.tenantId.text, "off"⟩⟩ rfl run
      have touched : answerDb drawn ⟨db, db, ⟨row.tenantId.text, "off"⟩⟩
          (.commit [.setLastUsedAt keyId drawn.now]) =
          (.ok (), ⟨db.touched keyId row drawn.now, db.touched keyId row drawn.now, .none⟩) := by
        rw [answerDb, applyWrites_singleton]
        simp only [Write.apply, Database.updateApiKey, stored, own_grants, if_true]
        rfl
      have run := ask_run _ touched run
      cases run
      exact .inr ⟨row, tenant, ⟨stored, unrevoked, verified, owner, active⟩, rfl, rfl⟩

theorem checkApiKey_settles (stored : db.apiKeys.lookup keyId = some row)
    (run : (checkApiKey settings request keyId secretPart row).runState (answerDb drawn)
      ⟨db, db, context⟩ = (r, txn)) : Settles settings request drawn db keyId secretPart r txn := by
  rw [checkApiKey] at run
  split at run
  case isTrue revoked =>
    refine .inl ⟨refused_known stored run, fun row' tenant admits => ?_⟩
    cases admits.row_eq stored
    rw [admits.unrevoked] at revoked
    cases revoked
  case isFalse unrevoked =>
    split at run
    case isTrue wrong =>
      refine .inl ⟨refused_known stored run, fun row' tenant admits => ?_⟩
      cases admits.row_eq stored
      simp [verifyApiKeySecret, admits.verified] at wrong
    case isFalse right =>
      have verified : hashApiKeySecret settings secretPart = row.hashedSecret := by
        simpa [verifyApiKeySecret] using right
      exact resolveTenant_settles stored (by simpa using unrevoked) verified run

/-- The key that the request presents. -/
def Presents (request : AuthRequest) (keyId secretPart : String) : Prop :=
  hasBearer request.header = true ∧
    parseApiKey (presentedKey request.header) = some (keyId, secretPart)

theorem getCurrentTenant_settles
    (run : (getCurrentTenant settings request).runState (answerDb drawn) ⟨db, db, .none⟩ = (r, txn)) :
    (Refused request drawn db r txn ∧ ∀ keyId secretPart, ¬ Presents request keyId secretPart) ∨
      ∃ keyId secretPart, Presents request keyId secretPart ∧
        Settles settings request drawn db keyId secretPart r txn := by
  rw [getCurrentTenant] at run
  split at run
  case isTrue missing =>
    refine .inl ⟨refused_unknown run, fun keyId secretPart presents => ?_⟩
    have bearer := presents.1
    rw [missing] at bearer
    cases bearer
  case isFalse there =>
    have bearer : hasBearer request.header = true := by simpa using there
    cases parsed : parseApiKey (presentedKey request.header) with
    | none =>
      simp only [parsed] at run
      refine .inl ⟨refused_unknown run, fun keyId secretPart presents => ?_⟩
      exact absurd (parsed.symm.trans presents.2) (by simp)
    | some parts =>
      obtain ⟨keyId, secretPart⟩ := parts
      simp only [parsed] at run
      have run := ask_run ⟨db, db, bypassing⟩ rfl run
      have run := ask_run ⟨db, db, bypassing⟩ rfl run
      simp only [bypassing_sees] at run
      refine .inr ⟨keyId, secretPart, ⟨bearer, parsed⟩, ?_⟩
      cases stored : db.apiKeys.lookup keyId with
      | none =>
        simp only [stored] at run
        refine .inl ⟨refused_unknown run, fun row tenant admits => ?_⟩
        exact absurd (stored.symm.trans admits.stored) (by simp)
      | some row =>
        simp only [stored] at run
        exact checkApiKey_settles stored run

theorem getCurrentTenant_cases
    (h : transact drawn (getCurrentTenant settings request) db = (r, db')) :
    ((∃ e, r = .error e) ∧ SameAccounts db db' ∧
        ¬ ∃ parts, hasBearer request.header = true ∧
          parseApiKey (presentedKey request.header) = some parts) ∨
      ∃ keyId secretPart, hasBearer request.header = true ∧
        parseApiKey (presentedKey request.header) = some (keyId, secretPart) ∧
        Decides settings drawn db keyId secretPart r db' := by
  obtain ⟨txn, run, rfl⟩ := transact_run h
  rcases getCurrentTenant_settles run with ⟨refused, absent⟩ | ⟨keyId, secretPart, presents, settled⟩
  · refine .inl ⟨refused.raised.1, refused.raised.2, ?_⟩
    rintro ⟨⟨keyId, secretPart⟩, presents⟩
    exact absent keyId secretPart presents
  · exact .inr ⟨keyId, secretPart, presents.1, presents.2, settled.decides⟩

end Effects

section Samples

def plainSettings : AccountSettings where
  apiKeyPepper := "changeme-generate-a-real-32-byte-hex-secret"
  hmacHex _ secret := secret
  floatRepr _ := "0.75"

def noonDrawn : Drawn := ⟨noon, helloTenantId, "0001020304050607", "secret"⟩

def acmeTenant : Tenant :=
  ⟨"acme", hundredDollars, 60, 100000, 5, true, true, .finite (3 / 4), .block, true, true⟩

end Samples
end AegisGateway.Accounts
