import AegisGateway.Accounts

set_option autoImplicit false

/-!
# The trace of a failed authentication

`get_current_tenant` behind `CorrelationIdMiddleware`. Every failure branch commits an
`auth.failure` row and then raises a 401. The row carries the client's correlation id, so
an id that its column does not hold fails the insert, and the request with it.
-/
namespace AegisGateway.AuthFailures
open EffectProgram Accounts ApiKeys
open BudgetScan (RlsContext UtcDateTime)
open UsageBilling (storable)

section Requests

/-- The headers of a request to a `/v1` route that its authentication depends on. -/
structure V1Request where
  authorization : Option HeaderValue
  correlationHeader : Option HeaderValue

def correlationId (generated : Uuid) (request : V1Request) : String :=
  match request.correlationHeader with
  | some value => String.ofList value.chars
  | none => generated.text

/-- `CorrelationIdMiddleware.dispatch` up to `call_next`. -/
def dispatch (generated : Uuid) (request : V1Request) : AuthRequest :=
  ⟨request.authorization, some (correlationId generated request)⟩

/-- The status of the answer when a dependency raises. Only `HTTPException` has a handler. -/
def answeredStatus : Exn → ℤ
  | .http e => e.statusCode
  | _ => 500

def authenticate (settings : AccountSettings) (generated : Uuid) (drawn : Drawn) (request : V1Request)
    (db : Database) : Except Exn TenantContext × Database :=
  transact drawn (getCurrentTenant settings (dispatch generated request)) db

end Requests

section Links

/-- The foreign key of `api_keys`. -/
def Linked (db : Database) : Prop :=
  ∀ keyId row, db.apiKeys.lookup keyId = some row → (db.tenants.lookup row.tenantId).isSome = true

variable {db db' : Database} {context : RlsContext}

theorem linked_of_tenants {tenants : AList fun _ : Uuid => Tenant} (h : Linked db)
    (keeps : ∀ id, (db.tenants.lookup id).isSome = true → (tenants.lookup id).isSome = true) :
    Linked { db with tenants := tenants } :=
  fun keyId row stored => keeps row.tenantId (h keyId row stored)

theorem insert_keeps (tenants : AList fun _ : Uuid => Tenant) (id : Uuid) (row : Tenant) (other : Uuid)
    (there : (tenants.lookup other).isSome = true) :
    ((tenants.insert id row).lookup other).isSome = true := by
  by_cases same : other = id
  · rw [same, AList.lookup_insert]
    rfl
  · rwa [AList.lookup_insert_ne same]

theorem linked_insert {keyId : String} {row : ApiKey} (h : Linked db)
    (owner : (db.tenants.lookup row.tenantId).isSome = true) :
    Linked { db with apiKeys := db.apiKeys.insert keyId row } := by
  intro keyId' row' stored
  by_cases same : keyId' = keyId
  · rw [same, AList.lookup_insert] at stored
    cases stored
    exact owner
  · rw [AList.lookup_insert_ne same] at stored
    exact h keyId' row' stored

theorem updateApiKey_linked {keyId : String} {f : ApiKey → ApiKey} (h : Linked db)
    (applied : db.updateApiKey context keyId f = some db')
    (owner : ∀ row, (f row).tenantId = row.tenantId) : Linked db' := by
  obtain ⟨row, stored, rfl⟩ := updateApiKey_applied applied
  refine linked_insert h ?_
  rw [owner]
  exact h keyId row stored

theorem apply_linked {write : Write} (h : Linked db) (applied : write.apply context db = some db') :
    Linked db' := by
  cases write with
  | insertTenant id payload =>
    obtain ⟨_, row, _, rfl⟩ := insertTenant_applied applied
    exact linked_of_tenants h (insert_keeps _ _ _)
  | updateTenant id payload =>
    obtain ⟨_, row, _, _, _, rfl⟩ := updateTenant_applied applied
    exact linked_of_tenants h (insert_keeps _ _ _)
  | insertApiKey keyId row =>
    obtain ⟨_, owner, rfl⟩ := insertApiKey_applied applied
    exact linked_insert h owner
  | setRevokedAt keyId now => exact updateApiKey_linked h applied fun _ => rfl
  | setLastUsedAt keyId now => exact updateApiKey_linked h applied fun _ => rfl
  | insertAudit row =>
    cases insertAudit_applied applied
    exact h

/-- Every operation keeps the foreign key. -/
theorem transact_linked {α : Type} (drawn : Drawn) (p : DbProg α) (h : Linked db) :
    Linked (transact drawn p db).2 :=
  transact_keeps (fun _ h applied => apply_linked h applied) drawn p h

end Links

section Traces
variable {settings : AccountSettings} {generated : Uuid} {drawn : Drawn} {request : AuthRequest}
  {db db' : Database} {context : RlsContext} {txn : Txn} {r : Except Exn TenantContext}

def failureRow (request : AuthRequest) (tenantId : Option Uuid) (detail : JsonObject) : AuditLog :=
  ⟨tenantId, "auth.failure", request.correlationId, detail⟩

theorem failureRow_applied (request : AuthRequest) {tenantId : Option Uuid} (detail : JsonObject)
    (known : ∀ id ∈ tenantId, (db.tenants.lookup id).isSome = true) :
    applyWrites bypassing db ([] ++ [.insertAudit (failureRow request tenantId detail)]) =
      if request.correlationId.all (storable 64) then
        some { db with auditLog := db.auditLog ++ [failureRow request tenantId detail] }
      else none := by
  have owner : tenantId.all (fun id => (db.tenants.lookup id).isSome) = true := by
    cases tenantId with
    | none => rfl
    | some id => exact known id rfl
  have name : storable 64 "auth.failure" = true := by decide
  rw [List.nil_append, applyWrites_singleton, Write.apply]
  simp only [failureRow, owner, name, bypassing_grants, Bool.true_and, Bool.and_true]

theorem authFailure_outcome {tenantId : Option Uuid} {detail : JsonObject} {message : String}
    (known : ∀ id ∈ tenantId, (db.tenants.lookup id).isSome = true)
    (run : (authFailure request tenantId detail message).runState (answerDb drawn) ⟨db, db, context⟩ =
      (r, txn)) :
    if request.correlationId.all (storable 64) then
      r = .error (.http (unauthorized message)) ∧
        txn.committed = { db with auditLog := db.auditLog ++ [failureRow request tenantId detail] }
    else r = .error dbapiError ∧ txn.committed = db := by
  have applied := failureRow_applied request detail known
  rw [authFailure, Prog.bind_def, Prog.runState_andThen] at run
  split
  case isTrue fits =>
    rw [if_pos fits] at applied
    rw [audit_taken applied] at run
    cases run
    exact ⟨rfl, rfl⟩
  case isFalse long =>
    rw [if_neg long] at applied
    rw [audit_refused applied] at run
    cases run
    exact ⟨rfl, rfl⟩

theorem refused_outcome (linked : Linked db) (refused : Refused request drawn db r txn) :
    ∃ tenantId detail message, if request.correlationId.all (storable 64) then
      r = .error (.http (unauthorized message)) ∧
        txn.committed = { db with auditLog := db.auditLog ++ [failureRow request tenantId detail] }
    else r = .error dbapiError ∧ txn.committed = db := by
  obtain ⟨tenantId, detail, message, context, owned, run⟩ := refused
  refine ⟨tenantId, detail, message, authFailure_outcome (fun id mem => ?_) run⟩
  obtain ⟨keyId, row, stored, rfl⟩ := owned id mem
  exact linked keyId row stored

/-- The database lets the presented key in. -/
def LetsIn (settings : AccountSettings) (db : Database) (request : AuthRequest) : Prop :=
  ∃ keyId secretPart row tenant, Presents request keyId secretPart ∧
    Admits settings db keyId secretPart row tenant

/-- A request that gets no tenant is answered 401, after exactly one `auth.failure` row. -/
def Traced (settings : AccountSettings) (generated : Uuid) (drawn : Drawn) (request : V1Request)
    (db : Database) : Prop :=
  ∀ e db', authenticate settings generated drawn request db = (.error e, db') →
    answeredStatus e = 401 ∧ ∃ row, row.eventType = "auth.failure" ∧
      row.correlationId = some (correlationId generated request) ∧
      db' = { db with auditLog := db.auditLog ++ [row] }

theorem Presents.unique {keyId secretPart keyId' secretPart' : String}
    (h : Presents request keyId secretPart) (h' : Presents request keyId' secretPart') :
    keyId = keyId' ∧ secretPart = secretPart' := by
  have same := Option.some.inj (h.2.symm.trans h'.2)
  exact Prod.mk.inj same

theorem authenticate_cases {request : V1Request}
    (h : authenticate settings generated drawn request db = (r, db')) :
    (LetsIn settings db (dispatch generated request) ∧ ∃ context, r = .ok context) ∨
      ¬ LetsIn settings db (dispatch generated request) ∧
        ∃ txn, Refused (dispatch generated request) drawn db r txn ∧ txn.committed = db' := by
  obtain ⟨txn, run, rfl⟩ := transact_run h
  rcases getCurrentTenant_settles run with ⟨refused, absent⟩ | ⟨keyId, secretPart, presents, settled⟩
  · refine .inr ⟨?_, txn, refused, rfl⟩
    rintro ⟨keyId, secretPart, _, _, presents, _⟩
    exact absent keyId secretPart presents
  · rcases settled with ⟨refused, none⟩ | ⟨row, tenant, admits, ok, _⟩
    · refine .inr ⟨?_, txn, refused, rfl⟩
      rintro ⟨keyId', secretPart', row, tenant, presents', admits⟩
      obtain ⟨rfl, rfl⟩ := Presents.unique presents presents'
      exact none row tenant admits
    · exact .inl ⟨⟨keyId, secretPart, row, tenant, presents, admits⟩, _, ok⟩

/-- A failed authentication leaves its trace exactly if the correlation id fits the column. -/
theorem failure_traced_iff_storable (settings : AccountSettings) (generated : Uuid) (drawn : Drawn)
    (request : V1Request) (db : Database) (linked : Linked db) :
    Traced settings generated drawn request db ↔
      storable 64 (correlationId generated request) = true ∨
        LetsIn settings db (dispatch generated request) := by
  have ended : authenticate settings generated drawn request db =
      ((authenticate settings generated drawn request db).1,
        (authenticate settings generated drawn request db).2) := rfl
  rcases authenticate_cases ended with ⟨letsIn, context, ok⟩ | ⟨out, txn, refused, committed⟩
  · refine ⟨fun _ => .inr letsIn, fun _ e db' failed => ?_⟩
    rw [failed] at ok
    cases ok
  · obtain ⟨tenantId, detail, message, outcome⟩ := refused_outcome linked refused
    rw [committed] at outcome
    constructor
    · intro traced
      by_cases fits : storable 64 (correlationId generated request) = true
      · exact .inl fits
      · rw [if_neg (by exact fits)] at outcome
        obtain ⟨status, _⟩ := traced _ _ (Prod.ext outcome.1 outcome.2)
        cases status
    · rintro (fits | letsIn)
      · intro e db' failed
        rw [if_pos (by exact fits), failed] at outcome
        obtain ⟨raised, rfl⟩ := outcome
        cases raised
        exact ⟨rfl, _, rfl, rfl, rfl⟩
      · exact absurd letsIn out

/-- A correlation id of `length` characters, and no key. -/
def keylessRequest (length : ℕ) : V1Request where
  authorization := none
  correlationHeader := some ⟨List.replicate length 'a', fun c mem => by
    rw [List.eq_of_mem_replicate mem]
    decide⟩

theorem failure_traced_iff_storable_short_id :
    Traced plainSettings helloTenantId noonDrawn (keylessRequest 64) .empty :=
  (failure_traced_iff_storable plainSettings helloTenantId noonDrawn (keylessRequest 64) .empty
    (fun _ _ stored => by cases stored)).mpr (.inl (by decide))

/-- One character more, and the client is answered 500 and nothing is written. -/
theorem long_correlation_id_untraced :
    Linked .empty ∧ ¬ Traced plainSettings helloTenantId noonDrawn (keylessRequest 65) .empty := by
  refine ⟨fun _ _ stored => (by cases stored), fun traced => ?_⟩
  have failed : authenticate plainSettings helloTenantId noonDrawn (keylessRequest 65) .empty =
      (.error dbapiError, .empty) := rfl
  obtain ⟨status, _⟩ := traced _ _ failed
  cases status

end Traces
end AegisGateway.AuthFailures
