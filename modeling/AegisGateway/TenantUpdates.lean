import AegisGateway.Accounts

set_option autoImplicit false

/-!
# A tenant's PATCH

`update_tenant` sets the supplied fields and records them in the same commit. The budget
is a `Decimal`, which stays one inside the nested `changes`, so a PATCH of the budget
cannot be recorded and fails. So does one of a threshold that JSON has no number for.
-/
namespace AegisGateway.TenantUpdates
open EffectProgram Accounts
open BudgetScan (RlsContext)
open UsageBilling (storable isInt32)

section Fields
variable {α β : Type}

/-- A supplied value is not null and fits. -/
def SuppliedFits (fits : α → Prop) (supplied : Supplied α) : Prop :=
  ∀ value, supplied = some value → ∃ a, value = some a ∧ fits a

/-- The column has the supplied value, or the old one if none is supplied. -/
def Sets (shows : β → α → Prop) (supplied : Supplied α) (old new : β) : Prop :=
  match supplied with
  | some (some a) => shows new a
  | _ => new = old

theorem column_sets {fits : α → Prop} {shows : β → α → Prop} {store : α → Option β}
    {supplied : Supplied α} (old : β) (h : SuppliedFits fits supplied)
    (stores : ∀ a, fits a → ∃ b, store a = some b ∧ shows b a) :
    ∃ new, column old store supplied = some new ∧ Sets shows supplied old new := by
  rcases supplied with _ | _ | a
  · exact ⟨old, rfl, rfl⟩
  · obtain ⟨_, same, _⟩ := h none rfl
    cases same
  · obtain ⟨_, same, fits⟩ := h (some a) rfl
    cases same
    exact stores a fits

theorem suppliedFits_none {fits : α → Prop} : SuppliedFits fits none :=
  fun _ same => (by cases same)

theorem suppliedFits_some {fits : α → Prop} {a : α} (h : fits a) : SuppliedFits fits (some (some a)) := by
  intro value same
  cases same
  exact ⟨a, rfl, h⟩

theorem storeIf_sets {fits : α → Bool} (a : α) (h : fits a = true) :
    ∃ b, storeIf fits a = some b ∧ b = a :=
  ⟨a, by rw [storeIf, if_pos h], rfl⟩

end Fields

section Payloads
variable {payload : TenantUpdateRequest} {tenant row : Tenant}

/-- A number that a `Numeric(10,2)` column stores as it is. -/
def FitsNumeric102 (d : Decimal) : Prop := ∃ n, toNumeric102 d = some n ∧ n.value = d.value

/-- The supplied values are not null and fit their columns. -/
structure Fits (payload : TenantUpdateRequest) : Prop where
  name : SuppliedFits (storable 255 · = true) payload.name
  monthlyBudgetUsd : SuppliedFits FitsNumeric102 payload.monthlyBudgetUsd
  rateLimitRpm : SuppliedFits (isInt32 · = true) payload.rateLimitRpm
  rateLimitTpm : SuppliedFits (isInt32 · = true) payload.rateLimitTpm
  maxConcurrentRequests : SuppliedFits (isInt32 · = true) payload.maxConcurrentRequests
  piiRedactionEnabled : SuppliedFits (fun _ => True) payload.piiRedactionEnabled
  injectionDetectionEnabled : SuppliedFits (fun _ => True) payload.injectionDetectionEnabled
  injectionDetectionThreshold : SuppliedFits (fun _ => True) payload.injectionDetectionThreshold
  injectionDetectionMode : SuppliedFits (fun _ => True) payload.injectionDetectionMode
  cacheEnabled : SuppliedFits (fun _ => True) payload.cacheEnabled
  isActive : SuppliedFits (fun _ => True) payload.isActive

/-- Each supplied field of the row is set, and every other is as it was. -/
structure Applied (payload : TenantUpdateRequest) (tenant row : Tenant) : Prop where
  name : Sets Eq payload.name tenant.name row.name
  monthlyBudgetUsd : Sets (fun n d => n.value = d.value) payload.monthlyBudgetUsd
    tenant.monthlyBudgetUsd row.monthlyBudgetUsd
  rateLimitRpm : Sets Eq payload.rateLimitRpm tenant.rateLimitRpm row.rateLimitRpm
  rateLimitTpm : Sets Eq payload.rateLimitTpm tenant.rateLimitTpm row.rateLimitTpm
  maxConcurrentRequests : Sets Eq payload.maxConcurrentRequests tenant.maxConcurrentRequests
    row.maxConcurrentRequests
  piiRedactionEnabled : Sets Eq payload.piiRedactionEnabled tenant.piiRedactionEnabled
    row.piiRedactionEnabled
  injectionDetectionEnabled : Sets Eq payload.injectionDetectionEnabled
    tenant.injectionDetectionEnabled row.injectionDetectionEnabled
  injectionDetectionThreshold : Sets Eq payload.injectionDetectionThreshold
    tenant.injectionDetectionThreshold row.injectionDetectionThreshold
  injectionDetectionMode : Sets Eq payload.injectionDetectionMode tenant.injectionDetectionMode
    row.injectionDetectionMode
  cacheEnabled : Sets Eq payload.cacheEnabled tenant.cacheEnabled row.cacheEnabled
  isActive : Sets Eq payload.isActive tenant.isActive row.isActive

theorem applyTo_applied (tenant : Tenant) (h : Fits payload) :
    ∃ row, payload.applyTo tenant = some row ∧ Applied payload tenant row := by
  have whole {γ : Type} (a : γ) (_ : True) : ∃ b, some a = some b ∧ b = a := ⟨a, rfl, rfl⟩
  obtain ⟨name, nameIs, nameSet⟩ := column_sets tenant.name h.name storeIf_sets
  obtain ⟨budget, budgetIs, budgetSet⟩ :=
    column_sets tenant.monthlyBudgetUsd h.monthlyBudgetUsd fun _ fits => fits
  obtain ⟨rpm, rpmIs, rpmSet⟩ := column_sets tenant.rateLimitRpm h.rateLimitRpm storeIf_sets
  obtain ⟨tpm, tpmIs, tpmSet⟩ := column_sets tenant.rateLimitTpm h.rateLimitTpm storeIf_sets
  obtain ⟨concurrent, concurrentIs, concurrentSet⟩ :=
    column_sets tenant.maxConcurrentRequests h.maxConcurrentRequests storeIf_sets
  obtain ⟨pii, piiIs, piiSet⟩ := column_sets tenant.piiRedactionEnabled h.piiRedactionEnabled whole
  obtain ⟨injection, injectionIs, injectionSet⟩ :=
    column_sets tenant.injectionDetectionEnabled h.injectionDetectionEnabled whole
  obtain ⟨threshold, thresholdIs, thresholdSet⟩ :=
    column_sets tenant.injectionDetectionThreshold h.injectionDetectionThreshold whole
  obtain ⟨mode, modeIs, modeSet⟩ :=
    column_sets tenant.injectionDetectionMode h.injectionDetectionMode whole
  obtain ⟨cache, cacheIs, cacheSet⟩ := column_sets tenant.cacheEnabled h.cacheEnabled whole
  obtain ⟨active, activeIs, activeSet⟩ := column_sets tenant.isActive h.isActive whole
  refine ⟨⟨name, budget, rpm, tpm, concurrent, pii, injection, threshold, mode, cache, active⟩, ?_,
    ⟨nameSet, budgetSet, rpmSet, tpmSet, concurrentSet, piiSet, injectionSet, thresholdSet, modeSet,
      cacheSet, activeSet⟩⟩
  simp only [TenantUpdateRequest.applyTo, nameIs, budgetIs, rpmIs, tpmIs, concurrentIs, piiIs,
    injectionIs, thresholdIs, modeIs, cacheIs, activeIs, Option.bind_eq_bind, Option.bind_some]
  rfl

end Payloads

section Names
variable {db db' : Database} {context : RlsContext}

/-- The unique names of `tenants`. -/
def UniqueNames (db : Database) : Prop :=
  ∀ id tenant, db.tenants.lookup id = some tenant → db.nameFree tenant.name (some id) = true

theorem nameFree_iff (db : Database) (name : String) (own : Option Uuid) :
    db.nameFree name own = true ↔
      ∀ id tenant, db.tenants.lookup id = some tenant → tenant.name = name → some id = own := by
  simp only [Database.nameFree, List.all_eq_true, Bool.or_eq_true, decide_eq_true_eq]
  constructor
  · intro free id tenant stored same
    rcases free ⟨id, tenant⟩ (AList.mem_lookup_iff.mp stored) with other | own
    · exact absurd same other
    · exact own
  · rintro free ⟨id, tenant⟩ mem
    by_cases same : tenant.name = name
    · exact .inr (free id tenant (AList.mem_lookup_iff.mpr mem) same)
    · exact .inl same

theorem insert_unique {id : Uuid} {row : Tenant} (h : UniqueNames db)
    (free : db.nameFree row.name (some id) = true) :
    UniqueNames { db with tenants := db.tenants.insert id row } := by
  intro id' tenant' stored'
  rw [nameFree_iff]
  intro id'' tenant'' stored'' same
  simp only at stored' stored''
  by_cases first : id' = id
  · rw [first, AList.lookup_insert] at stored'
    cases stored'
    by_cases second : id'' = id
    · rw [first, second]
    · rw [AList.lookup_insert_ne second] at stored''
      rw [first]
      exact (nameFree_iff db _ _).mp free id'' tenant'' stored'' same
  · rw [AList.lookup_insert_ne first] at stored'
    by_cases second : id'' = id
    · rw [second, AList.lookup_insert] at stored''
      cases stored''
      have owner := (nameFree_iff db _ _).mp free id' tenant' stored' same.symm
      exact absurd (Option.some.inj owner) first
    · rw [AList.lookup_insert_ne second] at stored''
      exact (nameFree_iff db _ _).mp (h id' tenant' stored') id'' tenant'' stored'' same

theorem row_name {payload : TenantCreateRequest} {row : Tenant} (made : payload.row = some row) :
    row.name = payload.name := by
  rw [TenantCreateRequest.row] at made
  split at made
  case isFalse => cases made
  case isTrue =>
    obtain ⟨budget, _, rfl⟩ := Option.map_eq_some_iff.mp made
    rfl

theorem apply_unique {write : Write} (h : UniqueNames db)
    (applied : write.apply context db = some db') : UniqueNames db' := by
  cases write with
  | insertTenant id payload =>
    obtain ⟨free, row, made, rfl⟩ := insertTenant_applied applied
    refine insert_unique h ((nameFree_iff db _ _).mpr fun id' tenant' stored same => ?_)
    have owner := (nameFree_iff db _ _).mp free id' tenant' stored (same.trans (row_name made))
    cases owner
  | updateTenant id payload =>
    obtain ⟨_, row, _, _, free, rfl⟩ := updateTenant_applied applied
    exact insert_unique h free
  | insertApiKey keyId row =>
    obtain ⟨_, _, rfl⟩ := insertApiKey_applied applied
    exact h
  | setRevokedAt keyId now =>
    obtain ⟨row, _, rfl⟩ := updateApiKey_applied applied
    exact h
  | setLastUsedAt keyId now =>
    obtain ⟨row, _, rfl⟩ := updateApiKey_applied applied
    exact h
  | insertAudit row =>
    cases insertAudit_applied applied
    exact h

/-- Every operation keeps the names unique. -/
theorem transact_unique {α : Type} (drawn : Drawn) (p : DbProg α) (h : UniqueNames db) :
    UniqueNames (transact drawn p db).2 :=
  transact_keeps (fun _ h applied => apply_unique h applied) drawn p h

end Names

section Updates
variable {settings : AccountSettings} {request : AdminRequest} {tenantId : Uuid}
  {payload : TenantUpdateRequest} {drawn : Drawn} {db : Database} {tenant : Tenant}

/-- The supplied fields as the audit log is to show them, the budget as text. -/
def recordedChanges (floatRepr : ℚ → String) (payload : TenantUpdateRequest) : JsonObject :=
  suppliedMember "name" .str payload.name ++
  suppliedMember "monthly_budget_usd" (fun d => .str d.str) payload.monthlyBudgetUsd ++
  suppliedMember "rate_limit_rpm" .int payload.rateLimitRpm ++
  suppliedMember "rate_limit_tpm" .int payload.rateLimitTpm ++
  suppliedMember "max_concurrent_requests" .int payload.maxConcurrentRequests ++
  suppliedMember "pii_redaction_enabled" .bool payload.piiRedactionEnabled ++
  suppliedMember "injection_detection_enabled" .bool payload.injectionDetectionEnabled ++
  suppliedMember "injection_detection_threshold" (fun x => .float (x.text floatRepr))
    payload.injectionDetectionThreshold ++
  suppliedMember "injection_detection_mode" (fun mode => .str mode.text)
    payload.injectionDetectionMode ++
  suppliedMember "cache_enabled" .bool payload.cacheEnabled ++
  suppliedMember "is_active" .bool payload.isActive

def updatedRow (settings : AccountSettings) (request : AdminRequest) (tenantId : Uuid)
    (payload : TenantUpdateRequest) : AuditLog :=
  ⟨some tenantId, "admin.tenant_updated", request.correlationId,
    [("admin_id", .str request.adminId),
      ("changes", .obj (recordedChanges settings.floatRepr payload))]⟩

/-- The PATCH succeeds, and commits the changed row and one audit row that records the changes. -/
def AppliesExactly (settings : AccountSettings) (request : AdminRequest) (tenantId : Uuid)
    (payload : TenantUpdateRequest) (drawn : Drawn) (db : Database) (tenant : Tenant) : Prop :=
  ∃ row, Applied payload tenant row ∧
    transact drawn (updateTenant settings request tenantId payload) db =
      (.ok (), { db with
        tenants := db.tenants.insert tenantId row
        auditLog := db.auditLog ++ [updatedRow settings request tenantId payload] })

theorem applied_nameFree {row : Tenant} (unique : UniqueNames db)
    (found : db.tenants.lookup tenantId = some tenant)
    (free : ∀ name, payload.name = some (some name) → db.nameFree name (some tenantId) = true)
    (applied : Applied payload tenant row) : db.nameFree row.name (some tenantId) = true := by
  have name := applied.name
  rcases supplied : payload.name with _ | _ | own
  · rw [supplied] at name
    have same : row.name = tenant.name := name
    rw [same]
    exact unique tenantId tenant found
  · rw [supplied] at name
    have same : row.name = tenant.name := name
    rw [same]
    exact unique tenantId tenant found
  · rw [supplied] at name
    have same : row.name = own := name
    rw [same]
    exact free own supplied

/-- The supplied values can be recorded: there is no budget, and no `NaN` or infinity. -/
def Recordable (payload : TenantUpdateRequest) : Prop :=
  payload.monthlyBudgetUsd = none ∧ payload.finiteThreshold = true

theorem changes_recorded (floatRepr : ℚ → String) (h : Recordable payload) :
    payload.changes floatRepr = some (recordedChanges floatRepr payload) := by
  rw [TenantUpdateRequest.changes, recordedChanges, h.1, h.2]
  rfl

theorem changes_unrecorded (floatRepr : ℚ → String) (fits : Fits payload) (h : ¬ Recordable payload) :
    payload.changes floatRepr = none := by
  rw [TenantUpdateRequest.changes]
  rcases supplied : payload.monthlyBudgetUsd with _ | _ | d
  · cases finite : payload.finiteThreshold with
    | false => rfl
    | true => exact absurd ⟨supplied, finite⟩ h
  · obtain ⟨_, same, _⟩ := fits.monthlyBudgetUsd none supplied
    cases same
  · rfl

theorem writes_applied (settings : AccountSettings) (request : AdminRequest) {row : Tenant}
    (found : db.tenants.lookup tenantId = some tenant)
    (made : payload.applyTo tenant = some row) (named : db.nameFree row.name (some tenantId) = true) :
    applyWrites bypassing db ([.updateTenant tenantId payload] ++
        [.insertAudit (updatedRow settings request tenantId payload)]) =
      if request.correlationId.all (storable 64) then
        some { db with
          tenants := db.tenants.insert tenantId row
          auditLog := db.auditLog ++ [updatedRow settings request tenantId payload] }
      else none := by
  have written : (Write.updateTenant tenantId payload).apply bypassing db =
      some { db with tenants := db.tenants.insert tenantId row } := by
    simp only [Write.apply, found, Option.bind_some, made, named, if_true]
  have event : storable 64 "admin.tenant_updated" = true := by decide
  rw [List.singleton_append, applyWrites_cons, written, Option.bind_some, applyWrites_singleton,
    Write.apply]
  simp only [updatedRow, Option.all_some, AList.lookup_insert, Option.isSome_some, event,
    bypassing_grants, Bool.true_and, Bool.and_true]

theorem update_ended {r : Except Exn Unit} {db' : Database}
    (found : db.tenants.lookup tenantId = some tenant)
    (h : transact drawn (updateTenant settings request tenantId payload) db = (r, db')) :
    ∃ txn, (writeChanges request tenantId payload (payload.changes settings.floatRepr)).runState
      (answerDb drawn) ⟨db, db, bypassing⟩ = (r, txn) ∧ txn.committed = db' := by
  obtain ⟨txn, run, committed⟩ := transact_run h
  have run := ask_run ⟨db, db, bypassing⟩ rfl run
  have run := ask_run ⟨db, db, bypassing⟩ rfl run
  simp only [found] at run
  exact ⟨txn, run, committed⟩

/-- A PATCH does what was sent exactly if its values can be recorded and its correlation id
fits the column. -/
theorem patch_applies_iff (settings : AccountSettings) (request : AdminRequest) (drawn : Drawn)
    (unique : UniqueNames db) (found : db.tenants.lookup tenantId = some tenant) (fits : Fits payload)
    (free : ∀ name, payload.name = some (some name) → db.nameFree name (some tenantId) = true) :
    AppliesExactly settings request tenantId payload drawn db tenant ↔
      Recordable payload ∧ request.correlationId.all (storable 64) = true := by
  cases ended : transact drawn (updateTenant settings request tenantId payload) db with
  | mk r db' =>
    obtain ⟨txn, run, rfl⟩ := update_ended found ended
    by_cases recordable : Recordable payload
    case neg =>
      rw [changes_unrecorded settings.floatRepr fits recordable] at run
      refine ⟨?_, fun h => absurd h.1 recordable⟩
      rintro ⟨_, _, done⟩
      obtain ⟨rfl, _⟩ := Prod.mk.inj (ended.symm.trans done)
      cases run
    case pos =>
      obtain ⟨row, made, applied⟩ := applyTo_applied tenant fits
      have named := applied_nameFree unique found free applied
      have commits := writes_applied settings request found made named
      rw [changes_recorded settings.floatRepr recordable] at run
      constructor
      · rintro ⟨_, _, done⟩
        obtain ⟨rfl, _⟩ := Prod.mk.inj (ended.symm.trans done)
        refine ⟨recordable, ?_⟩
        rcases audit_cases run with ⟨e, raised, _⟩ | ⟨_, _, taken, _⟩
        · cases raised
        · have taken := commits.symm.trans taken
          split at taken
          · assumption
          · cases taken
      · rintro ⟨_, short⟩
        rw [if_pos short] at commits
        have run := (audit_taken commits).symm.trans run
        cases run
        exact ⟨row, applied, ended⟩

def acmeDatabase : Database :=
  { Database.empty with tenants := Database.empty.tenants.insert helloTenantId acmeTenant }

theorem acmeDatabase_unique : UniqueNames acmeDatabase :=
  insert_unique (fun _ _ stored => by cases stored) rfl

theorem acmeDatabase_found : acmeDatabase.tenants.lookup helloTenantId = some acmeTenant :=
  AList.lookup_insert _

def policyPatch : TenantUpdateRequest where
  injectionDetectionMode := some (some .log)
  cacheEnabled := some (some false)

theorem policyPatch_fits : Fits policyPatch :=
  ⟨suppliedFits_none, suppliedFits_none, suppliedFits_none, suppliedFits_none, suppliedFits_none,
    suppliedFits_none, suppliedFits_none, suppliedFits_none, suppliedFits_some trivial,
    suppliedFits_some trivial, suppliedFits_none⟩

theorem patch_applies_iff_policy :
    AppliesExactly plainSettings ⟨"admin", some "c"⟩ helloTenantId policyPatch noonDrawn acmeDatabase
      acmeTenant :=
  (patch_applies_iff plainSettings ⟨"admin", some "c"⟩ noonDrawn acmeDatabase_unique acmeDatabase_found
    policyPatch_fits (fun _ supplied => by cases supplied)).mpr ⟨⟨rfl, rfl⟩, by decide⟩

/-- The budget set to 250.00. -/
def budgetPatch : TenantUpdateRequest where
  monthlyBudgetUsd := some (some ⟨25000, 2⟩)

theorem budgetPatch_fits : Fits budgetPatch := by
  have stored : toNumeric102 ⟨25000, 2⟩ = some ⟨25000, by decide⟩ := by
    have scaled : (⟨25000, 2⟩ : Decimal).value * 100 = 25000 := by norm_num [Decimal.value]
    have cents : ⌊(25000 : ℚ) + 1 / 2⌋ = 25000 := by norm_num [Int.floor_eq_iff]
    simp only [toNumeric102, scaled, cents]
    rfl
  have value : (⟨25000, by decide⟩ : Numeric102).value = (⟨25000, 2⟩ : Decimal).value := by
    norm_num [Numeric102.value, Decimal.value]
  exact ⟨suppliedFits_none, suppliedFits_some ⟨_, stored, value⟩, suppliedFits_none, suppliedFits_none,
    suppliedFits_none, suppliedFits_none, suppliedFits_none, suppliedFits_none, suppliedFits_none,
    suppliedFits_none, suppliedFits_none⟩

/-- The `Decimal` in the detail fails the commit, and the budget stays what it was. -/
theorem budget_patch_fails :
    UniqueNames acmeDatabase ∧ acmeDatabase.tenants.lookup helloTenantId = some acmeTenant ∧
      Fits budgetPatch ∧ ¬ AppliesExactly plainSettings ⟨"admin", some "c"⟩ helloTenantId budgetPatch
        noonDrawn acmeDatabase acmeTenant := by
  refine ⟨acmeDatabase_unique, acmeDatabase_found, budgetPatch_fits, ?_⟩
  rintro ⟨row, _, done⟩
  obtain ⟨txn, run, _⟩ := update_ended acmeDatabase_found done
  cases run

end Updates
end AegisGateway.TenantUpdates
