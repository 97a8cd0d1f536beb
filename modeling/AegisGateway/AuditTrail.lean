import AegisGateway.KeyLifecycle
import AegisGateway.TransitionRuns

set_option autoImplicit false

/-!
# The accounts, as the audit log tells them

Every operation on tenants and keys commits its writes together with one row of the audit log,
or not at all. Whoever reads the log from its beginning can follow who owns which key,
which keys are revoked and which tenants are active, up to any point of the past.
-/
namespace AegisGateway.AuditTrail
open EffectProgram TransitionRuns Accounts KeyLifecycle
open BudgetScan (RlsContext UtcDateTime)

section Reading

/-- The owner of each key and whether it is revoked; whether each tenant is active. -/
@[ext] structure AccountView where
  keys : String → Option (Uuid × Bool)
  tenants : Uuid → Option Bool

/-- What the tables say. -/
def accountView (db : Database) : AccountView where
  keys keyId := (db.apiKeys.lookup keyId).map fun row => (row.tenantId, row.revokedAt.isSome)
  tenants id := (db.tenants.lookup id).map Tenant.isActive

/-- The `key_id` of a detail. -/
def keyIdOf (detail : JsonObject) : String :=
  match Json.get detail "key_id" with
  | .str keyId => keyId
  | _ => ""

/-- The `is_active` among the changes of a detail. -/
def activeChange (detail : JsonObject) : Option Bool :=
  match Json.get detail "changes" with
  | .obj changes =>
    match Json.get changes "is_active" with
    | .bool active => some active
    | _ => none
  | _ => none

def AccountView.told (view : AccountView) (id : Uuid) (eventType : String) (detail : JsonObject) :
    AccountView :=
  if eventType = "admin.tenant_created" then
    { view with tenants := Function.update view.tenants id (some true) }
  else if eventType = "admin.tenant_updated" then
    { view with
      tenants := Function.update view.tenants id
        ((view.tenants id).map fun active => (activeChange detail).getD active) }
  else if eventType = "admin.api_key_issued" then
    { view with keys := Function.update view.keys (keyIdOf detail) (some (id, false)) }
  else if eventType = "admin.api_key_revoked" then
    { view with
      keys := Function.update view.keys (keyIdOf detail)
        ((view.keys (keyIdOf detail)).map fun key => (key.1, true)) }
  else view

/-- The view after one more row. -/
def replayRow (view : AccountView) (row : AuditLog) : AccountView :=
  match row.tenantId with
  | none => view
  | some id => view.told id row.eventType row.detail

def AccountView.replay (view : AccountView) (rows : List AuditLog) : AccountView :=
  rows.foldl replayRow view

theorem replay_append (view : AccountView) (rows more : List AuditLog) :
    view.replay (rows ++ more) = (view.replay rows).replay more := List.foldl_append ..

/-- The events of the other writers: the authentication, the two logins, the security pipeline and
the budget scan. -/
def otherEvents : List String :=
  ["auth.failure", "admin.login_failure", "pii.redacted", "injection.blocked", "injection.detected",
    "budget.threshold_reached"]

theorem replayRow_other {row : AuditLog} (other : row.eventType ∈ otherEvents) (view : AccountView) :
    replayRow view row = view := by
  have apart : ∀ event ∈ otherEvents, event ≠ "admin.tenant_created" ∧
      event ≠ "admin.tenant_updated" ∧ event ≠ "admin.api_key_issued" ∧
      event ≠ "admin.api_key_revoked" := by decide
  obtain ⟨created, updated, issued, revoked⟩ := apart _ other
  rw [replayRow]
  split
  · rfl
  · rw [AccountView.told, if_neg created, if_neg updated, if_neg issued, if_neg revoked]

end Reading

section Writing
variable {context : RlsContext} {db db' : Database}

/-- The audit rows among the writes. -/
def auditRows : List Write → List AuditLog
  | [] => []
  | .insertAudit row :: rest => row :: auditRows rest
  | _ :: rest => auditRows rest

theorem auditRows_append (writes more : List Write) :
    auditRows (writes ++ more) = auditRows writes ++ auditRows more := by
  induction writes with
  | nil => rfl
  | cons write rest ih =>
    cases write with
    | insertAudit row => exact congrArg (row :: ·) ih
    | _ => exact ih

/-- The write turns the one database into the other, in some context. -/
def Turns (write : Write) (db db' : Database) : Prop := ∃ context, write.apply context db = some db'

/-- The writes do, one after the other. -/
def TurnsAll : List Write → Database → Database → Prop
  | [], db, db' => db' = db
  | write :: rest, db, db' => ∃ mid, Turns write db mid ∧ TurnsAll rest mid db'

theorem TurnsAll.append {writes more : List Write} {mid : Database} (first : TurnsAll writes db mid)
    (second : TurnsAll more mid db') : TurnsAll (writes ++ more) db db' := by
  induction writes generalizing db with
  | nil =>
    cases first
    exact second
  | cons write rest ih =>
    obtain ⟨next, turned, later⟩ := first
    exact ⟨next, turned, ih later⟩

theorem applyWrites_turns {writes : List Write} (applied : applyWrites context db writes = some db') :
    TurnsAll writes db db' := by
  induction writes generalizing db with
  | nil =>
    cases applied
    rfl
  | cons write rest ih =>
    rw [applyWrites_cons] at applied
    obtain ⟨mid, first, later⟩ := Option.bind_eq_some_iff.mp applied
    exact ⟨mid, ⟨context, first⟩, ih later⟩

theorem Turns.auditLog {write : Write} (turns : Turns write db db') :
    db'.auditLog = db.auditLog ++ auditRows [write] := by
  obtain ⟨context, applied⟩ := turns
  cases write with
  | insertTenant id payload =>
    obtain ⟨-, row, -, rfl⟩ := insertTenant_applied applied
    exact (List.append_nil _).symm
  | updateTenant id payload =>
    obtain ⟨_, row, -, -, -, rfl⟩ := updateTenant_applied applied
    exact (List.append_nil _).symm
  | insertApiKey keyId row =>
    obtain ⟨-, -, rfl⟩ := insertApiKey_applied applied
    exact (List.append_nil _).symm
  | setRevokedAt keyId now =>
    obtain ⟨row, -, rfl⟩ := updateApiKey_applied applied
    exact (List.append_nil _).symm
  | setLastUsedAt keyId now =>
    obtain ⟨row, -, rfl⟩ := updateApiKey_applied applied
    exact (List.append_nil _).symm
  | insertAudit row =>
    rw [insertAudit_applied applied]
    rfl

theorem TurnsAll.auditLog {writes : List Write} (turns : TurnsAll writes db db') :
    db'.auditLog = db.auditLog ++ auditRows writes := by
  induction writes generalizing db with
  | nil =>
    cases turns
    exact (List.append_nil _).symm
  | cons write rest ih =>
    obtain ⟨mid, turned, later⟩ := turns
    rw [ih later, turned.auditLog, List.append_assoc, ← auditRows_append]
    rfl

end Writing

section Views

theorem accountView_keys (db : Database) {db' : Database} {keyId : String} {row : ApiKey}
    (keys : db'.apiKeys = db.apiKeys.insert keyId row) (tenants : db'.tenants = db.tenants) :
    accountView db' =
      { accountView db with
        keys := Function.update (accountView db).keys keyId
          (some (row.tenantId, row.revokedAt.isSome)) } := by
  refine AccountView.ext ?_ ?_
  · funext other
    by_cases same : other = keyId
    · subst same
      simp [accountView, keys]
    · simp [accountView, keys, AList.lookup_insert_ne same, Function.update_of_ne same]
  · simp [accountView, tenants]

theorem accountView_tenants (db : Database) {db' : Database} {id : Uuid} {row : Tenant}
    (keys : db'.apiKeys = db.apiKeys)
    (tenants : db'.tenants = db.tenants.insert id row) :
    accountView db' =
      { accountView db with
        tenants := Function.update (accountView db).tenants id (some row.isActive) } := by
  refine AccountView.ext ?_ ?_
  · simp [accountView, keys]
  · funext other
    by_cases same : other = id
    · subst same
      simp [accountView, tenants]
    · simp [accountView, tenants, AList.lookup_insert_ne same, Function.update_of_ne same]

variable {db db' : Database}

theorem accountView_same (same : SameAccounts db db') : accountView db' = accountView db := by
  rw [accountView, accountView, same.1, same.2]

/-- The writes come with the row that tells of them, if there is anything to tell. -/
structure Told (writes : List Write) : Prop where
  once : (auditRows writes).length ≤ 1
  replayed : ∀ db db', TurnsAll writes db db' →
    accountView db' = (accountView db).replay (auditRows writes)

theorem audit_view {row : AuditLog} (turns : Turns (.insertAudit row) db db') :
    accountView db' = accountView db := by
  obtain ⟨context, applied⟩ := turns
  exact accountView_same (insertAudit_same applied)

theorem told_pair {write : Write} {row : AuditLog} (silent : auditRows [write] = [])
    (tells : ∀ context db db', write.apply context db = some db' →
      accountView db' = replayRow (accountView db) row) :
    Told ([write] ++ [.insertAudit row]) := by
  have rows : auditRows ([write] ++ [.insertAudit row]) = [row] := by
    rw [auditRows_append, silent]
    rfl
  refine ⟨by rw [rows]; exact le_refl _, ?_⟩
  rintro db _ ⟨mid, ⟨context, applied⟩, last, written, rfl⟩
  rw [rows, audit_view written]
  exact tells context db mid applied

theorem told_other {row : AuditLog} (other : row.eventType ∈ otherEvents) :
    Told ([] ++ [.insertAudit row]) := by
  refine ⟨le_refl _, ?_⟩
  rintro db _ ⟨mid, written, rfl⟩
  rw [audit_view written]
  exact (replayRow_other other _).symm

theorem told_createTenant (id : Uuid) (payload : TenantCreateRequest) (correlationId : Option String)
    (detail : JsonObject) :
    Told ([.insertTenant id payload] ++
      [.insertAudit ⟨some id, "admin.tenant_created", correlationId, detail⟩]) := by
  refine told_pair rfl fun context db db' applied => ?_
  obtain ⟨-, row, made, rfl⟩ := insertTenant_applied applied
  refine Eq.trans (accountView_tenants db rfl rfl) ?_
  rw [row_isActive made]
  rfl

theorem told_createApiKey (tenantId : Uuid) (keyId hashedSecret name : String)
    (correlationId : Option String) (adminId : String) :
    Told ([.insertApiKey keyId ⟨tenantId, hashedSecret, name, none, none⟩] ++
      [.insertAudit ⟨some tenantId, "admin.api_key_issued", correlationId,
        [("admin_id", .str adminId), ("key_id", .str keyId), ("name", .str name)]⟩]) := by
  refine told_pair rfl fun context db db' applied => ?_
  obtain ⟨-, -, rfl⟩ := insertApiKey_applied applied
  exact Eq.trans (accountView_keys db rfl rfl) rfl

theorem told_revokeApiKey (tenantId : Uuid) (keyId : String) (now : UtcDateTime)
    (correlationId : Option String) (adminId : String) :
    Told ([.setRevokedAt keyId now] ++
      [.insertAudit ⟨some tenantId, "admin.api_key_revoked", correlationId,
        [("admin_id", .str adminId), ("key_id", .str keyId)]⟩]) := by
  refine told_pair rfl fun context db db' applied => ?_
  obtain ⟨row, stored, rfl⟩ := updateApiKey_applied applied
  refine Eq.trans (accountView_keys db rfl rfl) ?_
  have known : (accountView db).keys keyId = some (row.tenantId, row.revokedAt.isSome) := by
    change (db.apiKeys.lookup keyId).map _ = _
    rw [stored]
    rfl
  change _ = { accountView db with
    keys := Function.update (accountView db).keys keyId
      (((accountView db).keys keyId).map fun key : Uuid × Bool => (key.1, true)) }
  rw [known]
  rfl

theorem told_setLastUsedAt (keyId : String) (now : UtcDateTime) :
    Told ([] ++ [.setLastUsedAt keyId now]) := by
  refine ⟨Nat.zero_le _, ?_⟩
  rintro db _ ⟨_, ⟨context, applied⟩, rfl⟩
  obtain ⟨row, stored, rfl⟩ := updateApiKey_applied applied
  refine Eq.trans (accountView_keys db rfl rfl) ?_
  -- The row's owner and its revocation stay.
  have known : (accountView db).keys keyId = some (row.tenantId, row.revokedAt.isSome) := by
    change (db.apiKeys.lookup keyId).map _ = _
    rw [stored]
    rfl
  rw [← known, Function.update_eq_self]
  rfl

theorem lookup_skip {α : Type} {key other : String} (apart : other ≠ key) (render : α → Json)
    (supplied : Supplied α) (rest : JsonObject) :
    List.lookup key (suppliedMember other render supplied ++ rest) = List.lookup key rest := by
  rcases supplied with _ | _ | a
  · rfl
  · simp [suppliedMember, List.lookup_cons, beq_eq_false_iff_ne.mpr (Ne.symm apart)]
  · simp [suppliedMember, List.lookup_cons, beq_eq_false_iff_ne.mpr (Ne.symm apart)]

theorem activeChange_changes {floatRepr : ℚ → String} {payload : TenantUpdateRequest}
    {changes : JsonObject} (made : payload.changes floatRepr = some changes) (adminId : String) :
    activeChange [("admin_id", .str adminId), ("changes", .obj changes)] = payload.isActive.join := by
  have flag : changes.lookup "is_active" =
      (suppliedMember "is_active" Json.bool payload.isActive).lookup "is_active" := by
    rw [TenantUpdateRequest.changes] at made
    split at made
    · cases made
    · cases made
    · cases made
      simp only [List.append_assoc]
      iterate 10 rw [lookup_skip (by decide)]
  have found : activeChange [("admin_id", .str adminId), ("changes", .obj changes)] =
      (match Json.get changes "is_active" with
        | .bool active => some active
        | _ => none) := rfl
  rw [found, Json.get, flag]
  rcases payload.isActive with _ | _ | active <;> rfl

theorem told_updateTenant {floatRepr : ℚ → String} {payload : TenantUpdateRequest}
    {changes : JsonObject} (made : payload.changes floatRepr = some changes) (tenantId : Uuid)
    (correlationId : Option String) (adminId : String) :
    Told ([.updateTenant tenantId payload] ++
      [.insertAudit ⟨some tenantId, "admin.tenant_updated", correlationId,
        [("admin_id", .str adminId), ("changes", .obj changes)]⟩]) := by
  refine told_pair rfl fun context db db' applied => ?_
  obtain ⟨tenant, row, stored, fits, -, rfl⟩ := updateTenant_applied applied
  refine Eq.trans (accountView_tenants db rfl rfl) ?_
  have known : (accountView db).tenants tenantId = some tenant.isActive := by
    change (db.tenants.lookup tenantId).map _ = _
    rw [stored]
    rfl
  change _ = { accountView db with
    tenants := Function.update (accountView db).tenants tenantId
      (((accountView db).tenants tenantId).map fun active : Bool => (activeChange
        [("admin_id", .str adminId), ("changes", .obj changes)]).getD active) }
  rw [known, activeChange_changes made, applyTo_isActive fits, TenantUpdateRequest.activeAfter]
  rcases payload.isActive with _ | _ | active <;> rfl

end Views

section Programs
variable {α : Type} {drawn : Drawn} {db db' : Database}

def writesNothing : DbOp → Prop
  | .flush _ | .commit _ => False
  | _ => True

/-- The writes are told by a row that meets the condition. -/
def ToldBy (said : AuditLog → Prop) (writes : List Write) : Prop :=
  Told writes ∧ ∀ row ∈ auditRows writes, said row

/-- The program commits once at most, and then all that it has written is told. -/
def Commits (said : AuditLog → Prop) : List Write → DbProg α → Prop
  | _, .done _ => True
  | untold, .call op next =>
    match op, next with
    | .flush writes, next =>
      Commits said (untold ++ writes) (next (.ok ())) ∧ Commits said untold (next (.error dbapiError))
    | .commit writes, next => ToldBy said (untold ++ writes) ∧ ∀ o, (next o).Uses writesNothing
    | _, next => ∀ a, Commits said untold (next (.ok a))

theorem writesNothing_run {p : DbProg α} (still : p.Uses writesNothing) (txn : Txn) :
    (p.runState (answerDb drawn) txn).2.committed = txn.committed := by
  induction p generalizing txn with
  | done r => rfl
  | call op next ih =>
    have kept : (answerDb drawn txn op).2.committed = txn.committed := by
      cases op with
      | flush writes => exact still.1.elim
      | commit writes => exact still.1.elim
      | _ => rfl
    exact (ih _ (still.2 _) _).trans kept

variable {said : AuditLog → Prop}

/-- The audit log has grown by the row that tells what has become of the accounts, or by none. -/
def Recorded (said : AuditLog → Prop) (db db' : Database) : Prop :=
  ∃ rows : List AuditLog, rows.length ≤ 1 ∧ (∀ row ∈ rows, said row) ∧
    db'.auditLog = db.auditLog ++ rows ∧ accountView db' = (accountView db).replay rows

theorem Recorded.refl (db : Database) : Recorded said db db := ⟨[], by simp, by simp, by simp, rfl⟩

theorem Recorded.mono {said' : AuditLog → Prop} (recorded : Recorded said db db')
    (imp : ∀ row, said row → said' row) : Recorded said' db db' := by
  obtain ⟨rows, once, meet, log, view⟩ := recorded
  exact ⟨rows, once, fun row mem => imp row (meet row mem), log, view⟩

theorem ToldBy.recorded {writes : List Write} (told : ToldBy said writes)
    (turns : TurnsAll writes db db') : Recorded said db db' :=
  ⟨auditRows writes, told.1.once, told.2, turns.auditLog, told.1.replayed _ _ turns⟩

theorem Commits.returning {β : Type} {p : DbProg α} {untold : List Write}
    (commits : Commits said untold p) (b : β) : Commits said untold (p >>= fun _ => pure b) := by
  induction p generalizing untold with
  | done r => cases r <;> trivial
  | call op next ih =>
    cases op with
    | flush writes => exact ⟨ih _ commits.1, ih _ commits.2⟩
    | commit writes => exact ⟨commits.1, fun o => Prog.Uses.bind (commits.2 o) fun _ => trivial⟩
    | _ => exact fun a => ih _ (commits a)

theorem commits_run {p : DbProg α} {untold : List Write} (commits : Commits said untold p) (txn : Txn)
    (turned : TurnsAll untold txn.committed txn.working) :
    Recorded said txn.committed (p.runState (answerDb drawn) txn).2.committed := by
  induction p generalizing untold txn with
  | done r => exact .refl _
  | call op next ih =>
    cases op with
    | flush writes =>
      obtain ⟨taken, refused⟩ := commits
      cases applied : applyWrites txn.context txn.working writes with
      | some db' =>
        have answered : answerDb drawn txn (.flush writes) = (.ok (), { txn with working := db' }) := by
          rw [answerDb, applied]
        rw [Prog.runState, answered]
        exact ih _ taken { txn with working := db' } (turned.append (applyWrites_turns applied))
      | none =>
        have answered : answerDb drawn txn (.flush writes) = (.error dbapiError, txn) := by
          rw [answerDb, applied]
        rw [Prog.runState, answered]
        exact ih _ refused txn turned
    | commit writes =>
      obtain ⟨told, still⟩ := commits
      cases applied : applyWrites txn.context txn.working writes with
      | some db' =>
        have answered : answerDb drawn txn (.commit writes) = (.ok (), ⟨db', db', .none⟩) := by
          rw [answerDb, applied]
        rw [Prog.runState, answered]
        dsimp only
        rw [writesNothing_run (still _)]
        exact told.recorded (turned.append (applyWrites_turns applied))
      | none =>
        have answered : answerDb drawn txn (.commit writes) = (.error dbapiError, txn) := by
          rw [answerDb, applied]
        rw [Prog.runState, answered]
        dsimp only
        rw [writesNothing_run (still _)]
        exact .refl _
    | setRlsContext tenantId bypass => exact ih _ (commits _) _ turned
    | _ => exact ih _ (commits _) txn turned

theorem transact_recorded {p : DbProg α} (commits : Commits said [] p) :
    Recorded said db (transact drawn p db).2 :=
  @commits_run α drawn said p [] commits ⟨db, db, .none⟩ rfl

/-- The row names the admin. -/
def NamesAdmin (adminId : String) (row : AuditLog) : Prop :=
  Json.get row.detail "admin_id" = .str adminId

/-- The row tells of something else than the accounts. -/
def TellsOther (row : AuditLog) : Prop := row.eventType ∈ otherEvents

theorem toldBy_pair {write : Write} {row : AuditLog} (told : Told ([write] ++ [.insertAudit row]))
    (silent : auditRows [write] = []) (meets : said row) : ToldBy said ([write] ++ [.insertAudit row]) := by
  refine ⟨told, fun other mem => ?_⟩
  rw [auditRows_append, silent, List.nil_append] at mem
  rw [List.mem_singleton.mp mem]
  exact meets

theorem toldBy_other {row : AuditLog} (other : TellsOther row) :
    ToldBy TellsOther ([] ++ [.insertAudit row]) := by
  refine ⟨told_other other, fun row' mem => ?_⟩
  rw [List.mem_singleton.mp mem]
  exact other

theorem createTenant_tells (request : AdminRequest) (payload : TenantCreateRequest) :
    Commits (NamesAdmin request.adminId) [] (createTenant request payload) := by
  refine fun _ id => ⟨fun _ => ⟨toldBy_pair (told_createTenant id payload _ _) rfl rfl, fun o => ?_⟩,
    trivial⟩
  cases o <;> trivial

theorem updateTenant_tells (settings : AccountSettings) (request : AdminRequest) (tenantId : Uuid)
    (payload : TenantUpdateRequest) :
    Commits (NamesAdmin request.adminId) [] (updateTenant settings request tenantId payload) := by
  refine fun _ found => ?_
  cases found with
  | none => trivial
  | some tenant =>
    change Commits _ [] (writeChanges request tenantId payload (payload.changes settings.floatRepr))
    cases made : payload.changes settings.floatRepr with
    | none => exact fun _ => trivial
    | some changes =>
      refine fun _ => ⟨toldBy_pair (told_updateTenant made tenantId _ _) rfl rfl, fun o => ?_⟩
      cases o <;> trivial

theorem createApiKey_tells (settings : AccountSettings) (request : AdminRequest) (tenantId : Uuid)
    (name : String) :
    Commits (NamesAdmin request.adminId) [] (createApiKey settings request tenantId name) := by
  refine fun _ found => ?_
  cases found with
  | none => trivial
  | some tenant =>
    refine fun keyId secretPart =>
      ⟨fun _ => ⟨toldBy_pair (told_createApiKey tenantId keyId _ name _ _) rfl rfl, fun o => ?_⟩, trivial⟩
    cases o <;> trivial

theorem revokeApiKey_tells (request : AdminRequest) (tenantId : Uuid) (keyId : String) :
    Commits (NamesAdmin request.adminId) [] (revokeApiKey request tenantId keyId) := by
  refine fun _ found => ?_
  rcases found with _ | ⟨owner, hashedSecret, name, revokedAt, lastUsedAt⟩
  · trivial
  cases revokedAt with
  | some time => trivial
  | none =>
    refine fun now _ => ⟨toldBy_pair (told_revokeApiKey tenantId keyId now _ _) rfl rfl, fun o => ?_⟩
    cases o <;> trivial

theorem authFailure_tells (request : AuthRequest) (tenantId : Option Uuid) (detail : JsonObject)
    (message : String) :
    Commits TellsOther [] (authFailure (α := α) request tenantId detail message) := by
  refine fun _ => ⟨toldBy_other (by simp [TellsOther, otherEvents]), fun o => ?_⟩
  cases o <;> trivial

theorem getCurrentTenant_tells (settings : AccountSettings) (request : AuthRequest) :
    Commits TellsOther [] (getCurrentTenant settings request) := by
  have resolves (keyId : String) (row : ApiKey) :
      Commits TellsOther [] (resolveTenant request keyId row) := by
    refine fun _ found => ?_
    cases found with
    | none => exact authFailure_tells _ _ _ _
    | some tenant =>
      change Commits _ [] (if tenant.isActive then _ else _)
      split
      · refine fun now => ⟨⟨told_setLastUsedAt keyId now, by simp [auditRows]⟩, fun o => ?_⟩
        cases o <;> trivial
      · exact authFailure_tells _ _ _ _
  rw [getCurrentTenant]
  split
  · exact authFailure_tells _ _ _ _
  · split
    · exact authFailure_tells _ _ _ _
    · rename_i keyId secretPart _
      refine fun _ found => ?_
      cases found with
      | none => exact authFailure_tells _ _ _ _
      | some row =>
        change Commits _ [] (checkApiKey settings request keyId secretPart row)
        rw [checkApiKey]
        split
        · exact authFailure_tells _ _ _ _
        · split
          · exact authFailure_tells _ _ _ _
          · exact resolves _ _

end Programs

section Histories
variable {settings : AccountSettings}

inductive Deed where
  | operation (call : OpCall)
  | noted (row : AuditLog)

/-- An operation, or a row of one of the other writers. -/
inductive Recording (settings : AccountSettings) : Database → Deed → Database → Prop where
  | operation (db : Database) (call : OpCall) :
      Recording settings db (.operation call) (perform settings call db).2
  | noted (db : Database) (row : AuditLog) (other : row.eventType ∈ otherEvents) :
      Recording settings db (.noted row) { db with auditLog := db.auditLog ++ [row] }

theorem concluded_snd {α : Type} (f : α → Outcome) (ended : Except Exn α × Database) :
    (concluded f ended).2 = ended.2 := by
  obtain ⟨r, db⟩ := ended
  cases r <;> rfl

theorem perform_recorded (settings : AccountSettings) (call : OpCall) (db : Database) :
    ∃ said, Recorded said db (perform settings call db).2 := by
  obtain ⟨op, drawn⟩ := call
  cases op with
  | createTenant request payload =>
    exact ⟨_, (concluded_snd _ _).symm ▸ transact_recorded (createTenant_tells request payload)⟩
  | updateTenant request tenantId payload =>
    exact ⟨_, (concluded_snd _ _).symm ▸
      transact_recorded (updateTenant_tells settings request tenantId payload)⟩
  | createApiKey request tenantId name =>
    exact ⟨_, (concluded_snd _ _).symm ▸
      transact_recorded (createApiKey_tells settings request tenantId name)⟩
  | revokeApiKey request tenantId keyId =>
    exact ⟨_, (concluded_snd _ _).symm ▸ transact_recorded (revokeApiKey_tells request tenantId keyId)⟩
  | authenticate request =>
    exact ⟨_, (concluded_snd _ _).symm ▸ transact_recorded (getCurrentTenant_tells settings request)⟩

theorem Recording.recorded {db db' : Database} {deed : Deed} (step : Recording settings db deed db') :
    ∃ said, Recorded said db db' := by
  cases step with
  | operation call => exact perform_recorded settings call db
  | noted row other =>
    exact ⟨TellsOther, [row], le_refl _, by simpa [TellsOther] using other, rfl,
      (replayRow_other other _).symm⟩

/-- The rows since the start tell what has become of the accounts. With the last ones cut off they
tell it of some earlier database. -/
def ToldSince (start : Database) (past : List Database) (db : Database) : Prop :=
  ∃ rows, db.auditLog = start.auditLog ++ rows ∧ (accountView start).replay rows = accountView db ∧
    ∀ n ≤ rows.length, ∃ before ∈ past, before.auditLog = start.auditLog ++ rows.take n ∧
      (accountView start).replay (rows.take n) = accountView before

theorem ToldSince.step {start db db' : Database} {past : List Database} (told : ToldSince start past db)
    {said : AuditLog → Prop} (recorded : Recorded said db db') : ToldSince start (past ++ [db']) db' := by
  obtain ⟨rows, log, current, earlier⟩ := told
  obtain ⟨new, once, -, grown, seen⟩ := recorded
  have whole : db'.auditLog = start.auditLog ++ (rows ++ new) := by
    rw [grown, log, List.append_assoc]
  have now : (accountView start).replay (rows ++ new) = accountView db' := by
    rw [replay_append, current, seen]
  refine ⟨rows ++ new, whole, now, fun n bound => ?_⟩
  by_cases old : n ≤ rows.length
  · obtain ⟨before, mem, same, known⟩ := earlier n old
    rw [List.take_append_of_le_length old]
    exact ⟨before, List.mem_append_left _ mem, same, known⟩
  · -- One row more at most, so these are all rows.
    have all : (rows ++ new).take n = rows ++ new := by
      refine List.take_of_length_le ?_
      rw [List.length_append]
      omega
    rw [all]
    exact ⟨db', by simp, whole, now⟩

theorem ToldSince.run {start db : Database} {run : List (Deed × Database)} {past : List Database}
    (told : ToldSince start past db) (h : IsRun (Recording settings) db run) :
    ToldSince start (past ++ run.map Prod.snd) (final db run) := by
  induction run generalizing db past with
  | nil =>
    rw [List.map_nil, List.append_nil]
    exact told
  | cons head rest ih =>
    obtain ⟨deed, db'⟩ := head
    obtain ⟨said, recorded⟩ := h.1.recorded
    have later := ih (told.step recorded) h.2
    rwa [List.append_assoc] at later

/-- Reading what the audit log has got since the start gives the accounts as they are, and reading
its first rows gives them as they were when the log ended there: nothing happens to a key's
ownership or revocation, or to a tenant's activity, that the log does not tell, and
nothing is told that did not happen. -/
theorem audit_log_replays {start : Database} {run : List (Deed × Database)}
    (h : IsRun (Recording settings) start run) :
    ∃ rows, (final start run).auditLog = start.auditLog ++ rows ∧
      (accountView start).replay rows = accountView (final start run) ∧
      ∀ n ≤ rows.length, ∃ past ∈ visited start run,
        past.auditLog = start.auditLog ++ rows.take n ∧
          (accountView start).replay (rows.take n) = accountView past := by
  have begins : ToldSince start [start] start := by
    refine ⟨[], (List.append_nil _).symm, rfl, fun n bound => ?_⟩
    rw [Nat.le_zero.mp bound]
    exact ⟨start, .head _, (List.append_nil _).symm, rfl⟩
  exact begins.run h

theorem audit_log_replays_first :
    ∃ run rows, IsRun (Recording firstSettings) .empty run ∧
      (final .empty run).auditLog = Database.empty.auditLog ++ rows ∧
      (accountView .empty).replay rows = accountView (final .empty run) := by
  have run : IsRun (Recording firstSettings) .empty
      [(.operation firstTenant, (perform firstSettings firstTenant .empty).2),
        (.noted ⟨none, "admin.login_failure", none, []⟩, _),
        (.operation firstKey, _)] :=
    ⟨.operation _ _, .noted _ _ (by decide), .operation _ _, trivial⟩
  obtain ⟨rows, log, current, -⟩ := audit_log_replays run
  exact ⟨_, rows, run, log, current⟩

end Histories
end AegisGateway.AuditTrail
