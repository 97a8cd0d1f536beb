import AegisGateway.Accounts
import AegisGateway.ProgramPool

set_option autoImplicit false

/-!
# Concurrent revocations

Any number of `revoke_api_key` requests for one key, and any authentications, over one
database. Each has a session of its own, reads what is committed, and commits its writes
together; a call may fail before or after it took effect. `revoke_api_key` tests
`revoked_at` in one statement and writes it in a later commit, without a lock in between.
-/
namespace AegisGateway.Revocations
open EffectProgram TransitionRuns ProgramPool Accounts
open BudgetScan (RlsContext UtcDateTime)

section Sessions
variable {ι : Type}

structure SharedDatabase (ι : Type) where
  db : Database
  contexts : ι → RlsContext

inductive Job where
  | revoke (request : AdminRequest)
  | authenticate (request : AuthRequest)

def Job.program (settings : AccountSettings) (tenantId : Uuid) (keyId : String) : Job → DbProg Unit
  | .revoke request => revokeApiKey request tenantId keyId
  | .authenticate request => do
    let _ ← getCurrentTenant settings request

variable [DecidableEq ι]

/-- The session's own call on what is committed. These programs do not flush. -/
def SharedDatabase.serve (s : SharedDatabase ι) (i : ι) (drawn : Drawn) (op : DbOp) :
    Except Exn (DbRet op) × SharedDatabase ι :=
  let served := answerDb drawn ⟨s.db, s.db, s.contexts i⟩ op
  (served.1, ⟨served.2.committed, Function.update s.contexts i served.2.context⟩)

def sessionWorld (ι : Type) [DecidableEq ι] :
    World DbOp DbRet Exn ι (SharedDatabase ι) Empty where
  answer s i op o s' := ∃ drawn, s.serve i drawn op = (o, s') ∨
    ∃ e, o = .error e ∧ (s' = s ∨ s' = (s.serve i drawn op).2)
  passes _ k _ := k.elim

abbrev SessionPool (ι : Type) := Pool DbOp DbRet Exn Unit ι (SharedDatabase ι)
abbrev SessionLabel (ι : Type) := Label DbOp DbRet Exn ι Empty

def revokePool (settings : AccountSettings) (tenantId : Uuid) (keyId : String) (jobs : ι → Job)
    (db : Database) : SessionPool ι :=
  Pool.start ⟨db, fun _ => .none⟩ fun i => (jobs i).program settings tenantId keyId

end Sessions

section Rows
variable {keyId : String} {context : RlsContext} {db db' : Database}

def revokedAt (keyId : String) (db : Database) : Option UtcDateTime :=
  (db.apiKeys.lookup keyId).bind ApiKey.revokedAt

def isRevokedRow (keyId : String) (row : AuditLog) : Bool :=
  row.eventType = "admin.api_key_revoked" && match Json.get row.detail "key_id" with
    | .str key => key = keyId
    | _ => false

/-- The number of `admin.api_key_revoked` rows for the key. -/
def revokedRows (keyId : String) (db : Database) : ℕ := db.auditLog.countP (isRevokedRow keyId)

/-- A write that has nothing to do with the key's revocation. -/
def harmless (keyId : String) : Write → Bool
  | .setLastUsedAt _ _ => true
  | .insertAudit row => !isRevokedRow keyId row
  | _ => false

/-- The key is revoked as it was, and so many rows say so. -/
def SameRevocation (keyId : String) (db db' : Database) : Prop :=
  revokedAt keyId db' = revokedAt keyId db ∧ revokedRows keyId db' = revokedRows keyId db

theorem harmless_apply {write : Write} (h : harmless keyId write = true)
    (applied : write.apply context db = some db') : SameRevocation keyId db db' := by
  cases write with
  | setLastUsedAt other now =>
    obtain ⟨row, stored, rfl⟩ := updateApiKey_applied applied
    refine ⟨?_, rfl⟩
    by_cases same : keyId = other
    · rw [revokedAt, revokedAt, same, AList.lookup_insert, stored]
      rfl
    · rw [revokedAt, revokedAt, AList.lookup_insert_ne same]
  | insertAudit row =>
    cases insertAudit_applied applied
    have other : isRevokedRow keyId row = false := by simpa [harmless] using h
    refine ⟨rfl, ?_⟩
    rw [revokedRows, revokedRows, List.countP_append, List.countP_singleton, other]
    rfl
  | _ => cases h

theorem harmless_writes {writes : List Write} (h : ∀ write ∈ writes, harmless keyId write = true)
    (applied : applyWrites context db writes = some db') : SameRevocation keyId db db' := by
  induction writes generalizing db with
  | nil =>
    cases applied
    exact ⟨rfl, rfl⟩
  | cons write rest ih =>
    rw [applyWrites_cons] at applied
    obtain ⟨written, first, later⟩ := Option.bind_eq_some_iff.mp applied
    obtain ⟨at₁, rows₁⟩ := harmless_apply (h write (.head _)) first
    obtain ⟨at₂, rows₂⟩ := ih (fun other mem => h other (.tail _ mem)) later
    exact ⟨at₂.trans at₁, rows₂.trans rows₁⟩

theorem revoke_writes {now : UtcDateTime} {row : AuditLog} (recorded : isRevokedRow keyId row = true)
    (applied : applyWrites context db [.setRevokedAt keyId now, .insertAudit row] = some db') :
    revokedAt keyId db' = some now ∧ revokedRows keyId db' = revokedRows keyId db + 1 := by
  rw [applyWrites_cons] at applied
  obtain ⟨written, first, later⟩ := Option.bind_eq_some_iff.mp applied
  rw [applyWrites_singleton] at later
  obtain ⟨key, stored, rfl⟩ := updateApiKey_applied first
  cases insertAudit_applied later
  constructor
  · rw [revokedAt, AList.lookup_insert]
    rfl
  · rw [revokedRows, revokedRows, List.countP_append, List.countP_singleton, recorded]
    rfl

end Rows

section Phases

inductive Phase where
  | reading
  /-- The key was read unrevoked, and the commit is not answered yet. -/
  | armed
  /-- The key is known to be revoked. -/
  | known
  | failed
  deriving DecidableEq, Repr

/-- Where a request is, read off its answers. -/
def revokeMonitor (keyId : String) : Monitor DbOp DbRet Exn Phase where
  permits
    | _, .flush _ => False
    | _, .selectTenantApiKey _ key => key = keyId
    | phase, .commit writes =>
      (phase = .armed ∧ ∃ now row, isRevokedRow keyId row = true ∧
          writes = [.setRevokedAt keyId now, .insertAudit row]) ∨
        phase ≠ .armed ∧ ∀ write ∈ writes, harmless keyId write = true
    | _, _ => True
  answers _ _ _ := True
  advance
    | .reading, .selectTenantApiKey _ _, .ok (some row) =>
      if row.revokedAt.isSome then .known else .armed
    | .armed, .commit _, .ok _ => .known
    | .armed, _, .error _ => .failed
    | phase, _, _ => phase

variable {keyId : String}

/-- A call in which a request learns nothing of the key's revocation. -/
def neutral (keyId : String) : DbOp → Prop
  | .flush _ | .selectTenantApiKey _ _ => False
  | .commit writes => ∀ write ∈ writes, harmless keyId write = true
  | _ => True

theorem neutral_permitted {op : DbOp} (h : neutral keyId op) :
    (revokeMonitor keyId).permits .reading op := by
  cases op with
  | commit writes => exact .inr ⟨by simp, h⟩
  | flush writes => exact h.elim
  | selectTenantApiKey tenantId key => exact h.elim
  | _ => trivial

theorem neutral_ignored {op : DbOp} (h : neutral keyId op) (o : Except Exn (DbRet op)) :
    (revokeMonitor keyId).advance .reading op o = .reading := by
  cases op with
  | selectTenantApiKey tenantId key => exact h.elim
  | _ => rfl

theorem authFailure_neutral {α : Type} (request : AuthRequest) (tenantId : Option Uuid)
    (detail : JsonObject) (message : String) :
    (authFailure request tenantId detail message : DbProg α).Uses (neutral keyId) := by
  refine Prog.Uses.bind ?_ fun _ => trivial
  refine (Prog.uses_perform trivial).bind fun _ => Prog.uses_perform ?_
  intro write mem
  cases List.mem_singleton.mp mem
  rfl

theorem getCurrentTenant_neutral (settings : AccountSettings) (request : AuthRequest) :
    (getCurrentTenant settings request).Uses (neutral keyId) := by
  have resolves (key : String) (row : ApiKey) :
      (resolveTenant request key row).Uses (neutral keyId) := by
    refine (Prog.uses_perform trivial).bind fun _ => (Prog.uses_perform trivial).bind fun found => ?_
    split
    · exact authFailure_neutral _ _ _ _
    · split
      · refine (Prog.uses_perform trivial).bind fun now => Prog.Uses.bind ?_ fun _ => trivial
        refine Prog.uses_perform fun write mem => ?_
        cases List.mem_singleton.mp mem
        rfl
      · exact authFailure_neutral _ _ _ _
  rw [getCurrentTenant]
  split
  · exact authFailure_neutral _ _ _ _
  · split
    · exact authFailure_neutral _ _ _ _
    · refine (Prog.uses_perform trivial).bind fun _ => (Prog.uses_perform trivial).bind fun found => ?_
      split
      · exact authFailure_neutral _ _ _ _
      · rw [checkApiKey]
        split
        · exact authFailure_neutral _ _ _ _
        · split
          · exact authFailure_neutral _ _ _ _
          · exact resolves _ _

/-- A revocation that returns knows the key revoked. -/
def ended (job : Job) (r : Except Exn Unit) (phase : Phase) : Prop :=
  match job, r with
  | .revoke _, .ok _ => phase = .known
  | _, _ => True

theorem revokeApiKey_holds (request : AdminRequest) (tenantId : Uuid) (keyId : String) :
    Holds (revokeMonitor keyId) (revokeApiKey request tenantId keyId) (ended (.revoke request))
      .reading := by
  refine ⟨trivial, fun o _ => ?_⟩
  rcases o with e | _
  · trivial
  refine ⟨rfl, fun o _ => ?_⟩
  rcases o with e | _ | ⟨owner, hashedSecret, name, revokedAt, lastUsedAt⟩
  · trivial
  · trivial
  cases revokedAt with
  | some time => exact rfl
  | none =>
    -- The clock, the session's context, and the commit.
    refine ⟨trivial, fun o _ => ?_⟩
    rcases o with e | now
    · trivial
    refine ⟨trivial, fun o _ => ?_⟩
    rcases o with e | _
    · trivial
    refine ⟨.inl ⟨rfl, now, _, ?_, rfl⟩, fun o _ => ?_⟩
    · simp [isRevokedRow, Json.get, List.lookup_cons]
    · rcases o with e | _
      · trivial
      · exact rfl

theorem job_holds (settings : AccountSettings) (tenantId : Uuid) (keyId : String) (job : Job) :
    Holds (revokeMonitor keyId) (job.program settings tenantId keyId) (ended job) .reading := by
  cases job with
  | revoke request => exact revokeApiKey_holds request tenantId keyId
  | authenticate request =>
    refine Holds.skip ((getCurrentTenant_neutral settings request).holds
      (fun op h => neutral_permitted h) fun op o h _ => neutral_ignored h o) (fun _ => trivial)
      fun _ => trivial

end Phases

section Runs
variable {ι : Type} [DecidableEq ι] {tenantId : Uuid} {keyId : String} {jobs : ι → Job}

abbrev SessionPool.phase (keyId : String) (p : SessionPool ι) : ι → Phase :=
  p.monitored (revokeMonitor keyId) fun _ => .reading

abbrev SessionPool.Tracked (keyId : String) (jobs : ι → Job) (p : SessionPool ι) : Prop :=
  Pool.Tracked (revokeMonitor keyId) (fun i => ended (jobs i)) (fun _ => .reading) p

/-- The key is not read while a request that found it unrevoked has not finished. -/
def readsAlone (keyId : String) (p : SessionPool ι) : SessionLabel ι → Prop
  | .call _ ⟨.selectTenantApiKey _ _, _⟩ => ∀ j, p.phase keyId j ≠ .armed
  | _ => True

/-- One audit row for a revoked key and none for another. -/
def Recorded (keyId : String) (db : Database) : Prop :=
  revokedRows keyId db = if (revokedAt keyId db).isSome then 1 else 0

structure RevokedOnce (keyId : String) (jobs : ι → Job) (p : SessionPool ι) : Prop where
  tracked : p.Tracked keyId jobs
  recorded : Recorded keyId p.shared.db
  armed : ∀ i, p.phase keyId i = .armed → revokedAt keyId p.shared.db = none
  alone : ∀ i j, p.phase keyId i = .armed → p.phase keyId j = .armed → i = j
  known : ∀ i, p.phase keyId i = .known → (revokedAt keyId p.shared.db).isSome = true

theorem serve_db (s : SharedDatabase ι) (i : ι) (drawn : Drawn) (op : DbOp)
    (h : ∀ writes, op ≠ .commit writes) : (s.serve i drawn op).2.db = s.db := by
  cases op with
  | commit writes => exact absurd rfl (h writes)
  | flush writes =>
    rw [SharedDatabase.serve, answerDb]
    split <;> rfl
  | _ => rfl

theorem serve_commit (s : SharedDatabase ι) (i : ι) (drawn : Drawn) (writes : List Write) :
    ((s.serve i drawn (.commit writes)).1 = .ok () ∧
        applyWrites (s.contexts i) s.db writes = some (s.serve i drawn (.commit writes)).2.db) ∨
      ((s.serve i drawn (.commit writes)).1 = .error dbapiError ∧
        (s.serve i drawn (.commit writes)).2.db = s.db) := by
  rw [SharedDatabase.serve, answerDb]
  cases applied : applyWrites (s.contexts i) s.db writes with
  | some db' => exact .inl ⟨rfl, rfl⟩
  | none => exact .inr ⟨rfl, rfl⟩

variable {s s' : SharedDatabase ι} {i : ι} {p p' : SessionPool ι}

theorem answered_db {op : DbOp} {o : Except Exn (DbRet op)} (h : ∀ writes, op ≠ .commit writes)
    (answered : (sessionWorld ι).answer s i op o s') : s'.db = s.db := by
  obtain ⟨drawn, served | ⟨_, _, rfl | rfl⟩⟩ := answered
  · rw [← serve_db s i drawn op h, served]
  · rfl
  · exact serve_db s i drawn op h

theorem answered_commit {writes : List Write} {o : Except Exn Unit}
    (answered : (sessionWorld ι).answer s i (.commit writes) o s') :
    applyWrites (s.contexts i) s.db writes = some s'.db ∨ s'.db = s.db ∧ ∃ e, o = .error e := by
  obtain ⟨drawn, served | ⟨e, rfl, rfl | rfl⟩⟩ := answered
  · rcases serve_commit s i drawn writes with ⟨_, applied⟩ | ⟨failed, same⟩
    · rw [served] at applied
      exact .inl applied
    · rw [served] at failed same
      exact .inr ⟨same, _, failed⟩
  · exact .inr ⟨rfl, e, rfl⟩
  · rcases serve_commit s i drawn writes with ⟨_, applied⟩ | ⟨_, same⟩
    · exact .inl applied
    · exact .inr ⟨same, e, rfl⟩

theorem answered_read {row : ApiKey}
    (answered : (sessionWorld ι).answer s i (.selectTenantApiKey tenantId keyId) (.ok (some row)) s') :
    s.db.apiKeys.lookup keyId = some row := by
  obtain ⟨drawn, served | ⟨_, failed, _⟩⟩ := answered
  · have found : (s.db.apiKeys.lookup keyId).filter (fun row =>
        row.tenantId = tenantId && grants (s.contexts i) (some row.tenantId)) = some row :=
      Except.ok.inj (congrArg Prod.fst served)
    exact (Option.filter_eq_some_iff.mp found).1
  · cases failed

theorem RevokedOnce.moved (h : RevokedOnce keyId jobs p) (tracked : p'.Tracked keyId jobs)
    {phase : Phase} (phases : p'.phase keyId = Function.update (p.phase keyId) i phase)
    (same : SameRevocation keyId p.shared.db p'.shared.db)
    (armed : phase = .armed → revokedAt keyId p.shared.db = none ∧
      ∀ j, p.phase keyId j = .armed → j = i)
    (known : phase = .known → (revokedAt keyId p.shared.db).isSome = true) :
    RevokedOnce keyId jobs p' := by
  obtain ⟨time, rows⟩ := same
  constructor
  case tracked => exact tracked
  case recorded =>
    rw [Recorded, rows, time]
    exact h.recorded
  case armed =>
    intro j isArmed
    rw [phases] at isArmed
    rw [time]
    rcases update_cases (Q := (· = Phase.armed)) isArmed with ⟨_, now⟩ | ⟨_, before⟩
    · exact (armed now).1
    · exact h.armed j before
  case alone =>
    rw [phases]
    refine unique_update (Q := (· = Phase.armed)) h.alone ?_
    exact fun now j other isArmed => other ((armed now).2 j isArmed)
  case known =>
    intro j isKnown
    rw [phases] at isKnown
    rw [time]
    rcases update_cases (Q := (· = Phase.known)) isKnown with ⟨_, now⟩ | ⟨_, before⟩
    · exact known now
    · exact h.known j before

theorem RevokedOnce.waited (h : RevokedOnce keyId jobs p) (tracked : p'.Tracked keyId jobs)
    {phase : Phase} (phases : p'.phase keyId = Function.update (p.phase keyId) i phase)
    (same : SameRevocation keyId p.shared.db p'.shared.db)
    (stays : phase = p.phase keyId i ∨ phase = .failed) : RevokedOnce keyId jobs p' := by
  rcases stays with rfl | rfl
  · refine h.moved tracked phases same (fun isArmed => ⟨h.armed i isArmed, fun j isArmed' => ?_⟩) (h.known i)
    exact h.alone j i isArmed' isArmed
  · exact h.moved tracked phases same (fun no => (by cases no)) (fun no => (by cases no))

theorem RevokedOnce.revoked (h : RevokedOnce keyId jobs p) (tracked : p'.Tracked keyId jobs)
    {phase : Phase} (phases : p'.phase keyId = Function.update (p.phase keyId) i phase)
    (isArmed : p.phase keyId i = .armed) (after : phase ≠ .armed) {now : UtcDateTime}
    (time : revokedAt keyId p'.shared.db = some now)
    (rows : revokedRows keyId p'.shared.db = revokedRows keyId p.shared.db + 1) :
    RevokedOnce keyId jobs p' := by
  have noneArmed (j : ι) : p'.phase keyId j ≠ .armed := by
    rw [phases]
    by_cases mover : j = i
    · rw [mover, Function.update_self]
      exact after
    · rw [Function.update_of_ne mover]
      exact fun other => mover (h.alone j i other isArmed)
  have before := h.recorded
  rw [Recorded, h.armed i isArmed] at before
  constructor
  case tracked => exact tracked
  case recorded =>
    rw [Recorded, rows, before, time]
    rfl
  case armed => exact fun j isArmed => absurd isArmed (noneArmed j)
  case alone => exact fun j k isArmed => absurd isArmed (noneArmed j)
  case known =>
    intro j _
    rw [time]
    rfl

theorem sessionWorld_granted (s : SharedDatabase ι) (i : ι) (op : DbOp) (o : Except Exn (DbRet op))
    (s' : SharedDatabase ι) (phase : Phase) (_ : (sessionWorld ι).answer s i op o s') :
    (revokeMonitor keyId).answers phase op o := trivial

theorem advance_other {op : DbOp} (o : Except Exn (DbRet op)) (phase : Phase)
    (noRead : ∀ tenantId key, op ≠ .selectTenantApiKey tenantId key)
    (noCommit : ∀ writes, op ≠ .commit writes) :
    (revokeMonitor keyId).advance phase op o = phase ∨
      (revokeMonitor keyId).advance phase op o = .failed := by
  cases op with
  | selectTenantApiKey tenantId key => exact absurd rfl (noRead tenantId key)
  | commit writes => exact absurd rfl (noCommit writes)
  | _ =>
    cases phase <;> cases o
    all_goals first | exact .inl rfl | exact .inr rfl

theorem RevokedOnce.read (h : RevokedOnce keyId jobs p) (tracked : p'.Tracked keyId jobs)
    {o : Except Exn (Option ApiKey)} (phases : p'.phase keyId = Function.update (p.phase keyId) i
      ((revokeMonitor keyId).advance (p.phase keyId i) (.selectTenantApiKey tenantId keyId) o))
    (alone : ∀ j, p.phase keyId j ≠ .armed)
    (answered : (sessionWorld ι).answer p.shared i (.selectTenantApiKey tenantId keyId) o p'.shared) :
    RevokedOnce keyId jobs p' := by
  have same : SameRevocation keyId p.shared.db p'.shared.db := by
    rw [answered_db (by simp) answered]
    exact ⟨rfl, rfl⟩
  have stays : (revokeMonitor keyId).advance (p.phase keyId i) (.selectTenantApiKey tenantId keyId) o =
        p.phase keyId i ∨
      ∃ row, o = .ok (some row) ∧
        (revokeMonitor keyId).advance (p.phase keyId i) (.selectTenantApiKey tenantId keyId) o =
          if row.revokedAt.isSome then .known else .armed := by
    cases phase : p.phase keyId i with
    | armed => exact absurd phase (alone i)
    | known => exact .inl rfl
    | failed => exact .inl rfl
    | reading =>
      rcases o with e | _ | row
      · exact .inl rfl
      · exact .inl rfl
      · exact .inr ⟨row, rfl, rfl⟩
  rcases stays with stays | ⟨row, rfl, next⟩
  · exact h.waited tracked phases same (.inl stays)
  · have stored := answered_read answered
    have time : revokedAt keyId p.shared.db = row.revokedAt := by
      rw [revokedAt, stored]
      rfl
    refine h.moved tracked phases same (fun isArmed => ⟨?_, fun j other => absurd other (alone j)⟩)
      fun isKnown => ?_
    · rw [next] at isArmed
      rw [time]
      cases revoked : row.revokedAt with
      | none => rfl
      | some time =>
        rw [revoked] at isArmed
        cases isArmed
    · rw [next] at isKnown
      rw [time]
      cases revoked : row.revokedAt with
      | none =>
        rw [revoked] at isKnown
        cases isKnown
      | some time => rfl

theorem RevokedOnce.committed (h : RevokedOnce keyId jobs p) (tracked : p'.Tracked keyId jobs)
    {writes : List Write} {o : Except Exn Unit}
    (phases : p'.phase keyId = Function.update (p.phase keyId) i
      ((revokeMonitor keyId).advance (p.phase keyId i) (.commit writes) o))
    (permitted : (revokeMonitor keyId).permits (p.phase keyId i) (.commit writes))
    (answered : (sessionWorld ι).answer p.shared i (.commit writes) o p'.shared) :
    RevokedOnce keyId jobs p' ∧ (SameRevocation keyId p.shared.db p'.shared.db ∨
      revokedAt keyId p.shared.db = none) := by
  rcases permitted with ⟨isArmed, now, row, recorded, rfl⟩ | ⟨unarmed, harmless⟩
  · rw [isArmed] at phases
    rcases answered_commit answered with applied | ⟨same, e, rfl⟩
    · obtain ⟨time, rows⟩ := revoke_writes recorded applied
      have after : (revokeMonitor keyId).advance .armed
          (.commit [.setRevokedAt keyId now, .insertAudit row]) o ≠ .armed := by
        cases o <;> exact Phase.noConfusion
      exact ⟨h.revoked tracked phases isArmed after time rows, .inr (h.armed i isArmed)⟩
    · have same : SameRevocation keyId p.shared.db p'.shared.db := by
        rw [same]
        exact ⟨rfl, rfl⟩
      exact ⟨h.waited tracked phases same (.inr rfl), .inl same⟩
  · have same : SameRevocation keyId p.shared.db p'.shared.db := by
      rcases answered_commit answered with applied | ⟨same, _⟩
      · exact harmless_writes harmless applied
      · rw [same]
        exact ⟨rfl, rfl⟩
    have stays : (revokeMonitor keyId).advance (p.phase keyId i) (.commit writes) o =
        p.phase keyId i := by
      cases phase : p.phase keyId i with
      | armed => exact absurd phase unarmed
      | _ => rfl
    exact ⟨h.waited tracked phases same (.inl stays), .inl same⟩

theorem revokedOnce_step (p : SessionPool ι) (l : SessionLabel ι) (p' : SessionPool ι)
    (h : RevokedOnce keyId jobs p) (alone : readsAlone keyId p l)
    (step : Step (sessionWorld ι) p l p') :
    RevokedOnce keyId jobs p' ∧ ∀ time, revokedAt keyId p.shared.db = some time →
      revokedAt keyId p'.shared.db = some time := by
  obtain ⟨tracked, moved⟩ := step_cases sessionWorld_granted h.tracked step
  rcases moved with ⟨i, op, o, rfl, permitted, answered, phases⟩ | ⟨k, _⟩
  · cases op with
    | selectTenantApiKey tenantId key =>
      cases permitted
      refine ⟨h.read tracked phases alone answered, fun time revoked => ?_⟩
      rw [answered_db (by simp) answered]
      exact revoked
    | commit writes =>
      obtain ⟨h', same | unrevoked⟩ := h.committed tracked phases permitted answered
      · exact ⟨h', fun time revoked => same.1.trans revoked⟩
      · refine ⟨h', fun time revoked => ?_⟩
        rw [unrevoked] at revoked
        cases revoked
    | _ =>
      have db := answered_db (by simp) answered
      have same : SameRevocation keyId p.shared.db p'.shared.db := by
        rw [db]
        exact ⟨rfl, rfl⟩
      refine ⟨h.waited tracked phases same (advance_other o _ (by simp) (by simp)),
        fun time revoked => ?_⟩
      exact same.1.trans revoked
  · exact k.elim

omit [DecidableEq ι] in
theorem RevokedOnce.start (settings : AccountSettings) (tenantId : Uuid) (keyId : String)
    (jobs : ι → Job) {db : Database} (recorded : Recorded keyId db) :
    RevokedOnce keyId jobs (revokePool settings tenantId keyId jobs db) where
  tracked := Pool.start_tracked fun i => job_holds settings tenantId keyId (jobs i)
  recorded := recorded
  armed _ no := by cases no
  alone _ _ no := by cases no
  known _ no := by cases no

/-- Once a revocation has returned there is exactly one row for it, and a committed `revoked_at`
stays what it is. -/
def RevokesOnce (keyId : String) (jobs : ι → Job) (start : SessionPool ι)
    (run : List (SessionLabel ι × SessionPool ι)) : Prop :=
  (∀ p ∈ visited start run,
    (∃ i request, jobs i = .revoke request ∧ p.threads i = .done (.ok ())) →
      revokedRows keyId p.shared.db = 1) ∧
  ∀ before after, run = before ++ after →
    ∀ time, revokedAt keyId (final start before).shared.db = some time →
      ∀ p ∈ visited (final start before) after, revokedAt keyId p.shared.db = some time

/-- The key is revoked once in every run in which nobody reads it before a request that found
it unrevoked has finished. -/
theorem revoked_once_if_reads_alone (settings : AccountSettings) (tenantId : Uuid) (keyId : String)
    (jobs : ι → Job) (db : Database) (recorded : Recorded keyId db)
    (run : List (SessionLabel ι × SessionPool ι))
    (isRun : IsRun (Step (sessionWorld ι)) (revokePool settings tenantId keyId jobs db) run)
    (alone : StepsMeet (readsAlone keyId) (revokePool settings tenantId keyId jobs db) run) :
    RevokesOnce keyId jobs (revokePool settings tenantId keyId jobs db) run := by
  have start := RevokedOnce.start settings tenantId keyId jobs recorded
  have throughout := isRun.invariant
    (fun p l p' h alone step => (revokedOnce_step p l p' h alone step).1) alone start
  constructor
  · rintro p mem ⟨i, request, job, returned⟩
    have h := throughout p mem
    have ends : ended (jobs i) (.ok ()) (p.phase keyId i) := by
      have holds := (h.tracked i).2
      rw [returned] at holds
      exact holds
    have knows : p.phase keyId i = .known := by
      rw [job] at ends
      exact ends
    have count := h.recorded
    rw [Recorded, if_pos (h.known i knows)] at count
    exact count
  · rintro before after rfl time revoked
    have here := throughout _ (mem_visited_append (final_mem_visited _ before))
    refine fun p mem => (isRun.later.invariant (I := fun p => RevokedOnce keyId jobs p ∧
      revokedAt keyId p.shared.db = some time) (fun p l p' h alone step => ?_) alone.later
      ⟨here, revoked⟩ p mem).2
    obtain ⟨next, stays⟩ := revokedOnce_step p l p' h.1 alone step
    exact ⟨next, stays time h.2⟩

end Runs

section Race

def raceKeyId : String := "0001020304050607"

/-- A tenant with one key in use. -/
def raceDatabase : Database where
  tenants := (∅ : AList fun _ : Uuid => Tenant).insert helloTenantId acmeTenant
  apiKeys := (∅ : AList fun _ : String => ApiKey).insert raceKeyId
    ⟨helloTenantId, "digest", "production", none, none⟩
  auditLog := []

theorem raceDatabase_recorded : Recorded raceKeyId raceDatabase := rfl

def atSecond (second : ℕ) : UtcDateTime := ⟨2025, 6, 15, 12, 0, second, 0⟩

def drawnAt (second : ℕ) : Drawn := ⟨atSecond second, helloTenantId, raceKeyId, "secret"⟩

abbrev raceJobs (_ : Bool) : Job := .revoke ⟨"admin", some "c"⟩

abbrev racePool : SessionPool Bool :=
  revokePool plainSettings helloTenantId raceKeyId raceJobs raceDatabase

abbrev contextSet (i : Bool) : SessionLabel Bool := .call i ⟨.setRlsContext none true, .ok ()⟩

def raceKey (revoked : Option UtcDateTime) : ApiKey :=
  ⟨helloTenantId, "digest", "production", revoked, none⟩

abbrev keyRead (i : Bool) (revoked : Option UtcDateTime) : SessionLabel Bool :=
  .call i ⟨.selectTenantApiKey helloTenantId raceKeyId, .ok (some (raceKey revoked))⟩

abbrev clockRead (i : Bool) (second : ℕ) : SessionLabel Bool :=
  .call i ⟨.datetimeNow, .ok (atSecond second)⟩

abbrev revocation (i : Bool) (second : ℕ) : SessionLabel Bool :=
  .call i ⟨.commit [.setRevokedAt raceKeyId (atSecond second),
    .insertAudit ⟨some helloTenantId, "admin.api_key_revoked", some "c",
      [("admin_id", .str "admin"), ("key_id", .str raceKeyId)]⟩], .ok ()⟩

theorem revoked_once_if_reads_alone_in_turn :
    ∃ run : List (SessionLabel Bool × SessionPool Bool),
      IsRun (Step (sessionWorld Bool)) racePool run ∧
        (∀ i, (final racePool run).threads i = .done (.ok ())) ∧
        RevokesOnce raceKeyId raceJobs racePool run := by
  have isRun : IsRun (Step (sessionWorld Bool)) racePool
      [(contextSet false, _), (keyRead false none, _), (clockRead false 1, _), (contextSet false, _),
        (revocation false 1, _), (contextSet true, _), (keyRead true (some (atSecond 1)), _)] :=
    ⟨.call rfl ⟨drawnAt 0, .inl rfl⟩, .call rfl ⟨drawnAt 0, .inl rfl⟩,
      .call rfl ⟨drawnAt 1, .inl rfl⟩, .call rfl ⟨drawnAt 1, .inl rfl⟩,
      .call rfl ⟨drawnAt 1, .inl rfl⟩, .call rfl ⟨drawnAt 2, .inl rfl⟩,
      .call rfl ⟨drawnAt 2, .inl rfl⟩, trivial⟩
  have reading : Phase.reading ≠ .armed := by decide
  have known : Phase.known ≠ .armed := by decide
  refine ⟨_, isRun, fun i => ?_, revoked_once_if_reads_alone plainSettings helloTenantId raceKeyId
    raceJobs raceDatabase raceDatabase_recorded _ isRun ⟨trivial, fun i => ?_, trivial, trivial, trivial,
      trivial, fun i => ?_, trivial⟩⟩
  · cases i <;> rfl
  · cases i <;> exact reading
  · cases i
    · exact known
    · exact reading

/-- Both administrators read the key before either commits: the second overwrites `revoked_at`
and writes a second row. -/
theorem race_revokes_twice :
    Recorded raceKeyId raceDatabase ∧ ¬ ∀ run : List (SessionLabel Bool × SessionPool Bool),
      IsRun (Step (sessionWorld Bool)) racePool run → RevokesOnce raceKeyId raceJobs racePool run := by
  refine ⟨raceDatabase_recorded, fun once => ?_⟩
  have isRun : IsRun (Step (sessionWorld Bool)) racePool
      [(contextSet false, _), (keyRead false none, _), (contextSet true, _), (keyRead true none, _),
        (clockRead false 1, _), (contextSet false, _), (revocation false 1, _),
        (clockRead true 2, _), (contextSet true, _), (revocation true 2, _)] :=
    ⟨.call rfl ⟨drawnAt 0, .inl rfl⟩, .call rfl ⟨drawnAt 0, .inl rfl⟩,
      .call rfl ⟨drawnAt 0, .inl rfl⟩, .call rfl ⟨drawnAt 0, .inl rfl⟩,
      .call rfl ⟨drawnAt 1, .inl rfl⟩, .call rfl ⟨drawnAt 1, .inl rfl⟩,
      .call rfl ⟨drawnAt 1, .inl rfl⟩, .call rfl ⟨drawnAt 2, .inl rfl⟩,
      .call rfl ⟨drawnAt 2, .inl rfl⟩, .call rfl ⟨drawnAt 2, .inl rfl⟩, trivial⟩
  have two := (once _ isRun).1 _ (final_mem_visited _ _) ⟨true, _, rfl, rfl⟩
  cases two

end Race
end AegisGateway.Revocations
