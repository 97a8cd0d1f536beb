import AegisGateway.AuditTrail
import AegisGateway.JsonRoundTrip
import Mathlib.Algebra.Order.Floor.Ring
import Mathlib.Data.List.DropRight
import Mathlib.Data.Rat.Floor

set_option autoImplicit false

/-!
# Sessions of the control plane

`login`, the tokens of `core/security.py` and `get_current_admin`. A token is a claim that
PyJWT signs: it says who logged in and until when it holds. An account operation is let in by
the token that comes with it, and its audit row names the admin.
-/
namespace AegisGateway.AdminSessions
open EffectProgram TransitionRuns ApiKeys Accounts AuditTrail KeyLifecycle
open BudgetScan (RlsContext)

section Tokens

/-- `jwt.encode` and `jwt.decode` with the secret and the algorithm of the settings, and
`PasswordHasher.verify`. -/
structure ControlLibraries where
  jwtEncode : JsonObject → String
  /-- At a time of the clock, with `none` for a `PyJWTError`. -/
  jwtDecode : ℚ → String → Option JsonObject
  /-- With `false` for a `VerifyMismatchError`. Another exception of argon2 is passed on. -/
  verifyPassword : String → String → Except Exn Bool

def adminClaims (subject : String) (issuedAt expiresAt : ℤ) : JsonObject :=
  [("sub", .str subject), ("iat", .int issuedAt), ("exp", .int expiresAt), ("scope", .str "admin")]

/-- PyJWT cuts the times to whole seconds. -/
def createAdminJwt (lib : ControlLibraries) (subject : String) (now : ℚ) (expireMinutes : ℤ) : String :=
  lib.jwtEncode (adminClaims subject ⌊now⌋ ⌊now + 60 * expireMinutes⌋)

def decodeAdminJwt (lib : ControlLibraries) (now : ℚ) (token : String) : Option JsonObject :=
  (lib.jwtDecode now token).filter fun payload =>
    match Json.get payload "scope" with
    | .str scope => scope = "admin"
    | _ => false

/-- Another spelling of the same token: what the last character of a signature spells has bits that
nobody reads. -/
def SameToken (lib : ControlLibraries) (text token : String) : Prop :=
  ∀ now, lib.jwtDecode now text = lib.jwtDecode now token

/-- A signed token is read back from its issue on until it expires. -/
def Signs (lib : ControlLibraries) : Prop :=
  ∀ subject issuedAt expiresAt now,
    lib.jwtDecode now (lib.jwtEncode (adminClaims subject issuedAt expiresAt)) =
      if (issuedAt : ℚ) ≤ now ∧ now < expiresAt then some (adminClaims subject issuedAt expiresAt)
      else none

end Tokens

section Identifiers

/-- `text.replace(pat, "")`, with so many characters still to be left out. -/
def removeText (pat : List Char) : ℕ → List Char → List Char
  | _, [] => []
  | skip + 1, _ :: rest => removeText pat skip rest
  | 0, c :: rest =>
    if pat.isPrefixOf (c :: rest) then removeText pat (pat.length - 1) rest
    else c :: removeText pat 0 rest

def isBrace (c : Char) : Bool := c = '\x7b' || c = '\x7d'

def isHexDigit (c : Char) : Bool :=
  ('0' ≤ c && c ≤ '9') || ('a' ≤ c && c ≤ 'f') || ('A' ≤ c && c ≤ 'F')

/-- The digits of `uuid.UUID(text)`: a URN prefix, braces and hyphens are optional. -/
def uuidDigits (text : String) : List Char :=
  let unprefixed := removeText "uuid:".toList 0 (removeText "urn:".toList 0 text.toList)
  ((unprefixed.dropWhile isBrace).rdropWhile isBrace).filter (· ≠ '-')

def hyphenated (digits : List Char) : List Char :=
  digits.take 8 ++ ['-'] ++ (digits.drop 8).take 4 ++ ['-'] ++ (digits.drop 12).take 4 ++ ['-'] ++
    (digits.drop 16).take 4 ++ ['-'] ++ digits.drop 20

theorem hyphenated_length {digits : List Char} (sized : digits.length = 32) :
    (hyphenated digits).length = 36 := by
  simp only [hyphenated, List.length_append, List.length_take, List.length_drop, List.length_singleton,
    sized]
  omega

/-- `str` of the UUID with these digits. -/
def canonicalUuid (digits : List Char) (sized : digits.length = 32) : Uuid where
  text := String.ofList (hyphenated digits)
  length := by rw [String.length_ofList, hyphenated_length sized]

/-- `uuid.UUID(text)` of hexadecimal digits, with `none` for a `ValueError`. -/
def uuidOf (text : String) : Option Uuid :=
  let digits := (uuidDigits text).map lowerChar
  if sized : digits.length = 32 then
    if digits.all isHexDigit then some (canonicalUuid digits sized) else none
  else none

example : uuidOf helloTenantId.text = some helloTenantId := by decide

structure AdminUser where
  email : String
  hashedPassword : String
  isSuperuser : Bool

/-- The table `admin_users`. -/
structure AdminTable where
  rows : AList fun _ : Uuid => AdminUser
  /-- The column is a `UUID`, which `str` and `uuid.UUID` take there and back. -/
  canonical : ∀ id ∈ rows, uuidOf id.text = some id

def AdminTable.findEmail (admins : AdminTable) (email : String) : Option (Uuid × AdminUser) :=
  (admins.rows.entries.find? fun entry => entry.2.email = email).map fun entry => (entry.1, entry.2)

theorem AdminTable.findEmail_lookup {admins : AdminTable} {email : String} {id : Uuid} {user : AdminUser}
    (found : admins.findEmail email = some (id, user)) : admins.rows.lookup id = some user := by
  obtain ⟨⟨id', user'⟩, first, same⟩ := Option.map_eq_some_iff.mp found
  cases same
  exact AList.mem_lookup_iff.mpr (List.mem_of_find?_eq_some first)

end Identifiers

section Programs

inductive ControlOp where
  | db (op : DbOp)
  | selectAdmin (email : String)
  | getAdmin (id : Uuid)
  | clock

abbrev ControlRet : ControlOp → Type
  | .db op => DbRet op
  | .selectAdmin _ => Option (Uuid × AdminUser)
  | .getAdmin _ => Option AdminUser
  | .clock => ℚ

abbrev ControlProg := Prog ControlOp ControlRet Exn

abbrev askControl (op : ControlOp) : ControlProg (ControlRet op) := Prog.perform op

/-- The same session of the database. -/
def onDb {α : Type} (p : DbProg α) : ControlProg α := p.expand fun op => askControl (.db op)

structure ControlSettings extends AccountSettings where
  lib : ControlLibraries
  jwtExpireMinutes : ℤ

structure TokenResponse where
  accessToken : String
  expiresInMinutes : ℤ

/-- `admin is None or not verify_password(...)`, with the account it is about. -/
def verifiedAdmin (settings : ControlSettings) (password : String) :
    Option (Uuid × AdminUser) → Except Exn (Option Uuid)
  | none => .ok none
  | some (id, user) =>
    (settings.lib.verifyPassword user.hashedPassword password).map fun matched =>
      if matched then some id else none

/-- A refusal is audited. -/
def concludeLogin (settings : ControlSettings) (email : String) (correlationId : Option String) :
    Option Uuid → ControlProg TokenResponse
  | none => do
    onDb (writeAuditEvent (dbSession []) none "admin.login_failure" correlationId
      [("email", .str email)])
    Prog.raise (.http (unauthorized "Invalid email or password."))
  | some id => do
    let now ← askControl .clock
    return ⟨createAdminJwt settings.lib id.text now settings.jwtExpireMinutes,
      settings.jwtExpireMinutes⟩

def login (settings : ControlSettings) (email password : String) (correlationId : Option String) :
    ControlProg TokenResponse := do
  askControl (.db (.setRlsContext none true))
  let found ← askControl (.selectAdmin email)
  let verified ← .done (verifiedAdmin settings password found)
  concludeLogin settings email correlationId verified

structure AdminContext where
  adminId : Uuid
  email : String
  isSuperuser : Bool

def adminUnauthorized (detail : String) : Exn := .http ⟨401, .str detail, []⟩

/-- `uuid.UUID(payload["sub"])`. A claim that is no text raises what is not caught. -/
def subjectOf (payload : JsonObject) : Except Exn Uuid :=
  match payload.lookup "sub" with
  | some (.str subject) =>
    match uuidOf subject with
    | some id => .ok id
    | none => .error (adminUnauthorized "Malformed admin token.")
  | none => .error (adminUnauthorized "Malformed admin token.")
  | some .null => .error (.other "TypeError")
  | some _ => .error (.other "AttributeError")

def headerChars : Option HeaderValue → List Char
  | some value => value.chars
  | none => []

def admitAdmin (id : Uuid) : Option AdminUser → ControlProg AdminContext
  | none => Prog.raise (adminUnauthorized "Admin account no longer exists.")
  | some user => return ⟨id, user.email, user.isSuperuser⟩

/-- From the decoded token on. -/
def admitPayload : Option JsonObject → ControlProg AdminContext
  | none => Prog.raise (adminUnauthorized "Invalid or expired admin token.")
  | some payload => do
    let id ← .done (subjectOf payload)
    askControl (.db (.setRlsContext none true))
    let found ← askControl (.getAdmin id)
    admitAdmin id found

def getCurrentAdmin (settings : ControlSettings) (authorization : Option HeaderValue) :
    ControlProg AdminContext :=
  if hasBearer (headerChars authorization) = false then
    Prog.raise (adminUnauthorized "Missing bearer token.")
  else do
    let now ← askControl .clock
    admitPayload (decodeAdminJwt settings.lib now (presentedKey (headerChars authorization)))

/-- The endpoints that change accounts. -/
inductive AccountOp where
  | createTenant (payload : TenantCreateRequest)
  | updateTenant (tenantId : Uuid) (payload : TenantUpdateRequest)
  | createApiKey (tenantId : Uuid) (name : String)
  | revokeApiKey (tenantId : Uuid) (keyId : String)

def AccountOp.program (settings : AccountSettings) (request : AdminRequest) : AccountOp → DbProg Unit
  | .createTenant payload => do
    let _ ← Accounts.createTenant request payload
  | .updateTenant tenantId payload => Accounts.updateTenant settings request tenantId payload
  | .createApiKey tenantId name => do
    let _ ← Accounts.createApiKey settings request tenantId name
  | .revokeApiKey tenantId keyId => Accounts.revokeApiKey request tenantId keyId

/-- A request to one of them, its dependencies first. -/
def adminCall (settings : ControlSettings) (authorization : Option HeaderValue)
    (correlationId : Option String) (op : AccountOp) : ControlProg Unit := do
  let admin ← getCurrentAdmin settings authorization
  onDb (op.program settings.toAccountSettings ⟨admin.adminId.text, correlationId⟩)

end Programs

section Answers
variable {α : Type} {admins : AdminTable} {now : ℚ} {drawn : Drawn} {db : Database} {txn : Txn}

def answerControl (admins : AdminTable) (now : ℚ) (drawn : Drawn) (txn : Txn) :
    (op : ControlOp) → Except Exn (ControlRet op) × Txn
  | .db op => answerDb drawn txn op
  | .selectAdmin email => (.ok (admins.findEmail email), txn)
  | .getAdmin id => (.ok (admins.rows.lookup id), txn)
  | .clock => (.ok now, txn)

/-- A request by itself, in a session of its own. -/
def serveControl (admins : AdminTable) (now : ℚ) (drawn : Drawn) (p : ControlProg α) (db : Database) :
    Except Exn α × Database :=
  let ended := p.runState (answerControl admins now drawn) ⟨db, db, .none⟩
  (ended.1, ended.2.committed)

theorem runState_onDb (p : DbProg α) (txn : Txn) :
    (onDb p).runState (answerControl admins now drawn) txn = p.runState (answerDb drawn) txn := by
  induction p generalizing txn with
  | done r => rfl
  | call op next ih => exact ih _ _

variable {settings : ControlSettings} {authorization : Option HeaderValue} {context : AdminContext}

/-- The token speaks for the account of its subject. -/
def Speaks (admins : AdminTable) (payload : JsonObject) (context : AdminContext) : Prop :=
  ∃ id user, subjectOf payload = .ok id ∧ admins.rows.lookup id = some user ∧
    context = ⟨id, user.email, user.isSuperuser⟩

theorem admitPayload_run (decoded : Option JsonObject) (txn : Txn) :
    ∃ r rls, (admitPayload decoded).runState (answerControl admins now drawn) txn =
      (r, { txn with context := rls }) ∧
      ∀ context, r = .ok context ↔ ∃ payload, decoded = some payload ∧ Speaks admins payload context := by
  cases decoded with
  | none =>
    refine ⟨.error _, txn.context, rfl, fun context => ⟨fun returned => (by cases returned), ?_⟩⟩
    rintro ⟨_, absent, -⟩
    cases absent
  | some payload =>
    cases subject : subjectOf payload with
    | error exc =>
      refine ⟨.error exc, txn.context, ?_, fun context => ⟨fun returned => (by cases returned), ?_⟩⟩
      · rw [admitPayload, subject]
        rfl
      · rintro ⟨_, ⟨⟩, id, user, named, -⟩
        rw [subject] at named
        cases named
    | ok id =>
      have asked : (admitPayload (some payload)).runState (answerControl admins now drawn) txn =
          (admitAdmin id (admins.rows.lookup id)).runState (answerControl admins now drawn)
            { txn with context := bypassing } := by
        rw [admitPayload, subject]
        rfl
      rw [asked]
      cases found : admins.rows.lookup id with
      | none =>
        refine ⟨.error _, bypassing, rfl, fun context => ⟨fun returned => (by cases returned), ?_⟩⟩
        rintro ⟨_, ⟨⟩, id', user, named, known, -⟩
        rw [subject] at named
        cases named
        rw [found] at known
        cases known
      | some user =>
        refine ⟨.ok ⟨id, user.email, user.isSuperuser⟩, bypassing, rfl, fun context => ?_⟩
        constructor
        · rintro ⟨⟩
          exact ⟨payload, rfl, id, user, subject, found, rfl⟩
        · rintro ⟨_, ⟨⟩, id', user', named, known, rfl⟩
          rw [subject] at named
          cases named
          rw [found] at known
          cases known
          rfl

theorem getCurrentAdmin_run (txn : Txn) :
    ∃ r rls, (getCurrentAdmin settings authorization).runState (answerControl admins now drawn) txn =
      (r, { txn with context := rls }) ∧
      ∀ context, r = .ok context ↔ hasBearer (headerChars authorization) = true ∧
        ∃ payload, decodeAdminJwt settings.lib now (presentedKey (headerChars authorization)) =
          some payload ∧ Speaks admins payload context := by
  rw [getCurrentAdmin]
  split
  · rename_i absent
    refine ⟨.error _, txn.context, rfl, fun context => ⟨fun returned => (by cases returned), ?_⟩⟩
    rintro ⟨bearer, -⟩
    rw [absent] at bearer
    cases bearer
  · rename_i bearer
    obtain ⟨r, rls, run, admits⟩ := @admitPayload_run admins now drawn
      (decodeAdminJwt settings.lib now (presentedKey (headerChars authorization))) txn
    refine ⟨r, rls, run, fun context => (admits context).trans ?_⟩
    exact (and_iff_right (by simpa using bearer)).symm

end Answers

section Planes

/-- The accounts, the admins, and the tokens that were given out. -/
structure ControlPlane where
  db : Database
  admins : AdminTable
  issued : List String

inductive ControlEvent where
  | login (email password : String) (correlationId : Option String) (now : ℚ) (drawn : Drawn)
  | call (authorization : Option HeaderValue) (correlationId : Option String) (op : AccountOp)
    (now : ℚ) (drawn : Drawn)
  | authenticate (request : AuthRequest) (drawn : Drawn)
  | accounts (admins : AdminTable)

def tokensOf : Except Exn TokenResponse → List String
  | .ok response => [response.accessToken]
  | .error _ => []

/-- A request, or a change of the admin accounts by the owner of the database. -/
inductive ControlStep (settings : ControlSettings) : ControlPlane → ControlEvent → ControlPlane → Prop where
  | login (s : ControlPlane) (email password : String) (correlationId : Option String) (now : ℚ)
      (drawn : Drawn) {r : Except Exn TokenResponse} {db : Database}
      (served : serveControl s.admins now drawn (login settings email password correlationId) s.db =
        (r, db)) :
      ControlStep settings s (.login email password correlationId now drawn)
        { s with db := db, issued := s.issued ++ tokensOf r }
  | call (s : ControlPlane) (authorization : Option HeaderValue) (correlationId : Option String)
      (op : AccountOp) (now : ℚ) (drawn : Drawn) {r : Except Exn Unit} {db : Database}
      (served : serveControl s.admins now drawn (adminCall settings authorization correlationId op) s.db =
        (r, db)) :
      ControlStep settings s (.call authorization correlationId op now drawn) { s with db := db }
  | authenticate (s : ControlPlane) (request : AuthRequest) (drawn : Drawn) :
      ControlStep settings s (.authenticate request drawn)
        { s with db := (transact drawn (getCurrentTenant settings.toAccountSettings request) s.db).2 }
  | accounts (s : ControlPlane) (admins : AdminTable) :
      ControlStep settings s (.accounts admins) { s with admins := admins }

end Planes

section Sessions
variable {settings : ControlSettings}

/-- The header's text decodes only if it spells a token that was given out: nobody else signs any. -/
def Unforged (settings : ControlSettings) (issued : List String) (authorization : Option HeaderValue)
    (now : ℚ) : Prop :=
  (settings.lib.jwtDecode now (presentedKey (headerChars authorization))).isSome = true →
    ∃ token ∈ issued, SameToken settings.lib (presentedKey (headerChars authorization)) token

/-- In the run the admin has logged in at this time, with the password of the account. -/
def LoggedIn (settings : ControlSettings) (start : ControlPlane)
    (run : List (ControlEvent × ControlPlane)) (id : Uuid) (issuedAt : ℚ) : Prop :=
  ∃ before s after email password correlationId drawn user,
    run = before ++ (.login email password correlationId issuedAt drawn, s) :: after ∧
      (final start before).admins.findEmail email = some (id, user) ∧
      settings.lib.verifyPassword user.hashedPassword password = .ok true

/-- The token of a login at this time. -/
def tokenOf (settings : ControlSettings) (id : Uuid) (issuedAt : ℚ) : String :=
  createAdminJwt settings.lib id.text issuedAt settings.jwtExpireMinutes

/-- The token of a login holds at this time. -/
def Holding (settings : ControlSettings) (issuedAt now : ℚ) : Prop :=
  (⌊issuedAt⌋ : ℚ) ≤ now ∧ now < ⌊issuedAt + 60 * settings.jwtExpireMinutes⌋

section Logins
variable {admins : AdminTable} {now : ℚ} {drawn : Drawn} {db db' : Database} {email password : String}
  {correlationId : Option String}

theorem verifiedAdmin_some {found : Option (Uuid × AdminUser)} {id : Uuid}
    (verified : verifiedAdmin settings password found = .ok (some id)) :
    ∃ user, found = some (id, user) ∧
      settings.lib.verifyPassword user.hashedPassword password = .ok true := by
  rcases found with _ | ⟨id', user⟩
  · cases verified
  · rw [verifiedAdmin] at verified
    cases answered : settings.lib.verifyPassword user.hashedPassword password with
    | error exc =>
      rw [answered] at verified
      cases verified
    | ok matched =>
      rw [answered] at verified
      cases matched with
      | false => cases verified
      | true =>
        cases verified
        exact ⟨user, rfl, answered⟩

theorem login_run (txn : Txn) :
    (login settings email password correlationId).runState (answerControl admins now drawn) txn =
      (.done (verifiedAdmin settings password (admins.findEmail email)) >>=
        concludeLogin settings email correlationId : ControlProg TokenResponse).runState
        (answerControl admins now drawn) { txn with context := bypassing } := rfl

theorem refused_run {txn txn' : Txn} {r : Except Exn TokenResponse} (still : txn.working = txn.committed)
    (run : (concludeLogin settings email correlationId none).runState (answerControl admins now drawn)
      txn = (r, txn')) :
    (∃ exc, r = .error exc) ∧ Recorded TellsOther txn.committed txn'.committed := by
  have written : Commits TellsOther [] (writeAuditEvent (dbSession []) none "admin.login_failure"
      correlationId [("email", .str email)]) := by
    refine fun _ => ⟨toldBy_other (by simp [TellsOther, otherEvents]), fun o => ?_⟩
    cases o <;> trivial
  have recorded := @commits_run Unit drawn TellsOther _ [] written txn still
  rw [← @runState_onDb Unit admins now drawn] at recorded
  rcases Prog.runState_bind run with ⟨exc, first, rfl⟩ | ⟨_, ended, first, later⟩
  · rw [first] at recorded
    exact ⟨⟨exc, rfl⟩, recorded⟩
  · rw [first] at recorded
    cases later
    exact ⟨⟨_, rfl⟩, recorded⟩

theorem login_returned {response : TokenResponse}
    (served : serveControl admins now drawn (login settings email password correlationId) db =
      (.ok response, db')) :
    ∃ id user, admins.findEmail email = some (id, user) ∧
      settings.lib.verifyPassword user.hashedPassword password = .ok true ∧
      response.accessToken = tokenOf settings id now := by
  have returned := congrArg Prod.fst served
  rw [serveControl] at returned
  dsimp only at returned
  rw [login_run] at returned
  cases verified : verifiedAdmin settings password (admins.findEmail email) with
  | error exc =>
    rw [verified] at returned
    cases returned
  | ok answer =>
    rw [verified] at returned
    cases answer with
    | none =>
      obtain ⟨⟨exc, failed⟩, -⟩ := @refused_run settings admins now drawn email correlationId
        ⟨db, db, bypassing⟩ _ _ rfl rfl
      cases failed.symm.trans returned
    | some id =>
      obtain ⟨user, found, matched⟩ := verifiedAdmin_some verified
      cases returned
      exact ⟨id, user, found, matched, rfl⟩

theorem login_recorded {r : Except Exn TokenResponse}
    (served : serveControl admins now drawn (login settings email password correlationId) db = (r, db')) :
    Recorded TellsOther db db' := by
  have left := congrArg Prod.snd served
  rw [serveControl] at left
  dsimp only at left
  rw [login_run] at left
  cases verified : verifiedAdmin settings password (admins.findEmail email) with
  | error exc =>
    rw [verified] at left
    cases left
    exact .refl db
  | ok answer =>
    rw [verified] at left
    cases answer with
    | none =>
      obtain ⟨-, recorded⟩ := @refused_run settings admins now drawn email correlationId
        ⟨db, db, bypassing⟩ _ _ rfl rfl
      rw [← left]
      exact recorded
    | some id =>
      cases left
      exact .refl db

end Logins

section Admissions
variable {start : ControlPlane} {run : List (ControlEvent × ControlPlane)}

theorem LoggedIn.cons {event : ControlEvent} {s : ControlPlane} {id : Uuid} {issuedAt : ℚ}
    (h : LoggedIn settings s run id issuedAt) :
    LoggedIn settings start ((event, s) :: run) id issuedAt := by
  obtain ⟨before, t, after, email, password, correlationId, drawn, user, rfl, found, verified⟩ := h
  exact ⟨(event, s) :: before, t, after, email, password, correlationId, drawn, user, rfl, found, verified⟩

theorem LoggedIn.canonical {id : Uuid} {issuedAt : ℚ} (h : LoggedIn settings start run id issuedAt) :
    uuidOf id.text = some id := by
  obtain ⟨before, s, after, email, password, correlationId, drawn, user, rfl, found, verified⟩ := h
  exact AdminTable.canonical _ id (AList.lookup_isSome.mp (by
    rw [AdminTable.findEmail_lookup found]
    rfl))

theorem issued_loggedIn (isRun : IsRun (ControlStep settings) start run) {token : String}
    (mem : token ∈ (final start run).issued) :
    token ∈ start.issued ∨ ∃ id issuedAt, LoggedIn settings start run id issuedAt ∧
      token = tokenOf settings id issuedAt := by
  induction run generalizing start with
  | nil => exact .inl mem
  | cons head rest ih =>
    obtain ⟨event, s⟩ := head
    rcases ih isRun.2 mem with earlier | ⟨id, issuedAt, logged, same⟩
    · cases isRun.1 with
      | @login email password correlationId now drawn r db served =>
        rcases List.mem_append.mp earlier with old | new
        · exact .inl old
        · cases r with
          | error exc => cases new
          | ok response =>
            obtain ⟨id, user, found, matched, same⟩ := login_returned served
            refine .inr ⟨id, now, ?_, (List.mem_singleton.mp new).trans same⟩
            exact ⟨[], _, rest, email, password, correlationId, drawn, user, rfl, found, matched⟩
      | call => exact .inl earlier
      | authenticate => exact .inl earlier
      | accounts => exact .inl earlier
    · exact .inr ⟨id, issuedAt, logged.cons, same⟩

theorem decodeAdminJwt_tokenOf (signs : Signs settings.lib) (id : Uuid) (issuedAt now : ℚ) :
    decodeAdminJwt settings.lib now (tokenOf settings id issuedAt) =
      if (⌊issuedAt⌋ : ℚ) ≤ now ∧ now < ⌊issuedAt + 60 * settings.jwtExpireMinutes⌋ then
        some (adminClaims id.text ⌊issuedAt⌋ ⌊issuedAt + 60 * settings.jwtExpireMinutes⌋)
      else none := by
  rw [decodeAdminJwt, tokenOf, createAdminJwt, signs]
  split <;> rfl

theorem SameToken.decodeAdminJwt {lib : ControlLibraries} {text token : String}
    (same : SameToken lib text token) (now : ℚ) :
    decodeAdminJwt lib now text = AdminSessions.decodeAdminJwt lib now token := by
  rw [AdminSessions.decodeAdminJwt, AdminSessions.decodeAdminJwt, same now]

theorem speaks_adminClaims {admins : AdminTable} {id : Uuid} (canonical : uuidOf id.text = some id)
    (issuedAt expiresAt : ℤ) (context : AdminContext) :
    Speaks admins (adminClaims id.text issuedAt expiresAt) context ↔
      ∃ user, admins.rows.lookup id = some user ∧ context = ⟨id, user.email, user.isSuperuser⟩ := by
  have subject : subjectOf (adminClaims id.text issuedAt expiresAt) = .ok id := by
    have found : (adminClaims id.text issuedAt expiresAt).lookup "sub" = some (.str id.text) := rfl
    rw [subjectOf, found]
    simp only [canonical]
  constructor
  · rintro ⟨id', user, named, known, rfl⟩
    rw [subject] at named
    cases named
    exact ⟨user, known, rfl⟩
  · rintro ⟨user, known, rfl⟩
    exact ⟨id, user, subject, known, rfl⟩

/-- The header has a bearer token, and it is this one. -/
def Presents (settings : ControlSettings) (authorization : Option HeaderValue) (token : String) : Prop :=
  hasBearer (headerChars authorization) = true ∧
    SameToken settings.lib (presentedKey (headerChars authorization)) token

/-- The header carries the token of an earlier login, which holds. -/
def InSession (settings : ControlSettings) (start : ControlPlane)
    (run : List (ControlEvent × ControlPlane)) (authorization : Option HeaderValue) (id : Uuid)
    (now : ℚ) : Prop :=
  ∃ issuedAt, LoggedIn settings start run id issuedAt ∧
    Presents settings authorization (tokenOf settings id issuedAt) ∧ Holding settings issuedAt now

variable {authorization : Option HeaderValue} {now : ℚ} {drawn : Drawn}

theorem admits_iff (signs : Signs settings.lib) (isRun : IsRun (ControlStep settings) start run)
    (fresh : start.issued = []) (unforged : Unforged settings (final start run).issued authorization now)
    {admins : AdminTable} {context : AdminContext} :
    (hasBearer (headerChars authorization) = true ∧
      ∃ payload, decodeAdminJwt settings.lib now (presentedKey (headerChars authorization)) =
        some payload ∧ Speaks admins payload context) ↔
      ∃ id user, InSession settings start run authorization id now ∧
        admins.rows.lookup id = some user ∧ context = ⟨id, user.email, user.isSuperuser⟩ := by
  constructor
  · rintro ⟨bearer, payload, decoded, speaks⟩
    have signed : (settings.lib.jwtDecode now (presentedKey (headerChars authorization))).isSome = true := by
      obtain ⟨mem, -⟩ := Option.filter_eq_some_iff.mp decoded
      rw [mem]
      rfl
    obtain ⟨token, out, same⟩ := unforged signed
    rcases issued_loggedIn isRun out with old | ⟨id, issuedAt, logged, rfl⟩
    · rw [fresh] at old
      cases old
    · rw [same.decodeAdminJwt, decodeAdminJwt_tokenOf signs] at decoded
      split at decoded
      · rename_i holding
        cases decoded
        obtain ⟨user, known, rfl⟩ := (speaks_adminClaims logged.canonical _ _ _).mp speaks
        exact ⟨id, user, ⟨issuedAt, logged, ⟨bearer, same⟩, holding⟩, known, rfl⟩
      · cases decoded
  · rintro ⟨id, user, ⟨issuedAt, logged, ⟨bearer, same⟩, holding⟩, known, rfl⟩
    have decoded := decodeAdminJwt_tokenOf signs id issuedAt now
    rw [if_pos (show _ ∧ _ from holding), ← same.decodeAdminJwt] at decoded
    exact ⟨bearer, _, decoded, (speaks_adminClaims logged.canonical _ _ _).mpr ⟨user, known, rfl⟩⟩

/-- A request is admitted exactly with the token of an earlier login of an account that
is still there, from the second of that login on until the token expires. -/
theorem admin_admitted_iff (signs : Signs settings.lib) (isRun : IsRun (ControlStep settings) start run)
    (fresh : start.issued = []) (unforged : Unforged settings (final start run).issued authorization now)
    (context : AdminContext) :
    (serveControl (final start run).admins now drawn (getCurrentAdmin settings authorization)
      (final start run).db).1 = .ok context ↔
      ∃ id user, InSession settings start run authorization id now ∧
        (final start run).admins.rows.lookup id = some user ∧
        context = ⟨id, user.email, user.isSuperuser⟩ := by
  obtain ⟨r, rls, ended, admits⟩ := @getCurrentAdmin_run (final start run).admins now drawn settings
    authorization ⟨(final start run).db, (final start run).db, .none⟩
  rw [serveControl, ended]
  exact (admits context).trans (admits_iff signs isRun fresh unforged)

end Admissions

section Instances

/-- The claims of the first login. -/
def firstClaims : String :=
  Json.dumps Json.plainDump (.obj (adminClaims helloTenantId.text 1000 4600))

/-- They are signed by HS256 with the default `jwt_secret`. -/
def firstJwt : String :=
  "eyJhbGciOiJIUzI1NiIsInR5cCI6IkpXVCJ9." ++
    "eyJzdWIiOiIwMDAwMDAwMC0wMDAwLTQwMDAtODAwMC0wMDAwMDAwMDAwMDEiLCJpYXQiOjEwMDAsImV4cCI6NDYwMCwi" ++
    "c2NvcGUiOiJhZG1pbiJ9.c3pJO_mcSHyI3bpu3aUrU-q05V3rQWV2n2eDvHybCuk"

/-- The claims in a JSON text, while they hold. -/
def claimsIn (now : ℚ) (text : String) : Option JsonObject :=
  match JsonDecoder.loads JsonTokens.plainTexts text with
  | some (.obj claims) =>
    match Json.get claims "iat", Json.get claims "exp" with
    | .int issuedAt, .int expiresAt =>
      if (issuedAt : ℚ) ≤ now ∧ now < expiresAt then some claims else none
    | _, _ => none
  | _ => none

/-- The argon2id hash of "password" with a salt of the bytes from 0 to 15. -/
def firstHash : String :=
  "$argon2id$v=19$m=65536,t=3,p=4$AAECAwQFBgcICQoLDA0ODw$" ++
    "vUrOhcKV+zjYROFncankOSUoKsmCyGVr5Vou9s8g/Vg"

def signed (text : String) : String := if text = firstClaims then firstJwt else text

def signedText (token : String) : String := if token = firstJwt then firstClaims else token

/-- The libraries on the first login. Any other claims are left unsigned. -/
def firstLibraries : ControlLibraries where
  jwtEncode claims := signed (Json.dumps Json.plainDump (.obj claims))
  jwtDecode now token := claimsIn now (signedText token)
  verifyPassword hashed password := .ok (hashed = firstHash && password = "password")

theorem firstJwt_chars : firstJwt.toList.head? = some 'e' ∧ firstJwt.toList.getLast? = some 'k' ∧
    firstJwt.toList.all (fun c => decide (0 < c.toNat ∧ c.toNat < 256)) = true := by
  decide +kernel

theorem dumps_ne_firstJwt (claims : JsonObject) :
    Json.dumps Json.plainDump (.obj claims) ≠ firstJwt := by
  intro same
  have first : (Json.dumps Json.plainDump (.obj claims)).toList.head? = some '\x7b' := by
    rw [Json.dumps]
    simp
  rw [same, firstJwt_chars.1] at first
  cases first

theorem signedText_signed {text : String} (unsigned : text ≠ firstJwt) : signedText (signed text) = text := by
  by_cases claims : text = firstClaims
  · rw [signed, if_pos claims, signedText, if_pos rfl, claims]
  · rw [signed, if_neg claims, signedText, if_neg unsigned]

theorem firstLibraries_signs : Signs firstLibraries := by
  intro subject issuedAt expiresAt now
  have decoded : JsonRoundTrip.Decoded JsonTokens.plainTexts (.obj (adminClaims subject issuedAt expiresAt)) := by
    refine .obj (by simp [adminClaims]) ?_
    simp only [adminClaims, List.forall_mem_cons]
    exact ⟨.str _, .int _, .int _, .str _, by simp⟩
  simp only [firstLibraries]
  rw [signedText_signed (dumps_ne_firstJwt _), claimsIn, JsonRoundTrip.loads_dumps decoded]
  rfl

def firstControl : ControlSettings := { firstSettings with lib := firstLibraries, jwtExpireMinutes := 60 }

def firstAdmin : AdminUser := ⟨"admin@example.com", firstHash, true⟩

def firstAdmins : AdminTable where
  rows := (∅ : AList fun _ : Uuid => AdminUser).insert helloTenantId firstAdmin
  canonical := by
    intro id mem
    rcases AList.mem_insert _ |>.mp mem with rfl | absent
    · decide
    · exact absurd absent (AList.notMem_empty _)

def firstPlane : ControlPlane := ⟨.empty, firstAdmins, []⟩

theorem firstToken_eq : tokenOf firstControl helloTenantId 1000 = firstJwt := by
  have issued : ⌊(1000 : ℚ)⌋ = 1000 := by norm_num
  have expires : ⌊(1000 : ℚ) + 60 * (60 : ℤ)⌋ = 4600 := by norm_num
  rw [tokenOf, createAdminJwt]
  change firstLibraries.jwtEncode (adminClaims _ ⌊(1000 : ℚ)⌋ ⌊(1000 : ℚ) + 60 * (60 : ℤ)⌋) = _
  rw [issued, expires]
  change signed firstClaims = firstJwt
  exact if_pos rfl

def firstHeader : HeaderValue where
  chars := "Bearer ".toList ++ firstJwt.toList
  latin1 := by
    intro c mem
    rcases List.mem_append.mp mem with word | token
    · have ascii : "Bearer ".toList.all (fun c => decide (0 < c.toNat ∧ c.toNat < 256)) = true := by
        decide
      exact of_decide_eq_true (List.all_eq_true.mp ascii c word)
    · exact of_decide_eq_true (List.all_eq_true.mp firstJwt_chars.2.2 c token)

theorem firstHeader_presents :
    Presents firstControl (some firstHeader) (tokenOf firstControl helloTenantId 1000) := by
  have bare : strip (String.ofList firstJwt.toList) = firstJwt := by
    rw [String.ofList_toList]
    exact strip_solid firstJwt_chars.1 rfl firstJwt_chars.2.1 rfl
  have carries : Carries firstHeader.chars firstJwt :=
    ⟨"Bearer".toList, firstJwt.toList, rfl, by decide, bare⟩
  obtain ⟨bearer, same⟩ := hasBearer_of_carries carries
  refine ⟨bearer, ?_⟩
  rw [firstToken_eq, ← same]
  exact fun _ => rfl

def firstLogin : ControlEvent := .login firstAdmin.email "password" none 1000 firstDrawn

def loggedPlane : ControlPlane :=
  { firstPlane with issued := [tokenOf firstControl helloTenantId 1000] }

theorem firstLogin_step : ControlStep firstControl firstPlane firstLogin loggedPlane :=
  .login firstPlane firstAdmin.email "password" none 1000 firstDrawn rfl

theorem firstToken_unforged (now : ℚ) :
    Unforged firstControl loggedPlane.issued (some firstHeader) now :=
  fun _ => ⟨_, .head _, firstHeader_presents.2⟩

theorem firstLogin_session : InSession firstControl firstPlane [(firstLogin, loggedPlane)]
    (some firstHeader) helloTenantId 1010 := by
  refine ⟨1000, ?_, firstHeader_presents, ?_⟩
  · exact ⟨[], loggedPlane, [], firstAdmin.email, "password", none, firstDrawn, firstAdmin, rfl, rfl, rfl⟩
  · rw [Holding]
    norm_num [firstControl]

theorem admin_admitted_iff_first :
    ∃ run context, IsRun (ControlStep firstControl) firstPlane run ∧
      (serveControl (final firstPlane run).admins 1010 firstDrawn
        (getCurrentAdmin firstControl (some firstHeader)) (final firstPlane run).db).1 = .ok context := by
  have isRun : IsRun (ControlStep firstControl) firstPlane [(firstLogin, loggedPlane)] :=
    ⟨firstLogin_step, trivial⟩
  have unforged : Unforged firstControl (final firstPlane [(firstLogin, loggedPlane)]).issued
      (some firstHeader) 1010 := firstToken_unforged 1010
  have known : (final firstPlane [(firstLogin, loggedPlane)]).admins.rows.lookup helloTenantId =
      some firstAdmin := rfl
  have admitted := @admin_admitted_iff firstControl firstPlane _ (some firstHeader) 1010 firstDrawn
    firstLibraries_signs isRun rfl unforged ⟨helloTenantId, firstAdmin.email, firstAdmin.isSuperuser⟩
  exact ⟨_, _, isRun, admitted.mpr ⟨helloTenantId, firstAdmin, firstLogin_session, known, rfl⟩⟩

end Instances

section Attributions
variable {start : ControlPlane} {run : List (ControlEvent × ControlPlane)}
  {db db' : Database}

theorem program_tells (settings : AccountSettings) (request : AdminRequest) (op : AccountOp) :
    Commits (NamesAdmin request.adminId) [] (op.program settings request) := by
  cases op with
  | createTenant payload => exact (createTenant_tells request payload).returning ()
  | updateTenant tenantId payload => exact updateTenant_tells settings request tenantId payload
  | createApiKey tenantId name => exact (createApiKey_tells settings request tenantId name).returning ()
  | revokeApiKey tenantId keyId => exact revokeApiKey_tells request tenantId keyId

theorem adminCall_recorded {admins : AdminTable} {now : ℚ} {drawn : Drawn}
    {authorization : Option HeaderValue} {correlationId : Option String} {op : AccountOp}
    {r : Except Exn Unit}
    (served : serveControl admins now drawn (adminCall settings authorization correlationId op) db =
      (r, db')) :
    Recorded (fun row => ∃ context, (hasBearer (headerChars authorization) = true ∧
      ∃ payload, decodeAdminJwt settings.lib now (presentedKey (headerChars authorization)) =
        some payload ∧ Speaks admins payload context) ∧ NamesAdmin context.adminId.text row) db db' := by
  obtain ⟨admitted, rls, asked, admits⟩ := @getCurrentAdmin_run admins now drawn settings
    authorization ⟨db, db, .none⟩
  have left := congrArg Prod.snd served
  rw [serveControl] at left
  cases ended : (adminCall settings authorization correlationId op).runState
    (answerControl admins now drawn) ⟨db, db, .none⟩ with
  | mk result txn =>
    rw [ended] at left
    cases left
    rw [adminCall] at ended
    rcases Prog.runState_bind ended with ⟨exc, first, rfl⟩ | ⟨context, mid, first, later⟩
    · cases asked.symm.trans first
      exact .refl db
    · cases asked.symm.trans first
      rw [runState_onDb] at later
      have recorded := @commits_run Unit drawn _ _ []
        (program_tells settings.toAccountSettings ⟨context.adminId.text, correlationId⟩ op)
        ⟨db, db, rls⟩ rfl
      rw [later] at recorded
      exact recorded.mono fun row named => ⟨context, (admits context).mp rfl, named⟩

/-- Nobody forges the tokens of the calls. -/
def HonestTokens (settings : ControlSettings) (s : ControlPlane) : ControlEvent → Prop
  | .call authorization _ _ now _ => Unforged settings s.issued authorization now
  | _ => True

/-- A call in the run has added the row to the audit log: a call of this admin, in a session, while
the account was there. -/
def WrittenBy (settings : ControlSettings) (start : ControlPlane)
    (run : List (ControlEvent × ControlPlane)) (id : Uuid) (row : AuditLog) : Prop :=
  ∃ before authorization correlationId op now drawn s after,
    run = before ++ (.call authorization correlationId op now drawn, s) :: after ∧
      s.db.auditLog = (final start before).db.auditLog ++ [row] ∧
      InSession settings start before authorization id now ∧
      ((final start before).admins.rows.lookup id).isSome = true

theorem WrittenBy.append {id : Uuid} {row : AuditLog} (h : WrittenBy settings start run id row)
    (more : List (ControlEvent × ControlPlane)) : WrittenBy settings start (run ++ more) id row := by
  obtain ⟨before, authorization, correlationId, op, now, drawn, s, after, rfl, written, session, known⟩ := h
  exact ⟨before, authorization, correlationId, op, now, drawn, s, after ++ more, by simp, written, session,
    known⟩

/-- The row tells of something else, or names the admin who did it. -/
def Attributed (settings : ControlSettings) (start : ControlPlane)
    (run : List (ControlEvent × ControlPlane)) (row : AuditLog) : Prop :=
  TellsOther row ∨ ∃ id, WrittenBy settings start run id row ∧ NamesAdmin id.text row

theorem Attributed.append {row : AuditLog} (h : Attributed settings start run row)
    (more : List (ControlEvent × ControlPlane)) : Attributed settings start (run ++ more) row := by
  rcases h with other | ⟨id, written, named⟩
  · exact .inl other
  · exact .inr ⟨id, written.append more, named⟩

theorem step_recorded (signs : Signs settings.lib) (isRun : IsRun (ControlStep settings) start run)
    (fresh : start.issued = []) {event : ControlEvent} {s : ControlPlane}
    (honest : HonestTokens settings (final start run) event)
    (step : ControlStep settings (final start run) event s) :
    Recorded (Attributed settings start (run ++ [(event, s)])) (final start run).db s.db := by
  cases step with
  | login email password correlationId now drawn served =>
    exact (login_recorded served).mono fun row other => .inl other
  | call authorization correlationId op now drawn served =>
    obtain ⟨rows, once, meet, log, view⟩ := adminCall_recorded served
    refine ⟨rows, once, fun row mem => ?_, log, view⟩
    obtain ⟨context, admitted, named⟩ := meet row mem
    obtain ⟨id, user, session, known, rfl⟩ := (admits_iff signs isRun fresh honest).mp admitted
    have single : rows = [row] := by
      obtain ⟨other, rfl⟩ := List.length_eq_one_iff.mp
        (Nat.le_antisymm once (List.length_pos_of_mem mem))
      rw [List.mem_singleton.mp mem]
    refine .inr ⟨id, ⟨run, authorization, correlationId, op, now, drawn, _, [], rfl, ?_, session, ?_⟩, named⟩
    · rw [← single]
      exact log
    · rw [known]
      rfl
  | authenticate request drawn =>
    exact (transact_recorded (getCurrentTenant_tells settings.toAccountSettings request)).mono
      fun row other => .inl other
  | accounts admins => exact .refl _

/-- What the run has changed in the accounts is told by the new rows of the audit log, and each of
these names the admin who did it. -/
def AllAttributed (settings : ControlSettings) (start : ControlPlane)
    (run : List (ControlEvent × ControlPlane)) : Prop :=
  ∃ rows, (final start run).db.auditLog = start.db.auditLog ++ rows ∧
    (accountView start.db).replay rows = accountView (final start run).db ∧
    ∀ row ∈ rows, Attributed settings start run row

theorem AllAttributed.step {event : ControlEvent} {s : ControlPlane}
    (before : AllAttributed settings start run)
    (recorded : Recorded (Attributed settings start (run ++ [(event, s)])) (final start run).db s.db) :
    AllAttributed settings start (run ++ [(event, s)]) := by
  obtain ⟨rows, log, current, named⟩ := before
  obtain ⟨new, -, meet, grown, seen⟩ := recorded
  refine ⟨rows ++ new, ?_, ?_, fun row mem => ?_⟩
  · rw [final_append, ← List.append_assoc, ← log]
    exact grown
  · rw [final_append, replay_append, current]
    exact seen.symm
  · rcases List.mem_append.mp mem with old | added
    · exact (named row old).append _
    · exact meet row added

theorem attributed_from (signs : Signs settings.lib) (fresh : start.issued = [])
    {more : List (ControlEvent × ControlPlane)} (isRun : IsRun (ControlStep settings) start run)
    (before : AllAttributed settings start run)
    (later : IsRun (ControlStep settings) (final start run) more)
    (honest : StepsMeet (HonestTokens settings) (final start run) more) :
    AllAttributed settings start (run ++ more) := by
  induction more generalizing run with
  | nil =>
    rw [List.append_nil]
    exact before
  | cons head rest ih =>
    obtain ⟨event, s⟩ := head
    have one : IsRun (ControlStep settings) (final start run) [(event, s)] := ⟨later.1, trivial⟩
    have reached : final start (run ++ [(event, s)]) = s := final_append ..
    have stepped := before.step (step_recorded signs isRun fresh honest.1 later.1)
    have whole := ih (isRun.append one) stepped (reached.symm ▸ later.2) (reached.symm ▸ honest.2)
    rwa [List.append_assoc] at whole

/-- Whatever has changed in the accounts since the start, the audit log tells it. Its new rows tell of
something else, or they name the admin in whose call they were written: one who had logged in with the
password of an account, and called with that login's token while the token held and the
account was there. -/
theorem changes_attributed (signs : Signs settings.lib) (fresh : start.issued = [])
    (isRun : IsRun (ControlStep settings) start run)
    (honest : StepsMeet (HonestTokens settings) start run) :
    ∃ rows, (final start run).db.auditLog = start.db.auditLog ++ rows ∧
      (accountView start.db).replay rows = accountView (final start run).db ∧
      ∀ row ∈ rows, TellsOther row ∨ ∃ id, WrittenBy settings start run id row ∧ NamesAdmin id.text row := by
  have begins : AllAttributed settings start [] := ⟨[], (List.append_nil _).symm, rfl, by simp⟩
  have noSteps : IsRun (ControlStep settings) start [] := trivial
  exact attributed_from signs fresh noSteps begins isRun honest

def firstCall : ControlEvent := .call (some firstHeader) none (.createTenant { name := "acme" }) 1010 firstDrawn

def calledPlane : ControlPlane :=
  { loggedPlane with
    db := (serveControl loggedPlane.admins 1010 firstDrawn
      (adminCall firstControl (some firstHeader) none (.createTenant { name := "acme" })) loggedPlane.db).2 }

theorem firstCall_step : ControlStep firstControl loggedPlane firstCall calledPlane :=
  .call loggedPlane (some firstHeader) none (.createTenant { name := "acme" }) 1010 firstDrawn Prod.mk.eta.symm

/-- A login and a tenant. -/
def firstRun : List (ControlEvent × ControlPlane) := [(firstLogin, loggedPlane), (firstCall, calledPlane)]

theorem changes_attributed_first :
    ∃ rows, (final firstPlane firstRun).db.auditLog = firstPlane.db.auditLog ++ rows ∧
      ∀ row ∈ rows, TellsOther row ∨
        ∃ id, WrittenBy firstControl firstPlane firstRun id row ∧ NamesAdmin id.text row := by
  have isRun : IsRun (ControlStep firstControl) firstPlane firstRun :=
    ⟨firstLogin_step, firstCall_step, trivial⟩
  have honest : StepsMeet (HonestTokens firstControl) firstPlane firstRun :=
    ⟨trivial, firstToken_unforged 1010, trivial⟩
  obtain ⟨rows, log, -, attributed⟩ := @changes_attributed firstControl firstPlane firstRun
    firstLibraries_signs rfl isRun honest
  exact ⟨rows, log, attributed⟩

end Attributions

end Sessions
end AegisGateway.AdminSessions
