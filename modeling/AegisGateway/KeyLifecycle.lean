import AegisGateway.Accounts

set_option autoImplicit false

/-!
# The life of an API key

Any sequence of admin operations and authentications, each by itself, from an empty
database. The history is the list of operations with their outcomes. A ledger read off
the history alone says which keys are out, for whom, and whether they are revoked; the
database agrees with it after every operation.
-/
namespace AegisGateway.KeyLifecycle
open ApiKeys Accounts

inductive Operation where
  | createTenant (request : AdminRequest) (payload : TenantCreateRequest)
  | updateTenant (request : AdminRequest) (tenantId : Uuid) (payload : TenantUpdateRequest)
  | createApiKey (request : AdminRequest) (tenantId : Uuid) (name : String)
  | revokeApiKey (request : AdminRequest) (tenantId : Uuid) (keyId : String)
  | authenticate (request : AuthRequest)

inductive Outcome where
  | tenantCreated (id : Uuid)
  | tenantUpdated
  | keyCreated (created : ApiKeyCreated)
  | keyRevoked
  | authenticated (context : TenantContext)
  | raised (exc : Exn)

/-- An operation with what it draws from the clock and the random number generator. -/
structure OpCall where
  op : Operation
  drawn : Drawn

abbrev Record := OpCall × Outcome

def concluded {α : Type} (f : α → Outcome) (ended : Except Exn α × Database) : Outcome × Database :=
  match ended with
  | (.ok a, db) => (f a, db)
  | (.error exc, db) => (.raised exc, db)

def perform (settings : AccountSettings) (call : OpCall) (db : Database) : Outcome × Database :=
  match call.op with
  | .createTenant request payload =>
    concluded .tenantCreated (transact call.drawn (createTenant request payload) db)
  | .updateTenant request tenantId payload =>
    concluded (fun _ => .tenantUpdated)
      (transact call.drawn (updateTenant settings request tenantId payload) db)
  | .createApiKey request tenantId name =>
    concluded .keyCreated (transact call.drawn (createApiKey settings request tenantId name) db)
  | .revokeApiKey request tenantId keyId =>
    concluded (fun _ => .keyRevoked) (transact call.drawn (revokeApiKey request tenantId keyId) db)
  | .authenticate request =>
    concluded .authenticated (transact call.drawn (getCurrentTenant settings request) db)

/-- Every sequence of operations from an empty database. -/
inductive Lifecycle (settings : AccountSettings) : List Record → Database → Prop where
  | start : Lifecycle settings [] .empty
  | next {history : List Record} {db db' : Database} {call : OpCall} {outcome : Outcome}
      (before : Lifecycle settings history db)
      (performed : perform settings call db = (outcome, db')) :
      Lifecycle settings (history ++ [(call, outcome)]) db'

section History

/-- The operation returned this key for the tenant. -/
def Returns (tenantId : Uuid) (created : ApiKeyCreated) (e : Record) : Prop :=
  ∃ request name drawn, e = (⟨.createApiKey request tenantId name, drawn⟩, .keyCreated created)

def Revokes (tenantId : Uuid) (keyId : String) (e : Record) : Prop :=
  ∃ request drawn, e = (⟨.revokeApiKey request tenantId keyId, drawn⟩, .keyRevoked)

/-- The key was returned for the tenant and has not been revoked since. -/
def Outstanding (history : List Record) (tenantId : Uuid) (created : ApiKeyCreated) : Prop :=
  ∃ earlier e later, history = earlier ++ e :: later ∧ Returns tenantId created e ∧
    ∀ e' ∈ later, ¬ Revokes tenantId created.keyId e'

/-- Whether the tenant is active after the operation. -/
def activeAfter (tenantId : Uuid) (active : Bool) : Record → Bool
  | (⟨.createTenant _ _, _⟩, .tenantCreated id) => if id = tenantId then true else active
  | (⟨.updateTenant _ id payload, _⟩, .tenantUpdated) =>
    if id = tenantId then payload.activeAfter active else active
  | _ => active

def Active (history : List Record) (tenantId : Uuid) : Prop :=
  history.foldl (activeAfter tenantId) false = true

def isHexChar (c : Char) : Bool := ('0' ≤ c && c ≤ '9') || ('a' ≤ c && c ≤ 'f')

def isUrlSafe (c : Char) : Bool :=
  ('0' ≤ c && c ≤ '9') || ('a' ≤ c && c ≤ 'z') || ('A' ≤ c && c ≤ 'Z') || c = '-' || c = '_'

/-- What `secrets.token_hex` and `secrets.token_urlsafe` give a new key. -/
def WellDrawn (e : Record) : Prop :=
  match e.1.op with
  | .createApiKey _ _ _ =>
    (e.1.drawn.keyId ≠ "" ∧ ∀ c ∈ e.1.drawn.keyId.toList, isHexChar c = true) ∧
      e.1.drawn.secretPart ≠ "" ∧ ∀ c ∈ e.1.drawn.secretPart.toList, isUrlSafe c = true
  | _ => True

theorem outstanding_snoc {history : List Record} {e : Record} {tenantId : Uuid}
    {created : ApiKeyCreated} :
    Outstanding (history ++ [e]) tenantId created ↔
      Outstanding history tenantId created ∧ ¬ Revokes tenantId created.keyId e ∨
        Returns tenantId created e := by
  constructor
  · rintro ⟨earlier, e', later, split, returns, unrevoked⟩
    rcases List.eq_nil_or_concat later with rfl | ⟨later, last, rfl⟩
    · obtain ⟨-, same⟩ := List.append_inj' split rfl
      cases same
      exact .inr returns
    · rw [List.concat_eq_append, ← List.cons_append, ← List.append_assoc] at split
      obtain ⟨rfl, same⟩ := List.append_inj' split rfl
      cases same
      refine .inl ⟨⟨earlier, e', later, rfl, returns, fun e'' mem => ?_⟩, ?_⟩
      · exact unrevoked e'' (by simp [mem])
      · exact unrevoked e (by simp)
  · rintro (⟨⟨earlier, e', later, rfl, returns, unrevoked⟩, last⟩ | returns)
    · refine ⟨earlier, e', later ++ [e], by simp, returns, fun e'' mem => ?_⟩
      rcases List.mem_append.mp mem with old | new
      · exact unrevoked e'' old
      · rw [List.mem_singleton.mp new]
        exact last
    · exact ⟨history, e, [], rfl, returns, by simp⟩

end History

section Keys

/-- What of a key's row decides whether it is let in. -/
structure KeyView where
  tenantId : Uuid
  hashedSecret : String
  revokedAt : Option BudgetScan.UtcDateTime

def keyView (db : Database) (keyId : String) : Option KeyView :=
  (db.apiKeys.lookup keyId).map fun row => ⟨row.tenantId, row.hashedSecret, row.revokedAt⟩

def isActive (db : Database) (tenantId : Uuid) : Bool :=
  ((db.tenants.lookup tenantId).map Tenant.isActive).getD false

theorem keyView_congr {db db' : Database} (h : db'.apiKeys = db.apiKeys) :
    keyView db' = keyView db := by
  funext keyId
  rw [keyView, keyView, h]

theorem isActive_congr {db db' : Database} (h : db'.tenants = db.tenants) :
    isActive db' = isActive db := by
  funext tenantId
  rw [isActive, isActive, h]

theorem keyView_stored {db : Database} {keyId : String} {row : ApiKey}
    (h : db.apiKeys.lookup keyId = some row) :
    keyView db keyId = some ⟨row.tenantId, row.hashedSecret, row.revokedAt⟩ := by
  rw [keyView, h]
  rfl

theorem keyView_insert {db db' : Database} {keyId : String} {row : ApiKey}
    (h : db'.apiKeys = db.apiKeys.insert keyId row) :
    keyView db' = Function.update (keyView db) keyId
      (some ⟨row.tenantId, row.hashedSecret, row.revokedAt⟩) := by
  funext other
  rw [keyView, h]
  by_cases same : other = keyId
  · subst same
    simp
  · rw [AList.lookup_insert_ne same, Function.update_of_ne same]
    rfl

theorem isActive_insert {db db' : Database} {tenantId : Uuid} {tenant : Tenant}
    (h : db'.tenants = db.tenants.insert tenantId tenant) :
    isActive db' = Function.update (isActive db) tenantId tenant.isActive := by
  funext other
  rw [isActive, h]
  by_cases same : other = tenantId
  · subst same
    simp
  · rw [AList.lookup_insert_ne same, Function.update_of_ne same]
    rfl

/-- The parts of a full key as the generator gives them. -/
structure Proper (keyId secretPart : String) : Prop where
  named : keyId ≠ ""
  undotted : '.' ∉ keyId.toList
  secret : secretPart ≠ ""

/-- The stored keys are those that the history has returned, with the revocations since. -/
structure KeysAgree (settings : AccountSettings) (history : List Record)
    (keys : String → Option KeyView) : Prop where
  stored : ∀ keyId view, keys keyId = some view → view.revokedAt = none →
    ∃ created secretPart, created.keyId = keyId ∧ created.apiKey = fullKey keyId secretPart ∧
      view.hashedSecret = hashApiKeySecret settings secretPart ∧
      Outstanding history view.tenantId created
  outstanding : ∀ tenantId created, Outstanding history tenantId created →
    ∃ secretPart, keys created.keyId =
        some ⟨tenantId, hashApiKeySecret settings secretPart, none⟩ ∧
      created.apiKey = fullKey created.keyId secretPart ∧ Proper created.keyId secretPart
  revoked : ∀ e ∈ history, ∀ tenantId keyId, Revokes tenantId keyId e →
    ∃ view, keys keyId = some view ∧ view.revokedAt ≠ none
  returned : ∀ e ∈ history, ∀ tenantId created, Returns tenantId created e →
    ∃ secretPart, created.apiKey = fullKey created.keyId secretPart ∧ Proper created.keyId secretPart

variable {settings : AccountSettings} {history : List Record} {keys : String → Option KeyView}
  {e : Record}

theorem keysAgree_start : KeysAgree settings [] (keyView .empty) where
  stored _ _ found := by cases found
  outstanding tenantId created := by
    rintro ⟨earlier, e, later, split, _⟩
    simp at split
  revoked _ mem := by cases mem
  returned _ mem := by cases mem

theorem Returns.outcome {tenantId : Uuid} {created : ApiKeyCreated} (h : Returns tenantId created e) :
    e.2 = .keyCreated created := by
  obtain ⟨_, _, _, rfl⟩ := h
  rfl

theorem Revokes.outcome {tenantId : Uuid} {keyId : String} (h : Revokes tenantId keyId e) :
    e.2 = .keyRevoked := by
  obtain ⟨_, _, rfl⟩ := h
  rfl

theorem KeysAgree.quiet (h : KeysAgree settings history keys)
    (silent : ∀ created, e.2 ≠ .keyCreated created) (harmless : e.2 ≠ .keyRevoked) :
    KeysAgree settings (history ++ [e]) keys where
  stored keyId view found unrevoked := by
    obtain ⟨created, secretPart, named, full, hashed, out⟩ := h.stored keyId view found unrevoked
    exact ⟨created, secretPart, named, full, hashed,
      outstanding_snoc.mpr (.inl ⟨out, fun revokes => harmless revokes.outcome⟩)⟩
  outstanding tenantId created out := by
    rcases outstanding_snoc.mp out with ⟨out, _⟩ | returns
    · exact h.outstanding tenantId created out
    · exact absurd returns.outcome (silent created)
  revoked e' mem tenantId keyId revokes := by
    rcases List.mem_append.mp mem with old | new
    · exact h.revoked e' old tenantId keyId revokes
    · rw [List.mem_singleton.mp new] at revokes
      exact absurd revokes.outcome harmless
  returned e' mem tenantId created returns := by
    rcases List.mem_append.mp mem with old | new
    · exact h.returned e' old tenantId created returns
    · rw [List.mem_singleton.mp new] at returns
      exact absurd returns.outcome (silent created)

theorem returns_inj {tenantId tenantId' : Uuid} {created created' : ApiKeyCreated}
    (h : Returns tenantId created e) (h' : Returns tenantId' created' e) :
    tenantId = tenantId' ∧ created = created' := by
  obtain ⟨_, _, _, rfl⟩ := h
  obtain ⟨_, _, _, same⟩ := h'
  cases same
  exact ⟨rfl, rfl⟩

theorem returns_not_revokes {tenantId tenantId' : Uuid} {created : ApiKeyCreated} {keyId : String}
    (h : Returns tenantId created e) : ¬ Revokes tenantId' keyId e := by
  intro revokes
  cases h.outcome.symm.trans revokes.outcome

theorem KeysAgree.create {tenantId : Uuid} {created : ApiKeyCreated} {secretPart : String}
    (h : KeysAgree settings history keys) (returns : Returns tenantId created e)
    (full : created.apiKey = fullKey created.keyId secretPart)
    (proper : Proper created.keyId secretPart) (fresh : keys created.keyId = none) :
    KeysAgree settings (history ++ [e]) (Function.update keys created.keyId
      (some ⟨tenantId, hashApiKeySecret settings secretPart, none⟩)) where
  stored keyId view found unrevoked := by
    by_cases same : keyId = created.keyId
    · subst same
      rw [Function.update_self] at found
      cases found
      exact ⟨created, secretPart, rfl, full, rfl, outstanding_snoc.mpr (.inr returns)⟩
    · rw [Function.update_of_ne same] at found
      obtain ⟨other, secret, named, full', hashed, out⟩ := h.stored keyId view found unrevoked
      exact ⟨other, secret, named, full', hashed,
        outstanding_snoc.mpr (.inl ⟨out, returns_not_revokes returns⟩)⟩
  outstanding tenantId' other out := by
    rcases outstanding_snoc.mp out with ⟨out, _⟩ | returns'
    · obtain ⟨secret, there, full', proper'⟩ := h.outstanding tenantId' other out
      have apart : other.keyId ≠ created.keyId := by
        intro same
        rw [same, fresh] at there
        cases there
      exact ⟨secret, by rw [Function.update_of_ne apart, there], full', proper'⟩
    · obtain ⟨rfl, rfl⟩ := returns_inj returns returns'
      exact ⟨secretPart, Function.update_self _ _ _, full, proper⟩
  revoked e' mem tenantId' keyId revokes := by
    rcases List.mem_append.mp mem with old | new
    · obtain ⟨view, there, revoked⟩ := h.revoked e' old tenantId' keyId revokes
      have apart : keyId ≠ created.keyId := by
        rintro rfl
        rw [fresh] at there
        cases there
      exact ⟨view, by rw [Function.update_of_ne apart, there], revoked⟩
    · rw [List.mem_singleton.mp new] at revokes
      exact absurd revokes (returns_not_revokes returns)
  returned e' mem tenantId' other returns' := by
    rcases List.mem_append.mp mem with old | new
    · exact h.returned e' old tenantId' other returns'
    · rw [List.mem_singleton.mp new] at returns'
      obtain ⟨_, rfl⟩ := returns_inj returns returns'
      exact ⟨secretPart, full, proper⟩

theorem revokes_inj {tenantId tenantId' : Uuid} {keyId keyId' : String}
    (h : Revokes tenantId keyId e) (h' : Revokes tenantId' keyId' e) :
    tenantId = tenantId' ∧ keyId = keyId' := by
  obtain ⟨_, _, rfl⟩ := h
  obtain ⟨_, _, same⟩ := h'
  cases same
  exact ⟨rfl, rfl⟩

theorem KeysAgree.revoke {tenantId : Uuid} {keyId : String} {view view' : KeyView}
    (h : KeysAgree settings history keys) (revokes : Revokes tenantId keyId e)
    (there : keys keyId = some view) (owned : view.tenantId = tenantId)
    (revoked : view'.revokedAt ≠ none) :
    KeysAgree settings (history ++ [e]) (Function.update keys keyId (some view')) where
  stored other found view unrevoked := by
    by_cases same : other = keyId
    · subst same
      rw [Function.update_self] at view
      cases view
      exact absurd unrevoked revoked
    · rw [Function.update_of_ne same] at view
      obtain ⟨created, secretPart, rfl, full, hashed, out⟩ := h.stored other found view unrevoked
      refine ⟨created, secretPart, rfl, full, hashed, outstanding_snoc.mpr (.inl ⟨out, ?_⟩)⟩
      intro revokes'
      exact same (revokes_inj revokes' revokes).2
  outstanding tenantId' created out := by
    rcases outstanding_snoc.mp out with ⟨out, unrevoked⟩ | returns
    · obtain ⟨secretPart, stored, full, proper⟩ := h.outstanding tenantId' created out
      have apart : created.keyId ≠ keyId := by
        rintro rfl
        rw [stored] at there
        cases there
        have same : tenantId' = tenantId := owned
        subst same
        exact unrevoked revokes
      exact ⟨secretPart, by rw [Function.update_of_ne apart, stored], full, proper⟩
    · exact absurd revokes (returns_not_revokes returns)
  revoked e' mem tenantId' other revokes' := by
    by_cases same : other = keyId
    · subst same
      exact ⟨view', Function.update_self _ _ _, revoked⟩
    · rcases List.mem_append.mp mem with old | new
      · obtain ⟨found, stored, gone⟩ := h.revoked e' old tenantId' other revokes'
        exact ⟨found, by rw [Function.update_of_ne same, stored], gone⟩
      · rw [List.mem_singleton.mp new] at revokes'
        exact absurd (revokes_inj revokes' revokes).2 same
  returned e' mem tenantId' created returns := by
    rcases List.mem_append.mp mem with old | new
    · exact h.returned e' old tenantId' created returns
    · rw [List.mem_singleton.mp new] at returns
      exact absurd revokes (returns_not_revokes returns)

end Keys

section Operations
variable {settings : AccountSettings} {history : List Record} {db db' : Database} {call : OpCall}
  {outcome : Outcome}

structure LogAgrees (settings : AccountSettings) (history : List Record) (db : Database) : Prop where
  keys : KeysAgree settings history (keyView db)
  active : ∀ tenantId, isActive db tenantId = history.foldl (activeAfter tenantId) false

theorem LogAgrees.active_snoc {e : Record} (h : LogAgrees settings history db) {tenantId : Uuid} :
    (history ++ [e]).foldl (activeAfter tenantId) false =
      activeAfter tenantId (isActive db tenantId) e := by
  rw [List.foldl_append, List.foldl_cons, List.foldl_nil, ← h.active]

theorem LogAgrees.unchanged {e : Record} (h : LogAgrees settings history db)
    (keys : keyView db' = keyView db) (active : isActive db' = isActive db)
    (silent : ∀ created, e.2 ≠ .keyCreated created) (harmless : e.2 ≠ .keyRevoked)
    (steady : ∀ tenantId before, activeAfter tenantId before e = before) :
    LogAgrees settings (history ++ [e]) db' where
  keys := by
    rw [keys]
    exact h.keys.quiet silent harmless
  active tenantId := by
    rw [active, h.active_snoc, steady]

theorem sameAccounts_views (h : SameAccounts db db') :
    keyView db' = keyView db ∧ isActive db' = isActive db := by
  obtain ⟨tenants, apiKeys⟩ := h
  exact ⟨keyView_congr apiKeys, isActive_congr tenants⟩

theorem LogAgrees.raised {exc : Exn} (h : LogAgrees settings history db) (same : SameAccounts db db') :
    LogAgrees settings (history ++ [(call, .raised exc)]) db' := by
  obtain ⟨keys, active⟩ := sameAccounts_views same
  refine h.unchanged keys active (by simp) (by simp) ?_
  intro tenantId before
  obtain ⟨op, drawn⟩ := call
  cases op <;> rfl

theorem agrees_start : LogAgrees settings [] .empty where
  keys := keysAgree_start
  active _ := rfl

theorem concluded_cases {α : Type} {f : α → Outcome} {ended : Except Exn α × Database}
    (h : concluded f ended = (outcome, db')) :
    (∃ exc, ended = (.error exc, db') ∧ outcome = .raised exc) ∨
      ∃ a, ended = (.ok a, db') ∧ outcome = f a := by
  obtain ⟨result, db⟩ := ended
  cases result with
  | error exc =>
    cases h
    exact .inl ⟨exc, rfl, rfl⟩
  | ok a =>
    cases h
    exact .inr ⟨a, rfl, rfl⟩

theorem createTenant_agrees {request : AdminRequest} {payload : TenantCreateRequest} {drawn : Drawn}
    (h : LogAgrees settings history db)
    (performed : perform settings ⟨.createTenant request payload, drawn⟩ db = (outcome, db')) :
    LogAgrees settings (history ++ [(⟨.createTenant request payload, drawn⟩, outcome)]) db' := by
  rcases concluded_cases performed with ⟨exc, ended, rfl⟩ | ⟨id, ended, rfl⟩
  · rcases createTenant_cases ended with ⟨_, _, rfl⟩ | ⟨_, ok, _⟩
    · exact h.raised (.refl _)
    · cases ok
  · rcases createTenant_cases ended with ⟨_, raised, _⟩ | ⟨row, ok, active, tenants, apiKeys⟩
    · cases raised
    cases ok
    refine ⟨?_, fun tenantId => ?_⟩
    · rw [keyView_congr apiKeys]
      exact h.keys.quiet (by simp) (by simp)
    · rw [isActive_insert tenants, h.active_snoc]
      by_cases same : tenantId = drawn.uuid
      · subst same
        simp [activeAfter, active]
      · simp [activeAfter, same, Ne.symm same]

theorem updateTenant_agrees {request : AdminRequest} {tenantId : Uuid} {payload : TenantUpdateRequest}
    {drawn : Drawn} (h : LogAgrees settings history db)
    (performed : perform settings ⟨.updateTenant request tenantId payload, drawn⟩ db = (outcome, db')) :
    LogAgrees settings (history ++ [(⟨.updateTenant request tenantId payload, drawn⟩, outcome)]) db' := by
  rcases concluded_cases performed with ⟨exc, ended, rfl⟩ | ⟨_, ended, rfl⟩
  · rcases updateTenant_cases ended with ⟨_, _, rfl⟩ | ⟨_, _, ok, _⟩
    · exact h.raised (.refl _)
    · cases ok
  · rcases updateTenant_cases ended with ⟨_, raised, _⟩ | ⟨tenant, row, _, found, active, tenants, apiKeys⟩
    · cases raised
    have before : tenant.isActive = isActive db tenantId := by
      rw [isActive, found]
      rfl
    refine ⟨?_, fun other => ?_⟩
    · rw [keyView_congr apiKeys]
      exact h.keys.quiet (by simp) (by simp)
    · rw [isActive_insert tenants, h.active_snoc]
      by_cases same : other = tenantId
      · subst same
        simp [activeAfter, active, before]
      · simp [activeAfter, same, Ne.symm same]

theorem proper_of_drawn {keyId secretPart : String}
    (named : keyId ≠ "") (hex : ∀ c ∈ keyId.toList, isHexChar c = true) (secret : secretPart ≠ "") :
    Proper keyId secretPart where
  named := named
  undotted dot := absurd (hex '.' dot) (by decide)
  secret := secret

theorem createApiKey_agrees {request : AdminRequest} {tenantId : Uuid} {name : String}
    {drawn : Drawn} (h : LogAgrees settings history db)
    (drew : WellDrawn (⟨.createApiKey request tenantId name, drawn⟩, outcome))
    (performed : perform settings ⟨.createApiKey request tenantId name, drawn⟩ db = (outcome, db')) :
    LogAgrees settings (history ++ [(⟨.createApiKey request tenantId name, drawn⟩, outcome)]) db' := by
  rcases concluded_cases performed with ⟨exc, ended, rfl⟩ | ⟨created, ended, rfl⟩
  · rcases createApiKey_cases ended with ⟨_, _, rfl⟩ | ⟨ok, _⟩
    · exact h.raised (.refl _)
    · cases ok
  · rcases createApiKey_cases ended with ⟨_, raised, _⟩ | ⟨ok, fresh, tenants, apiKeys⟩
    · cases raised
    cases ok
    obtain ⟨⟨named, hex⟩, secret, _⟩ := drew
    have absent : keyView db drawn.keyId = none := by
      rw [keyView, fresh]
      rfl
    refine ⟨?_, fun other => ?_⟩
    · rw [keyView_insert apiKeys]
      exact h.keys.create ⟨request, name, drawn, rfl⟩ rfl (proper_of_drawn named hex secret) absent
    · rw [isActive_congr tenants, h.active_snoc]
      rfl

theorem revokeApiKey_agrees {request : AdminRequest} {tenantId : Uuid} {keyId : String}
    {drawn : Drawn} (h : LogAgrees settings history db)
    (performed : perform settings ⟨.revokeApiKey request tenantId keyId, drawn⟩ db = (outcome, db')) :
    LogAgrees settings (history ++ [(⟨.revokeApiKey request tenantId keyId, drawn⟩, outcome)]) db' := by
  rcases concluded_cases performed with ⟨exc, ended, rfl⟩ | ⟨_, ended, rfl⟩
  · rcases revokeApiKey_cases ended with ⟨_, _, rfl⟩ | ⟨_, ok, _⟩
    · exact h.raised (.refl _)
    · cases ok
  · rcases revokeApiKey_cases ended with ⟨_, raised, _⟩ | ⟨row, _, stored, owned, tenants, revoked⟩
    · cases raised
    have there := keyView_stored stored
    have revokes : Revokes tenantId keyId (⟨.revokeApiKey request tenantId keyId, drawn⟩, .keyRevoked) :=
      ⟨request, drawn, rfl⟩
    refine ⟨?_, fun other => ?_⟩
    · rcases revoked with ⟨gone, apiKeys⟩ | apiKeys
      · have keys : keyView db' =
            Function.update (keyView db) keyId (some ⟨row.tenantId, row.hashedSecret, row.revokedAt⟩) := by
          rw [← there, Function.update_eq_self]
          exact keyView_congr apiKeys
        rw [keys]
        exact h.keys.revoke revokes there owned (by simpa [Option.isSome_iff_ne_none] using gone)
      · rw [keyView_insert apiKeys]
        exact h.keys.revoke revokes there owned (by simp)
    · rw [isActive_congr tenants, h.active_snoc]
      rfl

theorem authenticate_views {request : AuthRequest} {drawn : Drawn} {r : Except Exn TenantContext}
    (ended : transact drawn (getCurrentTenant settings request) db = (r, db')) :
    keyView db' = keyView db ∧ isActive db' = isActive db := by
  rcases getCurrentTenant_cases ended with ⟨_, same, _⟩ | ⟨keyId, secretPart, _, _, decided⟩
  · exact sameAccounts_views same
  rcases decided with ⟨_, same, _⟩ | ⟨row, tenant, admits, _, rfl⟩
  · exact sameAccounts_views same
  · refine ⟨?_, rfl⟩
    have inserted : (db.touched keyId row drawn.now).apiKeys =
        db.apiKeys.insert keyId { row with lastUsedAt := some drawn.now } := rfl
    rw [keyView_insert inserted]
    exact (congrArg _ (keyView_stored admits.stored).symm).trans (Function.update_eq_self _ _)

theorem authenticate_agrees {request : AuthRequest} {drawn : Drawn} (h : LogAgrees settings history db)
    (performed : perform settings ⟨.authenticate request, drawn⟩ db = (outcome, db')) :
    LogAgrees settings (history ++ [(⟨.authenticate request, drawn⟩, outcome)]) db' := by
  rcases concluded_cases performed with ⟨exc, ended, rfl⟩ | ⟨context, ended, rfl⟩
  all_goals
    obtain ⟨keys, active⟩ := authenticate_views ended
    exact h.unchanged keys active (by simp) (by simp) fun _ _ => rfl

theorem lifecycle_agrees (h : Lifecycle settings history db) (drew : ∀ e ∈ history, WellDrawn e) :
    LogAgrees settings history db := by
  induction h with
  | start => exact agrees_start
  | @next history db db' call outcome before performed ih =>
    have agrees := ih fun e mem => drew e (List.mem_append_left _ mem)
    obtain ⟨op, drawn⟩ := call
    cases op with
    | createTenant request payload => exact createTenant_agrees agrees performed
    | updateTenant request tenantId payload => exact updateTenant_agrees agrees performed
    | createApiKey request tenantId name =>
      exact createApiKey_agrees agrees (drew _ (by simp)) performed
    | revokeApiKey request tenantId keyId => exact revokeApiKey_agrees agrees performed
    | authenticate request => exact authenticate_agrees agrees performed

end Operations

section Authentication
variable {settings : AccountSettings} {history : List Record} {db : Database} {request : AuthRequest}
  {drawn : Drawn}

abbrev authenticated (settings : AccountSettings) (request : AuthRequest) (drawn : Drawn)
    (db : Database) : Except Exn TenantContext := (transact drawn (getCurrentTenant settings request) db).1

theorem outstanding_of_accepted (agrees : LogAgrees settings history db)
    (injective : Function.Injective (hashApiKeySecret settings)) {context : TenantContext}
    (accepted : authenticated settings request drawn db = .ok context) :
    ∃ created, Carries request.header created.apiKey ∧ Outstanding history context.tenantId created ∧
      Active history context.tenantId := by
  have ended : transact drawn (getCurrentTenant settings request) db = (.ok context, _) :=
    Prod.ext accepted rfl
  rcases getCurrentTenant_cases ended with ⟨⟨_, raised⟩, _⟩ | ⟨keyId, secretPart, bearer, parsed, decided⟩
  · cases raised
  rcases decided with ⟨⟨_, raised⟩, _⟩ | ⟨row, tenant, admits, ok, _⟩
  · cases raised
  cases ok
  obtain ⟨created, secret, rfl, full, hashed, out⟩ :=
    agrees.keys.stored keyId _ (keyView_stored admits.stored) admits.unrevoked
  have same : secretPart = secret := injective (admits.verified.trans hashed)
  subst same
  refine ⟨created, ?_, out, ?_⟩
  · rw [full, ← eq_fullKey_of_parse parsed]
    exact carries_of_hasBearer bearer
  · change history.foldl (activeAfter row.tenantId) false = true
    rw [← agrees.active, isActive, admits.owner]
    exact admits.active

theorem accepted_of_outstanding (agrees : LogAgrees settings history db) {tenantId : Uuid}
    {created : ApiKeyCreated} (carries : Carries request.header created.apiKey)
    (out : Outstanding history tenantId created) (active : Active history tenantId) :
    ∃ context, authenticated settings request drawn db = .ok context ∧ context.tenantId = tenantId := by
  obtain ⟨secretPart, stored, full, proper⟩ := agrees.keys.outstanding tenantId created out
  obtain ⟨bearer, presented⟩ := hasBearer_of_carries carries
  have parsed : parseApiKey (presentedKey request.header) = some (created.keyId, secretPart) := by
    rw [presented, full]
    exact parse_fullKey proper.named proper.undotted proper.secret
  obtain ⟨row, found, view⟩ := Option.map_eq_some_iff.mp stored
  obtain ⟨rfl, hashed, unrevoked⟩ := KeyView.mk.inj view
  have active' : isActive db row.tenantId = true := (agrees.active _).trans active
  rw [isActive] at active'
  cases owner : db.tenants.lookup row.tenantId with
  | none =>
    rw [owner] at active'
    cases active'
  | some tenant =>
    rw [owner] at active'
    have admits : Admits settings db created.keyId secretPart row tenant :=
      ⟨found, unrevoked, hashed.symm, owner, active'⟩
    rcases getCurrentTenant_cases (Prod.ext rfl rfl :
      transact drawn (getCurrentTenant settings request) db = (_, _)) with
      ⟨_, _, unparsed⟩ | ⟨keyId, secret, _, parsed', decided⟩
    · exact absurd ⟨_, bearer, parsed⟩ unparsed
    rw [parsed] at parsed'
    cases parsed'
    rcases decided with ⟨_, _, never⟩ | ⟨row', tenant', admits', ok, _⟩
    · exact absurd admits (never row tenant)
    · refine ⟨_, ok, ?_⟩
      rw [admits'.row_eq found]
      rfl

theorem carries_unique {header : List Char} {token token' : String} (h : Carries header token)
    (h' : Carries header token') : token = token' :=
  (hasBearer_of_carries h).2.symm.trans (hasBearer_of_carries h').2

/-- A key is let in for a tenant exactly if it is in the header, was returned for the tenant and
not revoked since, and the tenant is active. Once revoked, a key is never let in again. -/
theorem keys_accepted_iff_outstanding (settings : AccountSettings)
    (injective : Function.Injective (hashApiKeySecret settings)) (history : List Record)
    (db : Database) (run : Lifecycle settings history db) (drew : ∀ e ∈ history, WellDrawn e)
    (request : AuthRequest) (drawn : Drawn) :
    (∀ tenantId, (∃ context, authenticated settings request drawn db = .ok context ∧
        context.tenantId = tenantId) ↔
      ∃ created, Carries request.header created.apiKey ∧ Outstanding history tenantId created ∧
        Active history tenantId) ∧
    ∀ tenantId created, (∃ e ∈ history, Returns tenantId created e) →
      (∃ e ∈ history, Revokes tenantId created.keyId e) → Carries request.header created.apiKey →
      ∃ exc, authenticated settings request drawn db = .error exc := by
  have agrees := lifecycle_agrees run drew
  constructor
  · intro tenantId
    constructor
    · rintro ⟨context, accepted, rfl⟩
      exact outstanding_of_accepted agrees injective accepted
    · rintro ⟨created, carries, out, active⟩
      exact accepted_of_outstanding agrees carries out active
  · rintro tenantId created ⟨e, mem, returns⟩ ⟨e', mem', revokes⟩ carries
    cases outcome : authenticated settings request drawn db with
    | error exc => exact ⟨exc, rfl⟩
    | ok context =>
      obtain ⟨other, carries', out, _⟩ := outstanding_of_accepted agrees injective outcome
      obtain ⟨secret, full, proper⟩ := agrees.keys.returned e mem tenantId created returns
      obtain ⟨secret', stored, full', proper'⟩ := agrees.keys.outstanding _ other out
      obtain ⟨view, there, revoked⟩ := agrees.keys.revoked e' mem' tenantId _ revokes
      have parts : some (created.keyId, secret) = some (other.keyId, secret') := by
        rw [← parse_fullKey proper.named proper.undotted proper.secret, ← full,
          carries_unique carries carries', full',
          parse_fullKey proper'.named proper'.undotted proper'.secret]
      have sameId : created.keyId = other.keyId := (Prod.mk.inj (Option.some.inj parts)).1
      rw [sameId, stored] at there
      cases there
      exact absurd rfl revoked

end Authentication

section FirstKey

def firstSecret : String := "AAECAwQFBgcICQoLDA0ODxAREhMUFRYX"

def firstDigest : String := "4e28fc9f811717271e45ef6d182ae912769adf2cb3173ec538f8b80c99c9e94f"

def firstDrawn : Drawn := ⟨BudgetScan.noon, helloTenantId, "0001020304050607", firstSecret⟩

/-- An injective hash with the HMAC digest of the first secret. -/
def firstSettings : AccountSettings where
  apiKeyPepper := "changeme-generate-a-real-32-byte-hex-secret"
  hmacHex _ secret := if secret = firstSecret then firstDigest else "x" ++ secret
  floatRepr _ := "0.75"

theorem firstSettings_injective : Function.Injective (hashApiKeySecret firstSettings) := by
  have apart (s : String) : "x" ++ s ≠ firstDigest := by
    intro same
    have chars := congrArg String.toList same
    simp [firstDigest] at chars
  intro a b same
  simp only [hashApiKeySecret, firstSettings] at same
  split at same <;> split at same
  · simp_all
  · exact absurd same.symm (apart _)
  · exact absurd same (apart _)
  · simpa using same

def firstTenant : OpCall := ⟨.createTenant ⟨"admin", some "c"⟩ { name := "acme" }, firstDrawn⟩

def firstKey : OpCall := ⟨.createApiKey ⟨"admin", some "c"⟩ helloTenantId "production", firstDrawn⟩

def firstCreated : ApiKeyCreated :=
  ⟨"0001020304050607", "production", fullKey "0001020304050607" firstSecret⟩

def Outcome.succeeded : Outcome → Bool
  | .raised _ => false
  | _ => true

theorem firstTenant_created :
    ∃ db, perform firstSettings firstTenant .empty = (.tenantCreated helloTenantId, db) := by
  have succeeded : (perform firstSettings firstTenant .empty).1.succeeded = true := by
    decide +kernel
  cases performed : perform firstSettings firstTenant .empty with
  | mk outcome db =>
    rcases concluded_cases performed with ⟨exc, _, rfl⟩ | ⟨id, ended, rfl⟩
    · rw [performed] at succeeded
      cases succeeded
    · rcases createTenant_cases ended with ⟨_, raised, _⟩ | ⟨_, ok, _⟩
      · cases raised
      · cases ok
        exact ⟨db, rfl⟩

theorem firstKey_created :
    ∃ db, perform firstSettings firstKey (perform firstSettings firstTenant .empty).2 =
      (.keyCreated firstCreated, db) := by
  have succeeded : (perform firstSettings firstKey
      (perform firstSettings firstTenant .empty).2).1.succeeded = true := by decide +kernel
  cases performed : perform firstSettings firstKey (perform firstSettings firstTenant .empty).2 with
  | mk outcome db =>
    rcases concluded_cases performed with ⟨exc, _, rfl⟩ | ⟨id, ended, rfl⟩
    · rw [performed] at succeeded
      cases succeeded
    · rcases createApiKey_cases ended with ⟨_, raised, _⟩ | ⟨ok, _⟩
      · cases raised
      · cases ok
        exact ⟨db, rfl⟩

theorem firstHeader_latin1 :
    ∀ c ∈ "Bearer".toList ++ ' ' :: firstCreated.apiKey.toList, 0 < c.toNat ∧ c.toNat < 256 := by
  have checked : ("Bearer".toList ++ ' ' :: firstCreated.apiKey.toList).all
      (fun c => decide (0 < c.toNat ∧ c.toNat < 256)) = true := by
    decide
  intro c mem
  exact of_decide_eq_true (List.all_eq_true.mp checked c mem)

def firstHeader : HeaderValue :=
  ⟨"Bearer".toList ++ ' ' :: firstCreated.apiKey.toList, firstHeader_latin1⟩

theorem keys_accepted_iff_outstanding_first_key :
    ∃ history db, Lifecycle firstSettings history db ∧
      ∃ context, authenticated firstSettings ⟨some firstHeader, some "c"⟩ firstDrawn db = .ok context ∧
        context.tenantId = helloTenantId := by
  obtain ⟨db₁, made⟩ := firstTenant_created
  obtain ⟨db₂, created⟩ := firstKey_created
  rw [made] at created
  have run : Lifecycle firstSettings
      [(firstTenant, .tenantCreated helloTenantId), (firstKey, .keyCreated firstCreated)] db₂ :=
    .next (.next .start made) created
  have drew : ∀ e ∈ [(firstTenant, Outcome.tenantCreated helloTenantId),
      (firstKey, .keyCreated firstCreated)], WellDrawn e := by
    intro e mem
    rcases List.mem_cons.mp mem with rfl | mem
    · trivial
    · rw [List.mem_singleton.mp mem]
      have hex : "0001020304050607".toList.all isHexChar = true := by decide
      have urlSafe : firstSecret.toList.all isUrlSafe = true := by decide
      exact ⟨⟨by decide, List.all_eq_true.mp hex⟩, by decide, List.all_eq_true.mp urlSafe⟩
  have carries : Carries (AuthRequest.header ⟨some firstHeader, some "c"⟩) firstCreated.apiKey :=
    ⟨"Bearer".toList, firstCreated.apiKey.toList, rfl, by decide, by decide⟩
  refine ⟨_, db₂, run, ?_⟩
  refine ((keys_accepted_iff_outstanding firstSettings firstSettings_injective _ db₂ run drew
    ⟨some firstHeader, some "c"⟩ firstDrawn).1 helloTenantId).mpr ⟨firstCreated, carries, ?_, ?_⟩
  · exact ⟨[_], _, [], rfl, ⟨_, _, _, rfl⟩, by simp⟩
  · rfl

end FirstKey
end AegisGateway.KeyLifecycle
