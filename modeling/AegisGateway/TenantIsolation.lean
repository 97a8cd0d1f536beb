import AegisGateway.RequestCalls

set_option autoImplicit false

/-!
# Tenants in one Redis

Every key is a label of its family, the tenant's id and a rest that the tenant may
choose. The labels are prefix-free and the ids are all of one length, so a key shows
whose it is, whatever the rest. A request sends commands on its tenant's keys only.
-/
namespace AegisGateway.TenantIsolation
open EffectProgram TransitionRuns ProgramPool CellStore RedisCommands RequestCalls
open BudgetScan (Threshold markerKey)

section Keys

inductive KeyFamily where
  | rpm
  | tpm
  | budget
  | concurrency
  | lock
  | response
  | completion
  | budgetAlert
  deriving DecidableEq, Repr

/-- The keys a tenant has in Redis, by what they are built from. -/
inductive RedisKey where
  | rpm
  | tpm
  | budget (yearMonth : String)
  | concurrency
  | lock (idempotencyKey : String)
  | response (idempotencyKey : String)
  | completion (body : ChatCompletionRequest)
  | budgetAlert (monthKey : String) (threshold : Threshold)

def RedisKey.family : RedisKey → KeyFamily
  | .rpm => .rpm
  | .tpm => .tpm
  | .budget _ => .budget
  | .concurrency => .concurrency
  | .lock _ => .lock
  | .response _ => .response
  | .completion _ => .completion
  | .budgetAlert _ _ => .budgetAlert

variable (lib : Libraries)

def RedisKey.text (tenantId : Uuid) : RedisKey → String
  | .rpm => rpmBucketKey tenantId
  | .tpm => tpmBucketKey tenantId
  | .budget yearMonth => budgetKey tenantId yearMonth
  | .concurrency => concurrencyKey tenantId
  | .lock idempotencyKey => lockKey tenantId idempotencyKey
  | .response idempotencyKey => responseKey tenantId idempotencyKey
  | .completion body => computeCacheKey lib tenantId body
  | .budgetAlert monthKey threshold => markerKey tenantId monthKey threshold

def KeyFamily.label : KeyFamily → String
  | .rpm => "ratelimit:rpm:"
  | .tpm => "ratelimit:tpm:"
  | .budget => "budget:"
  | .concurrency => "concurrency:"
  | .lock | .response => "idempotency:"
  | .completion => "cache:completion:"
  | .budgetAlert => "budget_alert:"

def RedisKey.rest : RedisKey → String
  | .rpm | .tpm | .concurrency => ""
  | .budget yearMonth => ":" ++ yearMonth
  | .lock idempotencyKey => ":" ++ idempotencyKey ++ ":lock"
  | .response idempotencyKey => ":" ++ idempotencyKey ++ ":response"
  | .completion body =>
    ":" ++ lib.sha256Hex (Json.dumps Json.canonicalDump (.obj body.modelDumpWithoutStream))
  | .budgetAlert monthKey threshold => ":" ++ monthKey ++ ":" ++ threshold.str

theorem RedisKey.text_eq (tenantId : Uuid) (key : RedisKey) :
    key.text lib tenantId = key.family.label ++ (tenantId.text ++ key.rest lib) := by
  cases key with
  | rpm | tpm | concurrency => exact congrArg (_ ++ ·) String.append_empty.symm
  | budget yearMonth =>
    change "budget:" ++ tenantId.text ++ ":" ++ yearMonth = _ ++ (_ ++ (":" ++ yearMonth))
    simp only [String.append_assoc]
    rfl
  | lock key =>
    change "idempotency:" ++ tenantId.text ++ ":" ++ key ++ ":lock" = _ ++ (_ ++ (":" ++ key ++ _))
    simp only [String.append_assoc]
    rfl
  | response key =>
    change "idempotency:" ++ tenantId.text ++ ":" ++ key ++ ":response" =
      _ ++ (_ ++ (":" ++ key ++ _))
    simp only [String.append_assoc]
    rfl
  | completion body =>
    change "cache:completion:" ++ tenantId.text ++ ":" ++ _ = _ ++ (_ ++ (":" ++ _))
    simp only [String.append_assoc]
    rfl
  | budgetAlert monthKey threshold =>
    change "budget_alert:" ++ tenantId.text ++ ":" ++ monthKey ++ ":" ++ threshold.str =
      _ ++ (_ ++ (":" ++ monthKey ++ ":" ++ threshold.str))
    simp only [String.append_assoc]
    rfl

theorem label_prefix_free (f g : KeyFamily) (h : f.label.toList <+: g.label.toList) :
    f.label = g.label := by
  revert h
  cases f <;> cases g <;> decide

variable {lib}

theorem text_parts {a b : Uuid} {k k' : RedisKey} (h : k.text lib a = k'.text lib b) :
    k.family.label = k'.family.label ∧ a = b ∧ k.rest lib = k'.rest lib := by
  rw [RedisKey.text_eq, RedisKey.text_eq, ← String.toList_inj] at h
  simp only [String.toList_append] at h
  have labels : k.family.label = k'.family.label := by
    have first : k.family.label.toList <+: k'.family.label.toList ++ (b.text.toList ++ (k'.rest lib).toList) :=
      ⟨_, h⟩
    rcases List.prefix_or_prefix_of_prefix first (List.prefix_append _ _) with short | long
    · exact label_prefix_free _ _ short
    · exact (label_prefix_free _ _ long).symm
  rw [labels, List.append_cancel_left_eq] at h
  have sizes : a.text.toList.length = b.text.toList.length := by
    rw [String.length_toList, String.length_toList, a.length, b.length]
  obtain ⟨ids, rests⟩ := List.append_inj h sizes
  refine ⟨labels, ?_, String.toList_inj.mp rests⟩
  cases a
  cases b
  cases String.toList_inj.mp ids
  rfl

theorem keys_of_tenants_differ {a b : Uuid} (apart : a ≠ b) (k k' : RedisKey) :
    k.text lib a ≠ k'.text lib b := by
  intro same
  exact apart (text_parts same).2.1

theorem lock_ne_response (tenantId : Uuid) (key key' : String) :
    lockKey tenantId key ≠ responseKey tenantId key' := by
  intro same
  have last : ("idempotency:" ++ tenantId.text ++ ":" ++ key ++ ":lock").toList.getLast? =
      ("idempotency:" ++ tenantId.text ++ ":" ++ key' ++ ":response").toList.getLast? :=
    congrArg (fun s => s.toList.getLast?) same
  simp only [String.toList_append, List.getLast?_append] at last
  simp at last

theorem family_of_label {f g : KeyFamily} (h : f.label = g.label) :
    f = g ∨ f = .lock ∧ g = .response ∨ f = .response ∧ g = .lock := by
  revert h
  cases f <;> cases g <;> decide

theorem RedisKey.eq_lock {k : RedisKey} (h : k.family = .lock) : ∃ key, k = .lock key := by
  cases k with
  | lock key => exact ⟨key, rfl⟩
  | _ => cases h

theorem RedisKey.eq_response {k : RedisKey} (h : k.family = .response) : ∃ key, k = .response key := by
  cases k with
  | response key => exact ⟨key, rfl⟩
  | _ => cases h

theorem families_differ {tenantId : Uuid} {k k' : RedisKey}
    (h : k.text lib tenantId = k'.text lib tenantId) : k.family = k'.family := by
  rcases family_of_label (text_parts h).1 with same | ⟨lock, response⟩ | ⟨response, lock⟩
  · exact same
  · obtain ⟨key, rfl⟩ := RedisKey.eq_lock lock
    obtain ⟨key', rfl⟩ := RedisKey.eq_response response
    exact absurd h (lock_ne_response tenantId key key')
  · obtain ⟨key, rfl⟩ := RedisKey.eq_response response
    obtain ⟨key', rfl⟩ := RedisKey.eq_lock lock
    exact absurd h.symm (lock_ne_response tenantId key' key)

theorem lockKey_inj {tenantId : Uuid} {key key' : String}
    (h : lockKey tenantId key = lockKey tenantId key') : key = key' := by
  delta lockKey at h
  simpa using h

theorem responseKey_inj {tenantId : Uuid} {key key' : String}
    (h : responseKey tenantId key = responseKey tenantId key') : key = key' := by
  delta responseKey at h
  simpa using h

end Keys

section Programs
variable (lib : Libraries) (tenantId : Uuid)

def OwnKey (key : String) : Prop := ∃ k : RedisKey, key = k.text lib tenantId

/-- The calls that concern this tenant in Redis, if they concern Redis. -/
def Own : GatewayOp → Prop
  | .getCachedResponse t _ | .tryAcquireLock t _ | .releaseLock t _ | .storeResponse t _ _
  | .acquireConcurrencySlot t _ | .releaseConcurrencySlot t => t = tenantId
  | .checkTokenBucket key _ _ _ | .checkAndReserveBudget key _ _ | .getCachedCompletion key
  | .storeCachedCompletion key _ _ => OwnKey lib tenantId key
  | _ => True

theorem redis_uses {S : WireOp → Prop} {cmd : RedisCommand} (h : S (.redis cmd)) :
    (redis cmd).Uses S := by
  refine Prog.Uses.bind (Prog.uses_perform h) fun reply => ?_
  cases reply with
  | answered result => trivial
  | lost exc carriedOut => trivial

variable {lib tenantId}

theorem acquireConcurrencySlot_uses (limit : ℤ) :
    (acquireConcurrencySlot tenantId limit).Uses fun op => ∀ k ∈ op.key, OwnKey lib tenantId k := by
  have sent {cmd : RedisCommand} (h : cmd.key = concurrencyKey tenantId) :
      (redis cmd).Uses fun op => ∀ k ∈ op.key, OwnKey lib tenantId k := by
    refine redis_uses fun k mem => ?_
    cases mem
    exact ⟨.concurrency, h⟩
  refine (sent rfl).bind fun current => Prog.Uses.bind ?_ fun _ => ?_
  · rw [expireFirst]
    split
    · exact (sent rfl).bind fun _ => trivial
    · trivial
  · split
    · exact (sent rfl).bind fun _ => trivial
    · trivial

theorem commands_uses {op : GatewayOp} (own : Own lib tenantId op) :
    (commands op).Uses fun op => ∀ k ∈ op.key, OwnKey lib tenantId k := by
  have sent {cmd : RedisCommand} (h : OwnKey lib tenantId cmd.key) :
      (redis cmd).Uses fun op => ∀ k ∈ op.key, OwnKey lib tenantId k := by
    refine redis_uses fun k mem => ?_
    cases mem
    exact h
  cases op with
  | getCachedResponse t key =>
    cases own
    exact sent ⟨.response key, rfl⟩
  | tryAcquireLock t key =>
    cases own
    exact sent ⟨.lock key, rfl⟩
  | releaseLock t key =>
    cases own
    exact (sent ⟨.lock key, rfl⟩).bind fun _ => trivial
  | storeResponse t key responseJson =>
    cases own
    exact (sent ⟨.response key, rfl⟩).bind fun _ => trivial
  | checkTokenBucket key capacity refillPerSecond cost => exact sent own
  | checkAndReserveBudget key increment limit => exact sent own
  | acquireConcurrencySlot t limit =>
    cases own
    exact acquireConcurrencySlot_uses limit
  | releaseConcurrencySlot t =>
    cases own
    exact (sent ⟨.concurrency, rfl⟩).bind fun _ => trivial
  | getCachedCompletion key => exact sent own
  | storeCachedCompletion key responseJson ttlSeconds =>
    have keyed : OwnKey lib tenantId (RedisCommand.set key responseJson false ttlSeconds).key := own
    exact (sent keyed).bind fun _ => trivial
  | _ => exact Prog.uses_perform (by simp [WireOp.key])

theorem own_of_placed {config : GatewayConfig} {request : ChatRequest} {op : GatewayOp}
    (placed : Placed config request op) : Own config.lib request.tenant.tenantId op := by
  cases op with
  | getCachedResponse t key => exact placed.1
  | tryAcquireLock t key => exact placed.1
  | releaseLock t key => exact placed.1
  | storeResponse t key responseJson => exact placed.1
  | acquireConcurrencySlot t limit => exact placed.1
  | releaseConcurrencySlot t => exact placed
  | checkTokenBucket key capacity refillPerSecond cost =>
    cases placed with
    | rpm => exact ⟨.rpm, rfl⟩
    | tpm promptTokens => exact ⟨.tpm, rfl⟩
  | checkAndReserveBudget key increment limit =>
    cases placed with
    | estimate month model promptTokens providerName => exact ⟨.budget month, rfl⟩
  | getCachedCompletion key =>
    obtain ⟨body, rfl⟩ := placed
    exact ⟨.completion body, rfl⟩
  | storeCachedCompletion key responseJson ttlSeconds =>
    obtain ⟨⟨body, rfl⟩, -⟩ := placed
    exact ⟨.completion body, rfl⟩
  | _ => trivial

end Programs

section Requests

theorem serve_own (config : GatewayConfig) (request : ChatRequest) :
    (serve config request).Uses (Own config.lib request.tenant.tenantId) :=
  (serve_within config request).mono fun _ => own_of_placed

theorem serveWire_own (config : GatewayConfig) (request : ChatRequest) :
    (serveWire config request).Uses fun op =>
      ∀ k ∈ op.key, OwnKey config.lib request.tenant.tenantId k :=
  (serve_own config request).expand fun _ own => commands_uses own

end Requests

section Runs
variable {ι : Type}

abbrev RedisStore := Store String (Option Entry) ℚ

abbrev TenantPool (ι : Type) := Pool WireOp WireRet Exn Answer ι RedisStore

abbrev TenantLabel (ι : Type) := Label WireOp WireRet Exn ι ℚ

variable (config : GatewayConfig) (requests : ι → ChatRequest)

def tenantOf (i : ι) : Uuid := (requests i).tenant.tenantId

def tenantPool (redis : RedisStore) : TenantPool ι :=
  Pool.start redis fun i => serveWire config (requests i)

/-- The same requests without those of one tenant. -/
def poolWithout (a : Uuid) (redis : RedisStore) : TenantPool ι :=
  Pool.start redis fun i =>
    if tenantOf requests i ≠ a then serveWire config (requests i) else .done (.error .cancelled)

/-- The clock and the calls of one tenant's requests, with their answers. -/
def callsOf (b : Uuid) (run : List (TenantLabel ι × TenantPool ι)) : List (TenantLabel ι) :=
  (run.map Prod.fst).filter (kept fun i => tenantOf requests i = b)

/-- The same for all tenants but one. -/
def callsWithout (a : Uuid) (run : List (TenantLabel ι × TenantPool ι)) : List (TenantLabel ι) :=
  (run.map Prod.fst).filter (kept fun i => tenantOf requests i ≠ a)

variable {config requests}

theorem only_start (a : Uuid) (redis : RedisStore) :
    only (fun i => tenantOf requests i ≠ a) (.error .cancelled) (tenantPool config requests redis)
      redis = poolWithout config requests a redis := by
  simp [only, tenantPool, poolWithout, Pool.start]

theorem pool_confined (redis : RedisStore) :
    Confined redisCells (fun i => OwnKey config.lib (tenantOf requests i))
      (tenantPool config requests redis) := fun i => serveWire_own config (requests i)

theorem poolWithout_confined (a : Uuid) (redis : RedisStore) :
    Confined redisCells (fun i => OwnKey config.lib (tenantOf requests i))
      (poolWithout config requests a redis) := by
  intro i
  simp only [poolWithout, Pool.start]
  split
  · exact serveWire_own config (requests i)
  · trivial

theorem cells_apart {lib : Libraries} {a b : Uuid} (apart : a ≠ b) (key : String)
    (own : OwnKey lib a key) : ¬ OwnKey lib b key := by
  rintro ⟨k', rfl⟩
  obtain ⟨k, same⟩ := own
  exact keys_of_tenants_differ apart k k' same.symm

variable [DecidableEq ι]

/-- The keys of two tenants are never the same, and neither are those of two families or of two
idempotency keys. What a tenant's requests are answered is what they would be answered without
the other tenant's requests. -/
theorem tenants_do_not_interfere (config : GatewayConfig) :
    (∀ a b : Uuid, a ≠ b → ∀ k k' : RedisKey, k.text config.lib a ≠ k'.text config.lib b) ∧
    (∀ (a : Uuid) (k k' : RedisKey), k.family ≠ k'.family →
      k.text config.lib a ≠ k'.text config.lib a) ∧
    (∀ (a : Uuid) (key key' : String), key ≠ key' →
      lockKey a key ≠ lockKey a key' ∧ responseKey a key ≠ responseKey a key') ∧
    ∀ (requests : ι → ChatRequest) (redis : RedisStore) (run : List (TenantLabel ι × TenantPool ι)),
      IsRun (Step (redisCells.world ι)) (tenantPool config requests redis) run →
      (∀ i cmd o, .call i ⟨.redis cmd, o⟩ ∈ run.map Prod.fst →
        ∃ k : RedisKey, cmd.key = k.text config.lib (tenantOf requests i)) ∧
      ∀ a b : Uuid, a ≠ b →
        (∃ run', IsRun (Step (redisCells.world ι)) (poolWithout config requests a redis) run' ∧
          run'.map Prod.fst = callsWithout requests a run) ∧
        ∀ run', IsRun (Step (redisCells.world ι)) (poolWithout config requests a redis) run' →
          (callsOf requests b run).map redisCells.input =
            (callsOf requests b run').map redisCells.input →
          callsOf requests b run = callsOf requests b run' := by
  refine ⟨fun a b apart => keys_of_tenants_differ apart, ?_, ?_, ?_⟩
  · intro a k k' families same
    exact families (families_differ same)
  · intro a key key' apart
    exact ⟨fun same => apart (lockKey_inj same), fun same => apart (responseKey_inj same)⟩
  · intro requests redis run isRun
    refine ⟨fun i cmd o mem => (pool_confined redis).calls isRun mem rfl, fun a b apart => ⟨?_, ?_⟩⟩
    · rw [← only_start]
      refine only_run _ (pool_confined redis) ?_ ⟨rfl, fun _ _ _ _ => rfl⟩ isRun
      intro i j k hi hj own
      rw [not_not.mp hj]
      exact cells_apart hi k own
    · intro run' isRun' inputs
      refine group_determined (.error .cancelled) (pool_confined redis)
        (poolWithout_confined a redis) ?_ ⟨rfl, fun _ _ _ _ => rfl⟩ ?_ isRun isRun' inputs
      · intro i j k hi hj own
        rw [hi] at own
        exact cells_apart (Ne.symm hj) k own
      · intro i hi
        have other : tenantOf requests i ≠ a := by
          rw [hi]
          exact apart.symm
        exact ⟨if_pos other, rfl⟩

end Runs

section TwoTenants

/-- Two tenants, and a request of each with the same Idempotency-Key. -/
def neighbour : TenantContext := { helloTenant with tenantId := BudgetScan.secondId }

def neighbours (second : Bool) : ChatRequest :=
  { keyedChat with tenant := if second then neighbour else helloTenant }

def emptyRedis : RedisStore := ⟨fun _ => none, 0⟩

abbrev replayMissed (tenantId : Uuid) : WireEvent :=
  ⟨.redis (.get (responseKey tenantId "k")), .ok (.answered (.ok (none : Option String)))⟩

abbrev lockSet (tenantId : Uuid) : WireEvent :=
  ⟨.redis (.set (lockKey tenantId "k") "1" true lockTtlSeconds), .ok (.answered (.ok true))⟩

abbrev setLock (tenantId : Uuid) (redis : RedisStore) : RedisStore :=
  redis.put (lockKey tenantId "k") (some ⟨.text "1", some (redis.now + lockTtlSeconds)⟩)

theorem replay_missed {redis : RedisStore} {tenantId : Uuid}
    (absent : redis.cells (RedisCommand.get (responseKey tenantId "k")).key = none) :
    redisCells.Answers redis (replayMissed tenantId).1 (replayMissed tenantId).2
      (redis.put (responseKey tenantId "k") none) := by
  refine ⟨none, ?_, rfl⟩
  rw [absent]
  rfl

theorem lock_set {redis : RedisStore} {tenantId : Uuid}
    (absent : redis.cells (RedisCommand.set (lockKey tenantId "k") "1" true lockTtlSeconds).key = none) :
    redisCells.Answers redis (lockSet tenantId).1 (lockSet tenantId).2 (setLock tenantId redis) := by
  refine ⟨_, ?_, rfl⟩
  rw [absent]
  rfl

theorem fresh_elsewhere {redis : RedisStore} {key : String} (absent : redis.cells key = none)
    {key' : String} (apart : key ≠ key') (entry : Option Entry) :
    (redis.put key' entry).cells key = none := by
  simpa [Store.put, apart] using absent

theorem tenants_do_not_interfere_same_key :
    ∃ run : List (TenantLabel Bool × TenantPool Bool),
      IsRun (Step (redisCells.world Bool)) (tenantPool helloConfig neighbours emptyRedis) run ∧
      .call false (lockSet helloTenantId) ∈ run.map Prod.fst ∧
      ∃ run', IsRun (Step (redisCells.world Bool))
          (poolWithout helloConfig neighbours helloTenantId emptyRedis) run' ∧
        run'.map Prod.fst =
          [.call true (replayMissed BudgetScan.secondId), .call true (lockSet BudgetScan.secondId)] := by
  have apart (k k' : RedisKey) :
      k.text helloConfig.lib BudgetScan.secondId ≠ k'.text helloConfig.lib helloTenantId :=
    keys_of_tenants_differ (by decide) k k'
  have nothing (key : String) : emptyRedis.cells key = none := rfl
  have first := fresh_elsewhere (nothing _) (lock_ne_response helloTenantId "k" "k") none
  have untouched (k : RedisKey) := fresh_elsewhere (fresh_elsewhere (nothing _)
    (apart k (.response "k")) none) (apart k (.lock "k"))
  have isRun : IsRun (Step (redisCells.world Bool)) (tenantPool helloConfig neighbours emptyRedis)
      [(.call false (replayMissed helloTenantId), _), (.call false (lockSet helloTenantId), _),
        (.call true (replayMissed BudgetScan.secondId), _),
        (.call true (lockSet BudgetScan.secondId), _)] :=
    ⟨.call rfl (replay_missed rfl), .call rfl (lock_set first), .call rfl (replay_missed
      (untouched (.response "k") _)), .call rfl (lock_set (fresh_elsewhere (untouched (.lock "k") _)
      (lock_ne_response _ _ _) none)), trivial⟩
  obtain ⟨run', isRun', labels⟩ := ((tenants_do_not_interfere helloConfig).2.2.2 neighbours emptyRedis
    _ isRun).2 helloTenantId BudgetScan.secondId (by decide) |>.1
  refine ⟨_, isRun, .tail _ (.head _), run', isRun', labels⟩

end TwoTenants
end AegisGateway.TenantIsolation
