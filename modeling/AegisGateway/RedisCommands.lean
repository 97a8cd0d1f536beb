import AegisGateway.BudgetCounter
import AegisGateway.BudgetScan
import AegisGateway.CellStore
import AegisGateway.ChatCompletions
import AegisGateway.ConcurrencySlot

set_option autoImplicit false

/-!
# The Redis commands of a request

`services/idempotency.py`, `services/rate_limiter.py` and `services/cache.py` down to
the commands they send, each on one key. A command that fails for its client may have
been carried out. A command that meets a value of another kind than its own is answered
with an error.
-/
namespace AegisGateway.RedisCommands
open EffectProgram CellStore
open TokenBucket (Bucket BucketArgs LimitResult tokenBucketLua)
open BudgetCounter (budgetLua)

section Keys

def lockKey (tenantId : Uuid) (idempotencyKey : String) : String :=
  "idempotency:" ++ tenantId.text ++ ":" ++ idempotencyKey ++ ":lock"

def responseKey (tenantId : Uuid) (idempotencyKey : String) : String :=
  "idempotency:" ++ tenantId.text ++ ":" ++ idempotencyKey ++ ":response"

def concurrencyKey (tenantId : Uuid) : String := "concurrency:" ++ tenantId.text

end Keys

inductive RedisValue where
  | text (s : String)
  | counter (n : ℤ)
  | amount (x : ℚ)
  | bucket (b : Bucket)

structure Entry where
  value : RedisValue
  expiresAt : Option ℚ

inductive RedisCommand where
  | get (key : String)
  | set (key value : String) (nx : Bool) (ex : ℤ)
  | delete (key : String)
  | incr (key : String)
  | decr (key : String)
  | expire (key : String) (seconds : ℤ)
  | tokenBucketScript (key : String) (args : BucketArgs)
  | budgetScript (key : String) (increment limit : ℚ)

def RedisCommand.key : RedisCommand → String
  | .get key | .set key _ _ _ | .delete key | .incr key | .decr key | .expire key _
  | .tokenBucketScript key _ | .budgetScript key _ _ => key

abbrev RedisRet : RedisCommand → Type
  | .get _ => Option String
  | .set _ _ _ _ | .delete _ | .expire _ _ => Bool
  | .incr _ | .decr _ => ℤ
  | .tokenBucketScript _ _ | .budgetScript _ _ _ => LimitResult

section Server

def responseError : Exn := .other "ResponseError"

def bucketKeyTtlSeconds : ℚ := 3600

def budgetKeyTtlSeconds : ℚ := 40 * 24 * 3600

/-- INCR and DECR keep the time to live, and give a new key none. -/
def addTo (n : ℤ) : Option Entry → Except Exn ℤ × Option Entry
  | none => (.ok n, some ⟨.counter n, none⟩)
  | some ⟨.counter m, expiresAt⟩ => (.ok (m + n), some ⟨.counter (m + n), expiresAt⟩)
  | some entry => (.error responseError, some entry)

def runTokenBucket (args : BucketArgs) (now : ℚ) (bucket : Option Bucket) :
    Except Exn LimitResult × Option Entry :=
  let reply := tokenBucketLua bucket args now
  (.ok reply.1, some ⟨.bucket reply.2, some (now + bucketKeyTtlSeconds)⟩)

/-- The script leaves the key alone when it denies. -/
def runBudget (increment limit now : ℚ) (entry : Option Entry) (stored : Option ℚ) :
    Except Exn LimitResult × Option Entry :=
  let reply := budgetLua stored increment limit
  (.ok reply.1, if reply.1.allowed then
    reply.2.map fun x => ⟨.amount x, some (now + budgetKeyTtlSeconds)⟩ else entry)

def runLive (now : ℚ) (entry : Option Entry) :
    (cmd : RedisCommand) → Except Exn (RedisRet cmd) × Option Entry
  | .get _ =>
    match entry with
    | none => (.ok none, entry)
    | some ⟨.text s, _⟩ => (.ok (some s), entry)
    | some _ => (.error responseError, entry)
  | .set _ value nx ex =>
    if ex ≤ 0 then (.error responseError, entry)
    else if nx && entry.isSome then (.ok false, entry)
    else (.ok true, some ⟨.text value, some (now + ex)⟩)
  | .delete _ => (.ok entry.isSome, none)
  | .incr _ => addTo 1 entry
  | .decr _ => addTo (-1) entry
  | .expire _ seconds =>
    (.ok entry.isSome, entry.map fun e => { e with expiresAt := some (now + seconds) })
  | .tokenBucketScript _ args =>
    match entry with
    | none => runTokenBucket args now none
    | some ⟨.bucket b, _⟩ => runTokenBucket args now (some b)
    | some _ => (.error responseError, entry)
  | .budgetScript _ increment limit =>
    match entry with
    | none => runBudget increment limit now entry none
    | some ⟨.amount x, _⟩ => runBudget increment limit now entry (some x)
    | some _ => (.error responseError, entry)

def Entry.live (now : ℚ) (entry : Entry) : Bool := entry.expiresAt.all (now < ·)

def run (now : ℚ) (entry : Option Entry) (cmd : RedisCommand) :
    Except Exn (RedisRet cmd) × Option Entry :=
  runLive now (entry.filter (Entry.live now)) cmd

end Server

section Client

inductive Reply (α : Type) where
  | answered (result : Except Exn α)
  | lost (exc : Exn) (carriedOut : Bool)

/-- What a request asks of Redis and of everything else. -/
inductive WireOp where
  | redis (cmd : RedisCommand)
  | outside (op : GatewayOp)

abbrev WireRet : WireOp → Type
  | .redis cmd => Reply (RedisRet cmd)
  | .outside op => GatewayRet op

abbrev WireProg := Prog WireOp WireRet Exn

abbrev WireEvent := Event WireOp WireRet Exn

abbrev ask (op : WireOp) : WireProg (WireRet op) := Prog.perform op

def redis (cmd : RedisCommand) : WireProg (RedisRet cmd) := do
  match ← ask (.redis cmd) with
  | .answered result => .done result
  | .lost exc _ => Prog.raise exc

def replayCacheTtl : ℤ := 24 * 60 * 60

/-- `if current == 1: await redis.expire(...)`. -/
def expireFirst (key : String) (current : ℤ) : WireProg Unit :=
  if current = 1 then do
    let _ ← redis (.expire key concurrencyKeyTtlSeconds)
  else pure ()

def acquireConcurrencySlot (tenantId : Uuid) (limit : ℤ) : WireProg Bool := do
  let key := concurrencyKey tenantId
  let current ← redis (.incr key)
  expireFirst key current
  if current > limit then do
    let _ ← redis (.decr key)
    return false
  else return true

/-- The commands of the slot on the tenant's counter. -/
def slotCommands (tenantId : Uuid) : (op : ConcurrencySlot.SlotOp) → WireProg (ConcurrencySlot.SlotRet op)
  | .incr => redis (.incr (concurrencyKey tenantId))
  | .expire seconds => redis (.expire (concurrencyKey tenantId) seconds)
  | .decr => redis (.decr (concurrencyKey tenantId))

theorem decideSlot_expand (tenantId : Uuid) (limit current : ℤ) :
    (ConcurrencySlot.decideSlot limit current).expand (slotCommands tenantId) =
      (if current > limit then do
        let _ ← redis (.decr (concurrencyKey tenantId))
        return false
      else return true : WireProg Bool) := by
  have decr : ConcurrencySlot.decr.expand (slotCommands tenantId) = redis (.decr (concurrencyKey tenantId)) :=
    Prog.expand_perform (slotCommands tenantId) .decr
  rw [ConcurrencySlot.decideSlot]
  split
  · rw [Prog.expand_bind, decr]
    rfl
  · rfl

/-- The slot's program with each command sent to the tenant's counter. -/
theorem acquireConcurrencySlot_expand (tenantId : Uuid) (limit : ℤ) :
    (ConcurrencySlot.acquireConcurrencySlot limit).expand (slotCommands tenantId) =
      acquireConcurrencySlot tenantId limit := by
  have incr : ConcurrencySlot.incr.expand (slotCommands tenantId) = redis (.incr (concurrencyKey tenantId)) :=
    Prog.expand_perform (slotCommands tenantId) .incr
  have expire (seconds : ℕ) : (ConcurrencySlot.expire seconds).expand (slotCommands tenantId) =
      redis (.expire (concurrencyKey tenantId) seconds) :=
    Prog.expand_perform (slotCommands tenantId) (.expire seconds)
  have decided : ConcurrencySlot.acquireConcurrencySlot limit =
      ConcurrencySlot.incr >>= fun current => if current = 1 then
        ConcurrencySlot.expire concurrencyKeyTtlSeconds >>= fun _ =>
          ConcurrencySlot.decideSlot limit current
      else ConcurrencySlot.decideSlot limit current := rfl
  rw [decided, Prog.expand_bind, incr, acquireConcurrencySlot]
  refine congrArg (redis (.incr (concurrencyKey tenantId)) >>= ·) ?_
  funext current
  rw [← decideSlot_expand, expireFirst]
  split
  · rw [Prog.expand_bind, expire, Prog.bind_assoc]
    rfl
  · rfl

def commands : (op : GatewayOp) → WireProg (GatewayRet op)
  | .getCachedResponse tenantId key => redis (.get (responseKey tenantId key))
  | .tryAcquireLock tenantId key => redis (.set (lockKey tenantId key) "1" true lockTtlSeconds)
  | .releaseLock tenantId key => do
    let _ ← redis (.delete (lockKey tenantId key))
  | .storeResponse tenantId key responseJson => do
    let _ ← redis (.set (responseKey tenantId key) responseJson false replayCacheTtl)
  | .checkTokenBucket key capacity refillPerSecond cost =>
    redis (.tokenBucketScript key ⟨capacity, refillPerSecond, cost⟩)
  | .checkAndReserveBudget key increment limit => redis (.budgetScript key increment limit)
  | .acquireConcurrencySlot tenantId limit => acquireConcurrencySlot tenantId limit
  | .releaseConcurrencySlot tenantId => do
    let _ ← redis (.decr (concurrencyKey tenantId))
  | .getCachedCompletion key => redis (.get key)
  | .storeCachedCompletion key responseJson ttlSeconds => do
    let _ ← redis (.set key responseJson false ttlSeconds)
  | op => ask (.outside op)

/-- A whole request, down to its Redis commands. -/
def serveWire (config : GatewayConfig) (request : ChatRequest) : WireProg Answer :=
  (serve config request).expand commands

end Client

section World

/-- Redis decides what it answers. Whether an answer is lost is decided outside. -/
def outsideOf : WireEvent → Option WireEvent
  | ⟨.redis _, .ok (.answered _)⟩ => none
  | e => some e

def effect (now : ℚ) (entry : Option Entry) :
    (op : WireOp) → Except Exn (WireRet op) → Option Entry → Prop
  | .redis cmd, .ok (.answered result), entry' => (result, entry') = run now entry cmd
  | .redis cmd, .ok (.lost _ carriedOut), entry' =>
    entry' = if carriedOut then (run now entry cmd).2 else entry
  | _, _, _ => False

theorem effect_determined {now : ℚ} {entry entry' entry'' : Option Entry} {op : WireOp}
    {o o' : Except Exn (WireRet op)} (h : effect now entry op o entry')
    (h' : effect now entry op o' entry'') (same : outsideOf ⟨op, o⟩ = outsideOf ⟨op, o'⟩) :
    o = o' ∧ entry' = entry'' := by
  cases op with
  | outside op => exact h.elim
  | redis cmd =>
    rcases o with exc | result | ⟨exc, carriedOut⟩
    · exact h.elim
    · rcases o' with exc' | result' | ⟨exc', carriedOut'⟩
      · exact h'.elim
      · have eq : (result, entry') = (result', entry'') := h.trans h'.symm
        cases eq
        exact ⟨rfl, rfl⟩
      · cases same
    · rcases o' with exc' | result' | ⟨exc', carriedOut'⟩
      · exact h'.elim
      · cases same
      · cases same
        exact ⟨rfl, h.trans h'.symm⟩

theorem outside_given {op : GatewayOp} {o o' : Except Exn (WireRet (.outside op))}
    (same : outsideOf ⟨.outside op, o⟩ = outsideOf ⟨.outside op, o'⟩) : o = o' := by
  cases same
  rfl

def WireOp.key : WireOp → Option String
  | .redis cmd => some cmd.key
  | .outside _ => none

def redisCells : CellWorld WireOp WireRet Exn String (Option Entry) ℚ ℚ (Option WireEvent) where
  key := WireOp.key
  effect := effect
  tick now duration := now + duration
  outside := outsideOf
  determined := effect_determined
  given {op _ _} free same := by
    cases op with
    | redis cmd => cases free
    | outside op => exact outside_given same

end World
end AegisGateway.RedisCommands
