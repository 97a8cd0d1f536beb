import AegisGateway.ProgramPool
import AegisGateway.RequestStages

set_option autoImplicit false

/-!
# The lock of an Idempotency-Key in time

`try_acquire_lock` sets a key that expires `LOCK_TTL_SECONDS` later, and
`release_lock` deletes whatever is there. Who set the key is not part of Redis; it
is kept beside it here to say whose lock a command finds. The lock excludes as long
as no request outlives the lock it holds.
-/
namespace AegisGateway.IdempotencyLock
open EffectProgram TransitionRuns ProgramPool RequestStages

structure Lock (ι : Type) where
  owner : ι
  expiresAt : ℚ

structure LockState (ι : Type) where
  locks : Uuid → String → Option (Lock ι)
  now : ℚ

section Redis
variable {ι : Type}

/-- The lock, unless it is gone or has expired. -/
def LockState.live (s : LockState ι) (tenantId : Uuid) (key : String) : Option (Lock ι) :=
  (s.locks tenantId key).filter fun lock => s.now < lock.expiresAt

def LockState.put (s : LockState ι) (tenantId : Uuid) (key : String) (lock : Option (Lock ι)) :
    LockState ι :=
  { s with locks := fun t k => if t = tenantId ∧ k = key then lock else s.locks t k }

/-- `SET key 1 NX EX 60`. -/
def LockState.setNx (s : LockState ι) (owner : ι) (tenantId : Uuid) (key : String) :
    Bool × LockState ι :=
  match s.live tenantId key with
  | some _ => (false, s)
  | none => (true, s.put tenantId key (some ⟨owner, s.now + lockTtlSeconds⟩))

/-- `DEL key`. -/
def LockState.delete (s : LockState ι) (tenantId : Uuid) (key : String) : LockState ι :=
  s.put tenantId key none

theorem LockState.live_put (s : LockState ι) (tenantId : Uuid) (key : String)
    (lock : Option (Lock ι)) :
    (s.put tenantId key lock).live tenantId key = lock.filter fun lock => s.now < lock.expiresAt := by
  have here : (s.put tenantId key lock).locks tenantId key = lock := if_pos ⟨rfl, rfl⟩
  rw [LockState.live, here]
  rfl

/-- A command that fails may have been carried out or not. -/
def lockWorld (ι : Type) : World GatewayOp GatewayRet Exn ι (LockState ι) ℚ where
  answer s i op o s' := match op, o with
    | .tryAcquireLock tenantId key, .ok acquired => (acquired, s') = s.setNx i tenantId key
    | .tryAcquireLock tenantId key, .error _ => s' = s ∨ s' = (s.setNx i tenantId key).2
    | .releaseLock tenantId key, .ok _ => s' = s.delete tenantId key
    | .releaseLock tenantId key, .error _ => s' = s ∨ s' = s.delete tenantId key
    | _, _ => s' = s
  passes s duration s' := 0 ≤ duration ∧ s' = { s with now := s.now + duration }

end Redis

section Programs

inductive LockPhase where
  | free
  | holding
  | released
  deriving DecidableEq, Repr

section Monitor
variable (tenantId : Uuid) (key : String)

def permits (phase : LockPhase) : GatewayOp → Prop
  | .tryAcquireLock t k => phase = .free ∧ t = tenantId ∧ k = key
  | .releaseLock t k => phase = .holding ∧ t = tenantId ∧ k = key
  | _ => True

def advance (phase : LockPhase) : GatewayEvent → LockPhase
  | ⟨.tryAcquireLock _ _, .ok acquired⟩ => if acquired then .holding else phase
  | ⟨.releaseLock _ _, _⟩ => .released
  | _ => phase

def lockMonitor : Monitor GatewayOp GatewayRet Exn LockPhase where
  permits := permits tenantId key
  answers _ _ _ := True
  advance phase op o := advance phase ⟨op, o⟩

end Monitor

/-- A request of this tenant with this Idempotency-Key, streaming or not. -/
structure SharesKey (tenantId : Uuid) (key : String) (request : ChatRequest) : Prop where
  tenant : request.tenant.tenantId = tenantId
  key : request.key = some key

/-- The kinds of calls that leave the lock alone. -/
def lockFreeKinds : List OpKind :=
  [.readResponse, .storeResponse, .tokenizer, .limiter, .acquireSlot, .releaseSlot, .redactor,
    .detector, .security, .audit, .usage, .metric, .readCache, .writeCache, .chat, .stream, .begin,
    .yield, .clock, .dump, .cost]

variable {tenantId : Uuid} {key : String} {config : GatewayConfig} {request : ChatRequest}
  {α β : Type} {phase : LockPhase}

theorem lockFree_holds {p : GatewayProg α} (uses : UsesKinds lockFreeKinds p) (phase : LockPhase) :
    Holds (lockMonitor tenantId key) p (fun _ phase' => phase' = phase) phase := by
  refine uses.holds (fun op kind => ?_) fun op o kind _ => ?_
  · cases op <;> first | trivial | exact absurd kind (by simp [GatewayOp.kind, lockFreeKinds])
  · cases op <;> first | rfl | exact absurd kind (by simp [GatewayOp.kind, lockFreeKinds])

theorem lockFree_step {p : GatewayProg α} {f : α → GatewayProg β}
    {Q : Except Exn β → LockPhase → Prop} (uses : UsesKinds lockFreeKinds p)
    (raised : ∀ e, Q (.error e) phase)
    (next : ∀ a, Holds (lockMonitor tenantId key) (f a) Q phase) :
    Holds (lockMonitor tenantId key) (p >>= f) Q phase :=
  (lockFree_holds uses phase).skip raised next

theorem releaseLock_holds (shares : SharesKey tenantId key request)
    {Q : Except Exn Unit → LockPhase → Prop} (after : ∀ r, Q r .released) :
    Holds (lockMonitor tenantId key) (releaseLockIfKeyed request) Q .holding := by
  rw [releaseLockIfKeyed, shares.key]
  exact ⟨⟨rfl, shares.tenant, rfl⟩, fun o _ => after o⟩

/-- The lock is held until the request is over or an exception of the provider goes on. -/
def lockStages : Assertions LockPhase :=
  { Assertions.until (· = .holding) fun _ _ => True with
    start := (· = .free)
    fresh := (· = .free)
    raised := fun _ _ => True }

theorem lockFree_leads {p : GatewayProg α} {next : Except Exn α → Stage} (uses : UsesKinds lockFreeKinds p)
    (leads : ∀ r, lockStages.Reached (next r) phase) :
    Holds (lockMonitor tenantId key) p (fun r => lockStages.Reached (next r)) phase :=
  leads_alone (lockFree_holds uses phase) leads

theorem lockFree_goes {p : GatewayProg α} {next : α → Stage} (uses : UsesKinds lockFreeKinds p)
    (returned : ∀ a, lockStages.Reached (next a) phase) :
    Holds (lockMonitor tenantId key) p (fun r => lockStages.Reached (onOk next r)) phase :=
  leads_alone_ok (lockFree_holds uses phase) (fun _ => trivial) returned

theorem refusal_leads (shares : SharesKey tenantId key request) {first second : GatewayProg Unit}
    {next : Except Exn Unit → Stage} (uses : UsesKinds lockFreeKinds first)
    (uses' : UsesKinds lockFreeKinds second) (reached : phase = .holding)
    (leads : ∀ r phase, lockStages.Reached (next r) phase) :
    Holds (lockMonitor tenantId key) (first >>= fun _ => second >>= fun _ => releaseLockIfKeyed request)
      (fun r => lockStages.Reached (next r)) phase := by
  subst reached
  refine lockFree_step uses (fun _ => leads _ _) fun _ => ?_
  refine lockFree_step uses' (fun _ => leads _ _) fun _ => ?_
  exact releaseLock_holds shares fun _ => leads _ _

theorem lock_walks (shares : SharesKey tenantId key request) :
    Walks (lockMonitor tenantId key) lockStages.Reached config request := by
  intro α stage p next piece phase reached
  cases piece with
  | replay =>
    obtain rfl : phase = .free := reached
    refine lockFree_leads (usesKinds_call rfl) ?_
    rintro (e | _ | _) <;> trivial
  | lock keyed =>
    obtain rfl : phase = .free := reached
    obtain rfl := Option.some.inj (shares.key.symm.trans keyed)
    refine ⟨⟨rfl, shares.tenant, rfl⟩, ?_⟩
    rintro (e | _ | _) _ <;> trivial
  | unlocked unkeyed => cases shares.key.symm.trans unkeyed
  | unknown =>
    obtain rfl : phase = .holding := reached
    exact releaseLock_holds shares fun r => by cases r <;> trivial
  | count =>
    exact lockFree_goes ((countPromptTokens_uses _ _).weaken (by decide)) fun _ => reached
  | limit =>
    refine lockFree_leads ((enforceRequestLimits_uses _ _ _ _).weaken (by decide)) ?_
    rintro (e | _)
    · cases e with
      | rateLimit exc => exact reached
      | _ => trivial
    · exact reached
  | acquire =>
    refine lockFree_goes (usesKinds_call rfl) fun acquired => ?_
    cases acquired <;> exact reached
  | refuse =>
    exact refusal_leads shares (usesKinds_call rfl) (usesKinds_call rfl) reached
      fun r _ => by cases r <;> trivial
  | screen =>
    refine lockFree_leads ((runSecurityPipeline_uses _ _).weaken (by decide)) ?_
    rintro (e | _)
    · cases e with
      | http exc => exact reached
      | _ => trivial
    · exact reached
  | block =>
    exact refusal_leads shares (usesKinds_call rfl) (usesKinds_call rfl) reached
      fun r _ => by cases r <;> trivial
  | lookUp =>
    exact lockFree_goes ((getCachedCompletion_uses _ _).weaken (by decide)) fun _ => reached
  | noteLookup asked cached =>
    refine lockFree_goes (usesKinds_call rfl) fun _ => ?_
    cases cached <;> exact reached
  | replayChunks cached =>
    exact lockFree_leads ((replayChunks_uses cached).weaken (by decide)) fun _ => reached
  | endReplay =>
    obtain rfl : phase = .holding := reached
    exact releaseLock_holds shares fun _ => trivial
  | callProvider =>
    refine lockFree_leads (usesKinds_call rfl) ?_
    rintro (e | _)
    · cases e with
      | provider exc => exact reached
      | _ => trivial
    · exact reached
  | fail =>
    exact refusal_leads shares (usesKinds_call rfl) (usesKinds_call rfl) reached
      fun r _ => by cases r <;> trivial
  | freeRaised => exact lockFree_leads (usesKinds_call rfl) fun r => by cases r <;> trivial
  | complete =>
    exact lockFree_goes ((complete_uses _ _ _).weaken (by decide)) fun _ => reached
  | keep =>
    exact lockFree_goes ((storeIfCaching_uses _ _ _).weaken (by decide)) fun _ => reached
  | billHit | billReplay | bill | billStream =>
    exact lockFree_goes ((recordUsage_uses _ _ _ _ _ _).weaken (by decide)) fun _ => reached
  | send text headers =>
    obtain rfl : phase = .holding := reached
    rw [storeAndReleaseIfKeyed, shares.key]
    refine lockFree_step (usesKinds_call rfl) (fun _ => trivial) fun _ => ?_
    exact ⟨⟨rfl, shares.tenant, rfl⟩, fun r _ => by cases r <;> trivial⟩
  | startUpstream | yieldChunk =>
    refine lockFree_leads (usesKinds_call rfl) fun r => ?_
    cases r <;> exact reached
  | finish | report => exact lockFree_leads (usesKinds_call rfl) fun _ => reached
  | countText =>
    exact lockFree_goes ((countText_uses _ _ _).weaken (by decide)) fun _ => reached
  | keepStream =>
    exact lockFree_goes ((cacheStream_uses _ _ _ _ _ _).weaken (by decide)) fun _ => reached
  | failStream =>
    exact lockFree_goes ((failStream_uses _ _ _).weaken (by decide)) fun _ => reached
  | endStream =>
    obtain rfl : phase = .holding := reached
    exact releaseLock_holds shares fun r => by cases r <;> trivial
  | unreplayed | uncached | unbilledHit | unbilledReplay | unreadable | breakOff | succeed => exact reached
  | freeHit | beginHit | freeAnswered | dump | beginMissed | freeStream =>
    exact lockFree_goes (usesKinds_call rfl) fun _ => reached

/-- Whatever follows, the program keeps to its lock. -/
abbrev Ends (tenantId : Uuid) (key : String) (p : GatewayProg α) (phase : LockPhase) : Prop :=
  Holds (lockMonitor tenantId key) p (fun _ _ => True) phase

theorem serve_ends (shares : SharesKey tenantId key request) :
    Ends tenantId key (serve config request) .free := serve_walks (lock_walks shares) rfl

end Programs

section Runs
variable {ι : Type} (tenantId : Uuid) (key : String)

abbrev LockPool (ι : Type) := Pool GatewayOp GatewayRet Exn Answer ι (LockState ι)

abbrev LockLabel (ι : Type) := Label GatewayOp GatewayRet Exn ι ℚ

def lockPool (config : GatewayConfig) (requests : ι → ChatRequest) (s : LockState ι) : LockPool ι :=
  Pool.start s fun i => serve config (requests i)

/-- The request is between its successful `try_acquire_lock` and its `release_lock`. -/
def Holding (p : LockPool ι) (i : ι) : Prop :=
  ⟨.tryAcquireLock tenantId key, .ok true⟩ ∈ p.history i ∧
    (∀ o, ⟨.releaseLock tenantId key, o⟩ ∉ p.history i) ∧ ∀ r, p.threads i ≠ .done r

/-- At most one request holds the lock, and who is about to release it finds its own lock or
none. -/
def Excludes (p : LockPool ι) : Prop :=
  (∀ i j, Holding tenantId key p i → Holding tenantId key p j → i = j) ∧
  ∀ i next, p.threads i = .call (.releaseLock tenantId key) next →
    ∀ lock, p.shared.live tenantId key = some lock → lock.owner = i

/-- No time passes in which a lock expires whose owner still holds it. -/
def InTime (p : LockPool ι) : LockLabel ι → Prop
  | .call _ _ => True
  | .env duration => ∀ lock, p.shared.live tenantId key = some lock →
      Holding tenantId key p lock.owner → p.shared.now + duration < lock.expiresAt

abbrev LockPool.phase (p : LockPool ι) : ι → LockPhase :=
  p.monitored (lockMonitor tenantId key) fun _ => .free

abbrev LockPool.Tracked (p : LockPool ι) : Prop :=
  Pool.Tracked (lockMonitor tenantId key) (fun _ _ _ => True) (fun _ => .free) p

/-- A request that holds the lock finds it in Redis, as its own. -/
def Guarded (p : LockPool ι) : Prop :=
  ∀ i, LockPool.phase tenantId key p i = .holding → (∀ r, p.threads i ≠ .done r) →
    ∃ lock, p.shared.live tenantId key = some lock ∧ lock.owner = i

variable {tenantId key}

/-- The past a request in this phase has. -/
def LockPhase.past (tenantId : Uuid) (key : String) (phase : LockPhase)
    (history : List GatewayEvent) : Prop :=
  match phase with
  | .free => ⟨.tryAcquireLock tenantId key, .ok true⟩ ∉ history ∧
      ∀ o, ⟨.releaseLock tenantId key, o⟩ ∉ history
  | .holding => ⟨.tryAcquireLock tenantId key, .ok true⟩ ∈ history ∧
      ∀ o, ⟨.releaseLock tenantId key, o⟩ ∉ history
  | .released => ∃ o, ⟨.releaseLock tenantId key, o⟩ ∈ history

theorem past_of_accepts {history : List GatewayEvent}
    (h : (lockMonitor tenantId key).Accepts .free history) :
    ((lockMonitor tenantId key).after .free history).past tenantId key history := by
  have start : LockPhase.past tenantId key .free [] := ⟨by simp, by simp⟩
  refine h.past start ?_
  intro phase past op o before permitted _
  change (advance phase ⟨op, o⟩).past tenantId key _
  cases op with
  | tryAcquireLock t k =>
    obtain ⟨rfl, rfl, rfl⟩ := permitted
    cases o with
    | error e => simpa [advance, LockPhase.past] using before
    | ok acquired =>
      cases acquired with
      | true => simpa [advance, LockPhase.past] using before.2
      | false => simpa [advance, LockPhase.past] using before
  | releaseLock t k =>
    obtain ⟨rfl, rfl, rfl⟩ := permitted
    exact ⟨o, by simp⟩
  | _ =>
    cases phase with
    | released =>
      obtain ⟨o', mem⟩ := before
      exact ⟨o', List.mem_append_left _ mem⟩
    | _ => simpa [advance, LockPhase.past] using before

theorem holding_iff {p : LockPool ι} (tracked : p.Tracked tenantId key) (i : ι) :
    Holding tenantId key p i ↔
      LockPool.phase tenantId key p i = .holding ∧ ∀ r, p.threads i ≠ .done r := by
  have past := past_of_accepts (tracked i).1
  change (LockPool.phase tenantId key p i).past tenantId key _ at past
  constructor
  · rintro ⟨acquired, unreleased, running⟩
    refine ⟨?_, running⟩
    cases phase : LockPool.phase tenantId key p i with
    | free =>
      rw [phase] at past
      exact absurd acquired past.1
    | holding => rfl
    | released =>
      rw [phase] at past
      obtain ⟨o, mem⟩ := past
      exact absurd mem (unreleased o)
  · rintro ⟨phase, running⟩
    rw [phase] at past
    exact ⟨past.1, past.2, running⟩

theorem Guarded.owner_eq {p : LockPool ι} (guarded : Guarded tenantId key p) {lock : Lock ι}
    (live : p.shared.live tenantId key = some lock) {i : ι}
    (holding : LockPool.phase tenantId key p i = .holding) (running : ∀ r, p.threads i ≠ .done r) :
    lock.owner = i := by
  obtain ⟨lock', live', owner⟩ := guarded i holding running
  rw [live] at live'
  cases live'
  exact owner

theorem guarded_owner {p : LockPool ι} (guarded : Guarded tenantId key p) {i j : ι}
    (holding : LockPool.phase tenantId key p i = .holding) (running : ∀ r, p.threads i ≠ .done r)
    (holding' : LockPool.phase tenantId key p j = .holding) (running' : ∀ r, p.threads j ≠ .done r) :
    i = j := by
  obtain ⟨lock, live, rfl⟩ := guarded i holding running
  exact guarded.owner_eq live holding' running'

theorem excludes_of_guarded {p : LockPool ι} (tracked : p.Tracked tenantId key)
    (guarded : Guarded tenantId key p) : Excludes tenantId key p := by
  constructor
  · intro i j holds holds'
    rw [holding_iff tracked] at holds holds'
    exact guarded_owner guarded holds.1 holds.2 holds'.1 holds'.2
  · intro i next releasing lock live
    have permitted := (tracked i).2
    rw [releasing] at permitted
    exact guarded.owner_eq live permitted.1.1 (by simp [releasing])

section Commands
variable {s s' : LockState ι} {i : ι}

theorem setNx_refused {lock : Lock ι} (live : s.live tenantId key = some lock)
    {o : Except Exn Bool} (answered : (lockWorld ι).answer s i (.tryAcquireLock tenantId key) o s') :
    s' = s ∧ o ≠ .ok true := by
  have refused : s.setNx i tenantId key = (false, s) := by simp [LockState.setNx, live]
  cases o with
  | error e =>
    have failed : s' = s ∨ s' = (s.setNx i tenantId key).2 := answered
    rw [refused] at failed
    exact ⟨by simpa using failed, by simp⟩
  | ok acquired =>
    have replied : (acquired, s') = s.setNx i tenantId key := answered
    rw [refused] at replied
    cases replied
    exact ⟨rfl, by simp⟩

theorem setNx_acquired
    (answered : (lockWorld ι).answer s i (.tryAcquireLock tenantId key) (.ok true) s') :
    ∃ lock, s'.live tenantId key = some lock ∧ lock.owner = i := by
  have replied : (true, s') = s.setNx i tenantId key := answered
  cases before : s.live tenantId key with
  | some lock => exact absurd rfl (setNx_refused before answered).2
  | none =>
    refine ⟨⟨i, s.now + lockTtlSeconds⟩, ?_, rfl⟩
    have state : s' = (s.setNx i tenantId key).2 := congrArg Prod.snd replied
    rw [state]
    simp only [LockState.setNx, before]
    rw [LockState.live_put, Option.filter_some, if_pos]
    simp [lockTtlSeconds]

end Commands

section Calls
variable {p : LockPool ι} {i j : ι} {op : GatewayOp} {o : Except Exn (GatewayRet op)}
  {s : LockState ι}

theorem Guarded.other_lock (guarded : Guarded tenantId key p) (running : ∀ r, p.threads i ≠ .done r)
    (permitted : permits tenantId key (LockPool.phase tenantId key p i) op)
    (answered : (lockWorld ι).answer p.shared i op o s) (other : j ≠ i)
    (holding : LockPool.phase tenantId key p j = .holding) (goesOn : ∀ r, p.threads j ≠ .done r) :
    ∃ lock, s.live tenantId key = some lock ∧ lock.owner = j := by
  obtain ⟨lock, live, owner⟩ := guarded j holding goesOn
  cases op with
  | tryAcquireLock t k =>
    obtain ⟨_, rfl, rfl⟩ := permitted
    rw [(setNx_refused live answered).1]
    exact ⟨lock, live, owner⟩
  | releaseLock t k =>
    obtain ⟨mine, rfl, rfl⟩ := permitted
    exact absurd (guarded_owner guarded holding goesOn mine running) other
  | _ =>
    cases answered
    exact ⟨lock, live, owner⟩

theorem Guarded.own_lock (guarded : Guarded tenantId key p) (running : ∀ r, p.threads i ≠ .done r)
    (permitted : permits tenantId key (LockPool.phase tenantId key p i) op)
    (answered : (lockWorld ι).answer p.shared i op o s)
    (holding : advance (LockPool.phase tenantId key p i) ⟨op, o⟩ = .holding) :
    ∃ lock, s.live tenantId key = some lock ∧ lock.owner = i := by
  cases op with
  | tryAcquireLock t k =>
    obtain ⟨free, rfl, rfl⟩ := permitted
    rw [free] at holding
    cases o with
    | error e => cases holding
    | ok acquired =>
      cases acquired with
      | false => cases holding
      | true => exact setNx_acquired answered
  | releaseLock t k => cases holding
  | _ =>
    cases answered
    exact guarded i holding running

variable [DecidableEq ι]

theorem guarded_call (guarded : Guarded tenantId key p)
    {next : Except Exn (GatewayRet op) → GatewayProg Answer} (head : p.threads i = .call op next)
    (permitted : permits tenantId key (LockPool.phase tenantId key p i) op)
    (answered : (lockWorld ι).answer p.shared i op o s) :
    ∀ j, Function.update (LockPool.phase tenantId key p) i
        (advance (LockPool.phase tenantId key p i) ⟨op, o⟩) j = .holding →
      (∀ r, Function.update p.threads i (next o) j ≠ .done r) →
      ∃ lock, s.live tenantId key = some lock ∧ lock.owner = j := by
  have running : ∀ r, p.threads i ≠ .done r := by simp [head]
  intro j holding goesOn
  rcases update_cases (Q := (· = LockPhase.holding)) holding with ⟨rfl, now⟩ | ⟨other, before⟩
  · exact guarded.own_lock running permitted answered now
  · simp only [Function.update_of_ne other] at goesOn
    exact guarded.other_lock running permitted answered other before goesOn

end Calls

variable [DecidableEq ι]

theorem guarded_step {p p' : LockPool ι} {l : LockLabel ι} (tracked : p.Tracked tenantId key)
    (guarded : Guarded tenantId key p) (inTime : InTime tenantId key p l)
    (step : Step (lockWorld ι) p l p') :
    LockPool.Tracked tenantId key p' ∧ Guarded tenantId key p' := by
  obtain ⟨tracked', moved⟩ := step_cases (fun _ _ _ _ _ _ _ => trivial) tracked step
  refine ⟨tracked', ?_⟩
  rcases moved with ⟨i, op, o, rfl, permitted, _, phases⟩ | ⟨duration, rfl, _, phases⟩
  · cases step with
    | call head answered =>
      rw [Guarded, LockPool.phase, phases]
      exact guarded_call guarded head permitted answered
  · cases step with
    | env passed =>
      obtain ⟨_, rfl⟩ := passed
      rw [Guarded, LockPool.phase, phases]
      intro i holding running
      obtain ⟨lock, live, rfl⟩ := guarded i holding running
      have kept := inTime lock live ((holding_iff tracked lock.owner).mpr ⟨holding, running⟩)
      refine ⟨lock, ?_, rfl⟩
      have stored : p.shared.locks tenantId key = some lock := (Option.filter_eq_some_iff.mp live).1
      rw [LockState.live]
      simp only [stored, Option.filter_some, kept, decide_true, if_true]

/-- As long as no request outlives the lock it holds, at most one request holds the lock, and
none deletes the lock of another. -/
theorem lock_excludes_in_time (config : GatewayConfig) (tenantId : Uuid) (key : String)
    (requests : ι → ChatRequest) (shares : ∀ i, SharesKey tenantId key (requests i))
    (s : LockState ι) (run : List (LockLabel ι × LockPool ι))
    (isRun : IsRun (Step (lockWorld ι)) (lockPool config requests s) run)
    (inTime : StepsMeet (InTime tenantId key) (lockPool config requests s) run) :
    ∀ p ∈ visited (lockPool config requests s) run, Excludes tenantId key p := by
  intro p hp
  have start : LockPool.Tracked tenantId key (lockPool config requests s) ∧
      Guarded tenantId key (lockPool config requests s) :=
    ⟨Pool.start_tracked fun i => serve_ends (shares i), fun i holding => by cases holding⟩
  obtain ⟨tracked, guarded⟩ := isRun.invariant
    (fun p l p' kept ok step => guarded_step kept.1 kept.2 ok step) inTime start p hp
  exact excludes_of_guarded tracked guarded

end Runs

section Expiry

abbrev noReplay : GatewayEvent := ⟨.getCachedResponse helloTenant.tenantId "k", .ok (none : Option String)⟩

abbrev lockReply (acquired : Bool) : GatewayEvent :=
  ⟨.tryAcquireLock helloTenant.tenantId "k", .ok acquired⟩

def noLocks : LockState Bool := ⟨fun _ _ => none, 0⟩

abbrev keyedLocks : LockPool Bool := lockPool helloConfig (fun _ => keyedChat) noLocks

/-- The first request has taken the lock, and `duration` seconds have passed. -/
def lockedFor (duration : ℚ) : LockState Bool :=
  LockState.put ⟨fun _ _ => none, 0 + duration⟩ helloTenant.tenantId "k"
    (some ⟨false, 0 + lockTtlSeconds⟩)

theorem lockedFor_live (duration : ℚ) :
    (lockedFor duration).live helloTenant.tenantId "k" =
      if duration < 60 then some ⟨false, 0 + lockTtlSeconds⟩ else none := by
  rw [lockedFor, LockState.live_put, Option.filter_some]
  simp [lockTtlSeconds]

theorem keyed_shares : SharesKey helloTenant.tenantId "k" keyedChat := ⟨rfl, rfl⟩

theorem locked_at_start : (true, lockedFor 0) = noLocks.setNx false helloTenant.tenantId "k" := by
  simp [lockedFor, noLocks, LockState.setNx, LockState.live, LockState.put]

theorem refused_in_time :
    ∃ run : List (LockLabel Bool × LockPool Bool),
      IsRun (Step (lockWorld Bool)) keyedLocks run ∧
      StepsMeet (InTime helloTenant.tenantId "k") keyedLocks run ∧
      ∃ p ∈ visited keyedLocks run, Holding helloTenant.tenantId "k" p false ∧
        p.threads true = .done (.error (.http keyInUse)) := by
  have waited : (lockWorld Bool).passes (lockedFor 0) 59 (lockedFor 59) := by
    refine ⟨by norm_num, ?_⟩
    simp [lockedFor, LockState.put]
  have refused : (false, lockedFor 59) = (lockedFor 59).setNx true helloTenant.tenantId "k" := by
    rw [LockState.setNx, lockedFor_live, if_pos (by norm_num)]
  have isRun : IsRun (Step (lockWorld Bool)) keyedLocks
      [(.call false noReplay, _), (.call false (lockReply true), _), (.env 59, _),
        (.call true noReplay, _), (.call true (lockReply false), _)] :=
    ⟨.call rfl rfl, .call rfl locked_at_start, .env waited, .call rfl rfl, .call rfl refused, trivial⟩
  refine ⟨_, isRun, ⟨trivial, trivial, ?_, trivial, trivial, trivial⟩,
    ⟨_, final_mem_visited _ _, ⟨?_, ?_, ?_⟩, rfl⟩⟩
  · intro lock live _
    have found : (lockedFor 0).live helloTenant.tenantId "k" = some lock := live
    rw [lockedFor_live, if_pos (by norm_num)] at found
    cases found
    change (0 : ℚ) + 0 + 59 < 0 + 60
    norm_num
  · exact .tail _ (.head _)
  · intro o
    change _ ∉ [noReplay, lockReply true]
    simp
  · intro r ended
    cases ended

theorem lock_excludes_in_time_two_requests :
    ∃ run : List (LockLabel Bool × LockPool Bool),
      IsRun (Step (lockWorld Bool)) keyedLocks run ∧
      (∃ p ∈ visited keyedLocks run, Holding helloTenant.tenantId "k" p false ∧
        p.threads true = .done (.error (.http keyInUse))) ∧
      ∀ p ∈ visited keyedLocks run, Excludes helloTenant.tenantId "k" p := by
  obtain ⟨run, isRun, inTime, refused⟩ := refused_in_time
  exact ⟨run, isRun, refused,
    lock_excludes_in_time helloConfig _ _ _ (fun _ => keyed_shares) _ run isRun inTime⟩

theorem served_free {i : Bool} {t : List GatewayEvent} (free : ∀ e ∈ t, e.1.kind ∈ lockFreeKinds)
    (s : LockState Bool) : (lockWorld Bool).Serves (fun _ _ => True) i s t s := by
  induction t with
  | nil => rfl
  | cons e t ih =>
    refine ⟨trivial, s, ?_, ih fun e' mem => free e' (.tail _ mem)⟩
    have here := free e (.head _)
    obtain ⟨op, o⟩ := e
    cases op <;> first | rfl | exact absurd here (by simp [GatewayOp.kind, lockFreeKinds])

theorem calling_under_lock :
    ∃ run : List (LockLabel Bool × LockPool Bool),
      IsRun (Step (lockWorld Bool)) keyedLocks run ∧
      (final keyedLocks run).shared = lockedFor 0 ∧
      Holding helloTenant.tenantId "k" (final keyedLocks run) false ∧
      (∃ next, (final keyedLocks run).threads false =
        .call (.chatCompletion (helloRequest false)) next) ∧
      (final keyedLocks run).threads true = serve helloConfig keyedChat ∧
      (final keyedLocks run).history true = [] := by
  have served : Reaches (serve helloConfig keyedChat)
      ((opening keyedChat ++ admission keyedChat) ++ (servedTrace keyedChat).drop 9) _ :=
    (serve_local keyedChat rfl rfl).reaches
  obtain ⟨calling, locks, rest⟩ := served.stop
  have opened : (lockWorld Bool).Serves (fun _ _ => True) false noLocks (opening keyedChat)
      (lockedFor 0) := ⟨trivial, _, rfl, trivial, _, locked_at_start, rfl⟩
  have answered := opened.append (served_free (i := false) (t := admission keyedChat) (by decide) _)
  obtain ⟨run, isRun, -, ends, -⟩ := solo_run (p := keyedLocks) (i := false) locks answered
  have next : ∃ next, calling = .call (.chatCompletion (helloRequest false)) next := by
    cases rest with
    | call tail => exact ⟨_, rfl⟩
  refine ⟨run, isRun, ?_⟩
  rw [ends]
  refine ⟨rfl, ⟨?_, ?_, ?_⟩, next, rfl, rfl⟩
  · exact .tail _ (.head _)
  · intro o released
    have unreleased : ∀ e ∈ opening keyedChat ++ admission keyedChat, e.1.kind ≠ .releaseLock := by
      decide
    exact unreleased _ released rfl
  · obtain ⟨next, rfl⟩ := next
    exact fun r ended => by cases ended

/-- The provider takes a minute: the lock expires under the first request, and the second one
takes it. -/
theorem two_requests_hold :
    ¬ ∀ run : List (LockLabel Bool × LockPool Bool),
      IsRun (Step (lockWorld Bool)) keyedLocks run →
      ∀ p ∈ visited keyedLocks run, Excludes helloTenant.tenantId "k" p := by
  intro excludes
  obtain ⟨run, isRun, shared, holds, _, waiting, fresh⟩ := calling_under_lock
  have expired : (lockWorld Bool).passes (final keyedLocks run).shared 60 (lockedFor 60) := by
    rw [shared]
    refine ⟨by norm_num, ?_⟩
    simp [lockedFor, LockState.put]
  have acquired : (true, (lockedFor 60).put helloTenant.tenantId "k" (some ⟨true, 60 + 60⟩)) =
      (lockedFor 60).setNx true helloTenant.tenantId "k" := by
    rw [LockState.setNx, lockedFor_live, if_neg (by norm_num)]
    simp [lockedFor, LockState.put, lockTtlSeconds]
  have second : IsRun (Step (lockWorld Bool)) (final keyedLocks run)
      [(.env 60, _), (.call true noReplay, _), (.call true (lockReply true), _)] :=
    ⟨.env expired, .call waiting rfl, .call rfl acquired, trivial⟩
  have atOnce := excludes _ (isRun.append second) _ (final_mem_visited _ _)
  rw [final_append] at atOnce
  have both := atOnce.1 false true holds ⟨?_, ?_, ?_⟩
  · cases both
  · exact List.mem_append_right _ (.head _)
  · intro o
    change _ ∉ ((final keyedLocks run).history true ++ [noReplay]) ++ [lockReply true]
    rw [fresh]
    simp
  · intro r ended
    cases ended

end Expiry
end AegisGateway.IdempotencyLock
