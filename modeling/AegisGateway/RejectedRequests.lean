import AegisGateway.BudgetRejections

set_option autoImplicit false

/-!
# The budget counter under rejected requests

The requests run side by side over one Redis. What a request adds to a counter is summed
over its own steps. A rejected request adds nothing to its tenant's budget, as long as the slot
is free when it has reserved.
-/
namespace AegisGateway.RejectedRequests
open EffectProgram TransitionRuns ProgramPool CellStore RedisCommands TenantIsolation BudgetRejections

section Counters

def liveEntry (redis : RedisStore) (key : String) : Option Entry :=
  (redis.cells key).filter (Entry.live redis.now)

/-- The amount on a budget counter. A key that has expired counts nothing. -/
def counter (redis : RedisStore) (key : String) : ℚ :=
  match liveEntry redis key with
  | some ⟨.amount x, _⟩ => x
  | _ => 0

/-- The number on a concurrency counter. -/
def inFlight (redis : RedisStore) (key : String) : ℤ :=
  match liveEntry redis key with
  | some ⟨.counter n, _⟩ => n
  | _ => 0

theorem liveEntry_put_self (redis : RedisStore) (key : String) (entry : Option Entry) :
    liveEntry (redis.put key entry) key = entry.filter (Entry.live redis.now) := by
  simp [liveEntry, Store.put]

theorem liveEntry_put_other {redis : RedisStore} {key key' : String} (apart : key ≠ key')
    (entry : Option Entry) : liveEntry (redis.put key' entry) key = liveEntry redis key := by
  simp [liveEntry, Store.put, apart]

theorem answered_live {redis : RedisStore} {cmd : RedisCommand} {entry entry' : Option Entry}
    {result : Except Exn (RedisRet cmd)} (live : liveEntry redis cmd.key = entry)
    (ran : runLive redis.now entry cmd = (result, entry')) :
    redisCells.Answers redis (.redis cmd) (.ok (.answered result)) (redis.put cmd.key entry') := by
  refine ⟨entry', ?_, rfl⟩
  change (result, entry') = runLive redis.now (liveEntry redis cmd.key) cmd
  rw [live, ran]

theorem counter_of_live {redis redis' : RedisStore} {key : String}
    (same : liveEntry redis' key = liveEntry redis key) : counter redis' key = counter redis key := by
  rw [counter, counter, same]

theorem denied_live {now : ℚ} {entry entry' : Option Entry} {key : String} {increment cap : ℚ}
    {result : TokenBucket.LimitResult} (denied : result.allowed = false)
    (ran : (.ok result, entry') = run now entry (.budgetScript key increment cap)) :
    entry' = entry.filter (Entry.live now) := by
  have script (live : Option Entry) (stored : Option ℚ)
      (ran : (.ok result, entry') = runBudget increment cap now live stored) : entry' = live := by
    simp only [runBudget, Prod.mk.injEq, Except.ok.injEq] at ran
    obtain ⟨reply, left⟩ := ran
    rw [← reply, denied] at left
    simpa using left
  rw [run] at ran
  generalize entry.filter (Entry.live now) = live at ran ⊢
  rcases live with _ | ⟨value, expiresAt⟩
  · exact script _ _ ran
  · cases value with
    | amount x => exact script _ _ ran
    | _ => cases ran

theorem unreserved_counter {redis redis' : RedisStore} {op : WireOp} {o : Except Exn (WireRet op)}
    (answered : redisCells.Answers redis op o redis') (permitted : wirePermits op)
    (unreserved : wireReserves ⟨op, o⟩ = false) (tenantId : Uuid) (month : String) :
    counter redis' (budgetKey tenantId month) = counter redis (budgetKey tenantId month) := by
  apply counter_of_live
  rw [liveEntry, liveEntry, answered.now]
  by_cases mine : budgetKey tenantId month ∈ redisCells.key op
  · cases op with
    | outside op => cases mine
    | redis cmd =>
      have key : cmd.key = budgetKey tenantId month := Option.some.inj mine
      obtain ⟨entry, effect, rfl⟩ := answered
      rw [← key]
      change (Function.update redis.cells cmd.key entry cmd.key).filter _ = _
      rw [Function.update_self]
      cases cmd with
      | budgetScript script increment cap =>
        rcases o with exc | result | ⟨exc, carriedOut⟩
        · cases unreserved
        · cases result with
          | error exc => cases unreserved
          | ok result =>
            rw [denied_live unreserved effect, Option.filter_filter]
            simp
        · cases unreserved
      | _ => exact absurd key (permitted tenantId month)
  · rw [answered.frame mine]

end Counters

section Runs
variable {ι : Type}

abbrev TenantRun (ι : Type) := List (TenantLabel ι × TenantPool ι)

/-- What the steps of one request add to a counter, all in all. -/
def ownChange [DecidableEq ι] (key : String) (i : ι) : TenantPool ι → TenantRun ι → ℚ
  | _, [] => 0
  | p, (.call j _, q) :: rest =>
    (if j = i then counter q.shared key - counter p.shared key else 0) + ownChange key i q rest
  | _, (.env _, q) :: rest => ownChange key i q rest

/-- The request may have reserved budget by now. -/
def HasReserved (p : TenantPool ι) (i : ι) : Prop := (p.history i).any wireReserves = true

/-- A request that counts itself in after it has reserved finds a slot free. -/
def FindsSlotFree (requests : ι → ChatRequest) (i : ι) (p : TenantPool ι) : TenantLabel ι → Prop
  | .call j ⟨.redis (.incr key), _⟩ =>
    j = i → HasReserved p i → inFlight p.shared key < (requests i).tenant.maxConcurrentRequests
  | _ => True

/-- The packages raise exceptions of their own only. -/
def ForeignOnly : TenantPool ι → TenantLabel ι → Prop := Pool.Meets fun _ e => wireForeign e = true

variable {config : GatewayConfig} {requests : ι → ChatRequest} {redis : RedisStore} {i : ι}

def reservation (p : TenantPool ι) (i : ι) : WireReservation :=
  p.monitored wireMonitor (fun _ => ⟨false, []⟩) i

def RequestsTracked (requests : ι → ChatRequest) (p : TenantPool ι) : Prop :=
  p.Tracked wireMonitor (fun i => WireAccounted (requests i).tenant.maxConcurrentRequests)
    fun _ => ⟨false, []⟩

theorem reservation_spent (p : TenantPool ι) (i : ι) :
    (reservation p i).spent = (p.history i).any wireReserves := by
  have past (history : List WireEvent) (w : WireReservation) :
      (wireMonitor.after w history).spent = (w.spent || history.any wireReserves) := by
    induction history generalizing w with
    | nil => simp [Monitor.after]
    | cons e rest ih =>
      have step := ih (wireMonitor.advance w e.1 e.2)
      rw [List.any_cons, ← Bool.or_assoc]
      exact step
  exact (past _ _).trans (Bool.false_or _)

theorem start_tracked : RequestsTracked requests (tenantPool config requests redis) :=
  Pool.start_tracked fun i => serveWire_accounted config (requests i)

theorem incr_answered {redis redis' : RedisStore} {key : String} {o : Except Exn (Reply ℤ)}
    (answered : redisCells.Answers redis (.redis (.incr key)) o redis') :
    ∀ current ∈ incrAnswer ⟨.redis (.incr key), o⟩, current = inFlight redis key + 1 := by
  obtain ⟨entry, effect, rfl⟩ := answered
  rcases o with exc | result | ⟨exc, carriedOut⟩
  · simp [incrAnswer]
  · cases result with
    | error exc => simp [incrAnswer]
    | ok current =>
      have ran : (Except.ok current, entry) = addTo 1 (liveEntry redis key) := effect
      rw [inFlight]
      generalize liveEntry redis key = live at ran ⊢
      rcases live with _ | ⟨value, expiresAt⟩
      · cases ran
        simp [incrAnswer]
      · cases value with
        | counter n =>
          cases ran
          simp [incrAnswer]
        | _ => cases ran
  · simp [incrAnswer]

/-- The INCRs of the request after its reservation were answered within its limit. -/
def CountsFit (requests : ι → ChatRequest) (i : ι) (p : TenantPool ι) : Prop :=
  ∀ current ∈ (reservation p i).counts, current ≤ (requests i).tenant.maxConcurrentRequests

theorem foreign_granted (s : RedisStore) (i : ι) (op : WireOp) (o : Except Exn (WireRet op))
    (s' : RedisStore) (w : WireReservation)
    (answered : ((redisCells.world ι).given fun e => wireForeign e = true).answer s i op o s') :
    wireMonitor.answers w op o := answered.2

variable [DecidableEq ι]

abbrev TenantStep (ι : Type) [DecidableEq ι] := Step (redisCells.world ι) (α := Answer)

abbrev ForeignStep (ι : Type) [DecidableEq ι] :=
  Step ((redisCells.world ι).given fun e => wireForeign e = true) (α := Answer)

theorem foreign_run {p : TenantPool ι} {run : TenantRun ι} (isRun : IsRun (TenantStep ι) p run)
    (packages : StepsMeet ForeignOnly p run) : IsRun (ForeignStep ι) p run :=
  isRun.meeting (fun _ _ _ step meets => step.given meets) packages

theorem countsFit_step {p q : TenantPool ι} {l : TenantLabel ι} (tracked : RequestsTracked requests p)
    (fit : CountsFit requests i p) (room : FindsSlotFree requests i p l)
    (step : ForeignStep ι p l q) : RequestsTracked requests q ∧ CountsFit requests i q := by
  obtain ⟨tracked', ⟨j, op, o, rfl, _, ⟨answered, _⟩, moved⟩ | ⟨k, rfl, _, still⟩⟩ :=
    step_cases foreign_granted tracked step
  · refine ⟨tracked', ?_⟩
    have views : reservation q = Function.update (reservation p) j
      (wireMonitor.advance (reservation p j) op o) := moved
    rw [CountsFit, views]
    by_cases mine : j = i
    · subst mine
      rw [Function.update_self]
      intro current mem
      simp only [wireMonitor] at mem
      split at mem
      · rename_i spent
        rcases List.mem_append.mp mem with new | old
        · rw [reservation_spent] at spent
          cases op with
          | outside op => cases new
          | redis cmd =>
            cases cmd with
            | incr key =>
              have found := incr_answered answered current new
              have free := room rfl spent
              omega
            | _ => cases new
        · exact fit current old
      · exact fit current mem
    · rw [Function.update_of_ne (Ne.symm mine)]
      exact fit
  · have views : reservation q = reservation p := still
    rw [CountsFit, views]
    exact ⟨tracked', fit⟩

theorem countsFit_run {p : TenantPool ι} {run : TenantRun ι} (isRun : IsRun (ForeignStep ι) p run)
    (room : StepsMeet (FindsSlotFree requests i) p run) (tracked : RequestsTracked requests p)
    (fit : CountsFit requests i p) :
    RequestsTracked requests (final p run) ∧ CountsFit requests i (final p run) :=
  isRun.invariant (fun _ _ _ held free step => countsFit_step held.1 held.2 free step) room
    ⟨tracked, fit⟩ _ (final_mem_visited p run)

theorem history_kept {p : TenantPool ι} {run : TenantRun ι} (isRun : IsRun (ForeignStep ι) p run)
    {e : WireEvent} (mem : e ∈ p.history i) : e ∈ (final p run).history i :=
  isRun.always (I := fun q => e ∈ q.history i) (fun _ _ _ held step => step.history_mono i held)
    mem _ (final_mem_visited p run)

theorem ownChange_unreserved {p : TenantPool ι} {run : TenantRun ι}
    (isRun : IsRun (ForeignStep ι) p run) (tracked : RequestsTracked requests p)
    (unreserved : ∀ e ∈ (final p run).history i, wireReserves e = false) (tenantId : Uuid)
    (month : String) : ownChange (budgetKey tenantId month) i p run = 0 := by
  induction run generalizing p with
  | nil => rfl
  | cons head rest ih =>
    obtain ⟨l, q⟩ := head
    obtain ⟨step, later⟩ := isRun
    obtain ⟨tracked', moves⟩ := step_cases foreign_granted tracked step
    have rests := ih later tracked' unreserved
    rcases moves with ⟨j, op, o, rfl, permitted, ⟨answered, _⟩, _⟩ | ⟨k, rfl, _, _⟩
    · rw [ownChange, rests, add_zero]
      split
      · rename_i mine
        have mem : (⟨op, o⟩ : WireEvent) ∈ q.history i := by
          cases step with
          | call head answered =>
            subst mine
            simp
        have silent := unreserved _ (history_kept later mem)
        rw [unreserved_counter answered permitted silent, sub_self]
      · rfl
    · exact rests

/-- A request that is rejected by a limiter leaves its tenant's budget as it was, as far as its own
steps go, whenever it finds a slot free once it has reserved. -/
theorem rejected_spends_nothing (config : GatewayConfig) (requests : ι → ChatRequest)
    (redis : RedisStore) (i : ι) (run : TenantRun ι)
    (isRun : IsRun (TenantStep ι) (tenantPool config requests redis) run)
    (packages : StepsMeet ForeignOnly (tenantPool config requests redis) run)
    (room : StepsMeet (FindsSlotFree requests i) (tenantPool config requests redis) run)
    (exc : HttpException) (rejection : LimitRejection exc)
    (rejected : (final (tenantPool config requests redis) run).threads i = .done (.error (.http exc)))
    (month : String) :
    ownChange (budgetKey (tenantOf requests i) month) i (tenantPool config requests redis) run = 0 := by
  have foreignRun := foreign_run isRun packages
  obtain ⟨tracked, fit⟩ := countsFit_run foreignRun room start_tracked (by simp [CountsFit, reservation,
    Pool.monitored, tenantPool, Pool.start, Monitor.after])
  have accounted := (tracked i).2
  rw [rejected] at accounted
  have unspent : (reservation (final (tenantPool config requests redis) run) i).spent = false := by
    rcases accounted exc rfl rejection with unspent | ⟨current, mem, above⟩
    · exact unspent
    · have within := fit current mem
      omega
  rw [reservation_spent, List.any_eq_false] at unspent
  refine ownChange_unreserved foreignRun start_tracked (fun e mem => ?_) _ month
  simpa using unspent e mem

theorem ownChange_alone {p : TenantPool ι} {run : TenantRun ι} {t : List WireEvent}
    (labels : run.map Prod.fst = t.map (.call i)) (key : String) :
    ownChange key i p run = counter (final p run).shared key - counter p.shared key := by
  induction run generalizing p t with
  | nil => exact (sub_self _).symm
  | cons head rest ih =>
    obtain ⟨l, q⟩ := head
    cases t with
    | nil => cases labels
    | cons e t =>
      rw [List.map_cons, List.map_cons, List.cons.injEq] at labels
      obtain ⟨rfl, later⟩ := labels
      rw [ownChange, if_pos rfl, ih later]
      change _ = counter (final q rest).shared key - _
      ring

end Runs

section OneRequest

/-- The commands and calls that carry out a call, where five of five slots are taken. -/
def sent : GatewayEvent → List WireEvent
  | ⟨.checkTokenBucket key capacity refillPerSecond cost, o⟩ =>
    [⟨.redis (.tokenBucketScript key ⟨capacity, refillPerSecond, cost⟩), .ok (.answered o)⟩]
  | ⟨.checkAndReserveBudget key increment cap, o⟩ =>
    [⟨.redis (.budgetScript key increment cap), .ok (.answered o)⟩]
  | ⟨.acquireConcurrencySlot tenantId _, _⟩ =>
    [⟨.redis (.incr (concurrencyKey tenantId)), .ok (.answered (.ok (6 : ℤ)))⟩,
      ⟨.redis (.decr (concurrencyKey tenantId)), .ok (.answered (.ok (5 : ℤ)))⟩]
  | ⟨op, o⟩ => [⟨.outside op, o⟩]

/-- The refusal of the requests per minute. -/
def drainedTrace : List GatewayEvent :=
  (admission (helloChat false none)).take 4 ++
    [⟨.checkTokenBucket (rpmBucketKey helloTenantId) 60 (60 / 60) 1, .ok ⟨false, 0⟩⟩,
      ⟨.metric (.rateLimitRejections "rate_limit_exceeded"), .ok ()⟩,
      ⟨.metric (.chatCompletions "ollama" .rateLimited), .ok ()⟩]

theorem drained_runs : Runs (serve helloConfig (helloChat false none)) drainedTrace
    (.error (.http (rateLimitHttpException (rpmExceeded helloTenant)))) := by
  have resolved : resolve helloConfig.providers (helloChat false none).body.model = .ok "ollama" := by
    change resolve ["ollama"] "llama3" = _
    decide
  have counted : Runs (countPromptTokens (helloChat false none).body.messages
      (helloChat false none).body.model) ((admission (helloChat false none)).take 4) (.ok 8) :=
    .call (.call (.call (.call (.done _))))
  have limited : Runs (enforceLimits (helloChat false none) "ollama" 8) (drainedTrace.drop 4)
      (.error (.http (rateLimitHttpException (rpmExceeded helloTenant)))) :=
    .call (.call (.call (.done _)))
  have processed : Runs (process helloConfig (helloChat false none)) drainedTrace
      (.error (.http (rateLimitHttpException (rpmExceeded helloTenant)))) := by
    rw [process, resolved]
    exact counted.bind (limited.raised _)
  exact Runs.raised processed _

/-- The requests of this minute are used up. -/
def drainedRedis : RedisStore where
  cells key := if key = rpmBucketKey helloTenantId then some ⟨.bucket ⟨0, 0⟩, some 3600⟩ else none
  now := 0

def onePool (config : GatewayConfig) (request : ChatRequest) (redis : RedisStore) : TenantPool Unit :=
  tenantPool config (fun _ => request) redis

theorem sent_runs {request : ChatRequest} {config : GatewayConfig} {t : List GatewayEvent}
    {r : Except Exn Answer} (runs : Runs (serve config request) t r)
    (carried : ∀ e ∈ t, Runs (commands e.1) (sent e) e.2) :
    Runs (serveWire config request) (t.flatMap sent) r := runs.expand carried

theorem drained_sent : Runs (serveWire helloConfig (helloChat false none)) (drainedTrace.flatMap sent)
    (.error (.http (rateLimitHttpException (rpmExceeded helloTenant)))) := by
  refine sent_runs drained_runs ?_
  simp only [drainedTrace, admission, List.take, List.cons_append, List.nil_append,
    List.forall_mem_cons]
  exact ⟨.call (.done _), .call (.done _), .call (.done _), .call (.done _), .call (.done _),
    .call (.done _), .call (.done _), by simp⟩

/-- The event is of the packages, and no INCR. -/
def Uncounted (e : WireEvent) : Prop := wireForeign e = true ∧ ∀ key, e.1 ≠ .redis (.incr key)

theorem drained_served : ∃ redis, (redisCells.world Unit).Serves (fun _ e => Uncounted e) ()
    drainedRedis (drainedTrace.flatMap sent) redis := by
  have denied : TokenBucket.tokenBucketLua (some ⟨0, 0⟩) ⟨60, 60 / 60, 1⟩ 0 =
      (⟨false, 0⟩, ⟨0, 0⟩) := by
    norm_num [TokenBucket.tokenBucketLua, TokenBucket.refill]
  have live : liveEntry drainedRedis (rpmBucketKey helloTenantId) =
      some ⟨.bucket ⟨0, 0⟩, some 3600⟩ := by
    simp [liveEntry, drainedRedis, Entry.live]
  have refused : redisCells.Answers drainedRedis
      (.redis (.tokenBucketScript (rpmBucketKey helloTenantId) ⟨60, 60 / 60, 1⟩))
      (.ok (.answered (.ok ⟨false, 0⟩))) (drainedRedis.put (rpmBucketKey helloTenantId)
        (some ⟨.bucket ⟨0, 0⟩, some (0 + bucketKeyTtlSeconds)⟩)) := by
    refine answered_live live ?_
    change runTokenBucket ⟨60, 60 / 60, 1⟩ 0 (some ⟨0, 0⟩) = _
    rw [runTokenBucket, denied]
  have uncounted (op : GatewayOp) (o : Except Exn (GatewayRet op)) (other : raisesForeign ⟨op, o⟩ = true) :
      Uncounted ⟨.outside op, o⟩ := ⟨other, by simp⟩
  refine ⟨_, uncounted _ _ rfl, _, rfl, uncounted _ _ rfl, _, rfl, uncounted _ _ rfl, _, rfl,
    uncounted _ _ rfl, _, rfl, ⟨rfl, by simp⟩, _, refused, uncounted _ _ rfl, _, rfl,
    uncounted _ _ rfl, _, rfl, rfl⟩

theorem rejected_spends_nothing_drained :
    ∃ run : TenantRun Unit, IsRun (TenantStep Unit) (onePool helloConfig (helloChat false none)
      drainedRedis) run ∧
      (final (onePool helloConfig (helloChat false none) drainedRedis) run).threads () =
        .done (.error (.http (rateLimitHttpException (rpmExceeded helloTenant)))) ∧
      ∀ month, ownChange (budgetKey helloTenantId month) ()
        (onePool helloConfig (helloChat false none) drainedRedis) run = 0 := by
  obtain ⟨redis, served⟩ := drained_served
  obtain ⟨run, isRun, meets, ends, -⟩ := solo_run (p := onePool helloConfig (helloChat false none)
    drainedRedis) (i := ()) drained_sent.reaches served
  have rejected : (final (onePool helloConfig (helloChat false none) drainedRedis) run).threads () =
      .done (.error (.http (rateLimitHttpException (rpmExceeded helloTenant)))) := by
    rw [ends]
    rfl
  refine ⟨run, isRun, rejected, ?_⟩
  refine rejected_spends_nothing helloConfig (fun _ => helloChat false none) drainedRedis () run isRun
    (meets.mono ?_) (meets.mono ?_) _ ⟨rfl, _, _, rfl⟩ rejected
  · rintro p (⟨j, e⟩ | k) met
    · exact met.1
    · trivial
  · rintro p (⟨j, op, o⟩ | k) met
    · cases op with
      | outside op => trivial
      | redis cmd =>
        cases cmd with
        | incr key => exact absurd rfl (met.2 key)
        | _ => trivial
    · trivial

def pricedConfig : GatewayConfig := { helloConfig with providers := ["openai"] }

def pricedChat : ChatRequest :=
  { helloChat false none with body := { helloRequest false with model := "gpt-4o" } }

def promptCost : ℚ := Pricing.estimatePromptCostUsd "gpt-4o" 8 "openai"

theorem promptCost_eq : promptCost = 1 / 50000 := by
  have found : Pricing.priceFor "gpt-4o" "openai" = ⟨250 / 100, 1000 / 100⟩ := by
    delta Pricing.priceFor
    decide +kernel
  rw [promptCost, Pricing.estimatePromptCostUsd, found]
  norm_num

/-- What the budget script is answered, and what it stores. -/
abbrev reservedAmount : ℚ := BudgetCounter.tostring (0 + promptCost)

theorem promptCost_reserved : BudgetCounter.budgetLua none promptCost helloTenant.monthlyBudgetUsd.value =
    (⟨true, reservedAmount⟩, some reservedAmount) := by
  apply BudgetCounter.budgetLua_allowed
  rw [promptCost_eq]
  norm_num [helloTenant, hundredDollars, Numeric102.value]

theorem reservedAmount_pos : 0 < reservedAmount := by
  have positive : 0 < 0 + promptCost := by
    rw [promptCost_eq]
    norm_num
  exact (SignificantDigits.base_zpow_pos (by norm_num) _).trans_le
    (SignificantDigits.zpow_log_le_roundSig (by norm_num) (by norm_num) positive)

/-- The request passes the three limits and finds no slot. -/
def crowdedTrace : List GatewayEvent :=
  [⟨.encodingForModel "gpt-4o", .ok "o200k_base"⟩, ⟨.encode "o200k_base" "user", .ok (1 : ℕ)⟩,
    ⟨.encode "o200k_base" "hello", .ok (1 : ℕ)⟩,
    ⟨.checkTokenBucket (rpmBucketKey helloTenantId) 60 (60 / 60) 1, .ok ⟨true, 59⟩⟩,
    ⟨.checkTokenBucket (tpmBucketKey helloTenantId) 100000 (100000 / 60) (8 : ℕ), .ok ⟨true, 99992⟩⟩,
    ⟨.utcMonth, .ok "2024-06"⟩,
    ⟨.checkAndReserveBudget (budgetKey helloTenantId "2024-06") promptCost
      helloTenant.monthlyBudgetUsd.value, .ok ⟨true, reservedAmount⟩⟩,
    ⟨.acquireConcurrencySlot helloTenantId 5, .ok false⟩,
    ⟨.metric (.rateLimitRejections "concurrency_limit_exceeded"), .ok ()⟩,
    ⟨.metric (.chatCompletions "openai" .rateLimited), .ok ()⟩]

theorem crowded_runs : Runs (serve pricedConfig pricedChat) crowdedTrace
    (.error (.http (tooManyRequests 5))) := by
  have resolved : resolve pricedConfig.providers pricedChat.body.model = .ok "openai" := by
    change resolve ["openai"] "gpt-4o" = _
    decide
  have counted : Runs (countPromptTokens pricedChat.body.messages pricedChat.body.model)
      (crowdedTrace.take 3) (.ok 8) := .call (.call (.call (.done _)))
  have admitted : Runs (enforceRequestLimits helloTenant "openai" "gpt-4o" 8)
      ((crowdedTrace.drop 3).take 4) (.ok ()) := by
    refine .call (.call ?_)
    change Runs (if promptCost > 0 then _ else _) _ _
    rw [if_pos (by rw [promptCost_eq]; norm_num)]
    exact .call (.call (.done _))
  have limited : Runs (enforceLimits pricedChat "openai" 8) (crowdedTrace.drop 3)
      (.error (.http (tooManyRequests 5))) :=
    (admitted.handle _).bind (.call (.call (.call (.done _))))
  have processed : Runs (process pricedConfig pricedChat) crowdedTrace
      (.error (.http (tooManyRequests 5))) := by
    rw [process, resolved]
    exact counted.bind (limited.raised _)
  exact Runs.raised processed _

theorem crowded_sent : Runs (serveWire pricedConfig pricedChat) (crowdedTrace.flatMap sent)
    (.error (.http (tooManyRequests 5))) := by
  refine sent_runs crowded_runs ?_
  simp only [crowdedTrace, List.forall_mem_cons]
  exact ⟨.call (.done _), .call (.done _), .call (.done _), .call (.done _), .call (.done _),
    .call (.done _), .call (.done _), .call (.call (.done _)), .call (.done _), .call (.done _), by simp⟩

/-- Five of the tenant's five slots are taken. -/
def crowdedRedis : RedisStore where
  cells key := if key = concurrencyKey helloTenantId then some ⟨.counter 5, some 300⟩ else none
  now := 0

theorem keys_apart {k k' : RedisKey} (families : k.family ≠ k'.family) :
    k.text silentLibraries helloTenantId ≠ k'.text silentLibraries helloTenantId :=
  fun same => families (families_differ same)

theorem bucket_answered {redis : RedisStore} {key : String} {args : TokenBucket.BucketArgs}
    {result : TokenBucket.LimitResult} {bucket : TokenBucket.Bucket} (free : liveEntry redis key = none)
    (taken : TokenBucket.tokenBucketLua none args redis.now = (result, bucket)) :
    redisCells.Answers redis (.redis (.tokenBucketScript key args)) (.ok (.answered (.ok result)))
      (redis.put key (some ⟨.bucket bucket, some (redis.now + bucketKeyTtlSeconds)⟩)) := by
  refine answered_live free ?_
  change runTokenBucket args redis.now none = _
  rw [runTokenBucket, taken]

/-- The bucket of the requests, less this one. -/
def crowdedRpm : RedisStore :=
  crowdedRedis.put (rpmBucketKey helloTenantId) (some ⟨.bucket ⟨59, 0⟩, some (0 + bucketKeyTtlSeconds)⟩)

/-- And the bucket of the tokens. -/
def crowdedBuckets : RedisStore :=
  crowdedRpm.put (tpmBucketKey helloTenantId) (some ⟨.bucket ⟨99992, 0⟩, some (0 + bucketKeyTtlSeconds)⟩)

def crowdedBudget : RedisStore :=
  crowdedBuckets.put (budgetKey helloTenantId "2024-06")
    (some ⟨.amount reservedAmount, some (0 + budgetKeyTtlSeconds)⟩)

def withSlots (redis : RedisStore) (slots : ℤ) : RedisStore :=
  redis.put (concurrencyKey helloTenantId) (some ⟨.counter slots, some 300⟩)

theorem crowdedBuckets_live {k : RedisKey} (rpm : k.family ≠ .rpm) (tpm : k.family ≠ .tpm) :
    liveEntry crowdedBuckets (k.text silentLibraries helloTenantId) =
      liveEntry crowdedRedis (k.text silentLibraries helloTenantId) :=
  calc liveEntry crowdedBuckets (k.text silentLibraries helloTenantId)
    _ = liveEntry crowdedRpm (k.text silentLibraries helloTenantId) :=
      liveEntry_put_other (@keys_apart k .tpm tpm) _
    _ = liveEntry crowdedRedis (k.text silentLibraries helloTenantId) :=
      liveEntry_put_other (@keys_apart k .rpm rpm) _

theorem crowded_absent {k : RedisKey} (other : k.family ≠ .concurrency) :
    liveEntry crowdedRedis (k.text silentLibraries helloTenantId) = none := by
  have apart : k.text silentLibraries helloTenantId ≠ concurrencyKey helloTenantId :=
    @keys_apart k .concurrency other
  simp [liveEntry, crowdedRedis, apart]

theorem crowded_reserves : redisCells.Answers crowdedBuckets
    (.redis (.budgetScript (budgetKey helloTenantId "2024-06") promptCost
      helloTenant.monthlyBudgetUsd.value)) (.ok (.answered (.ok ⟨true, reservedAmount⟩)))
    crowdedBudget := by
  have absent : liveEntry crowdedBuckets (budgetKey helloTenantId "2024-06") = none :=
    (@crowdedBuckets_live (.budget "2024-06") (by simp [RedisKey.family]) (by simp [RedisKey.family])).trans
      (@crowded_absent (.budget "2024-06") (by simp [RedisKey.family]))
  refine answered_live absent ?_
  change runBudget promptCost helloTenant.monthlyBudgetUsd.value 0 none none = _
  rw [runBudget, promptCost_reserved]
  rfl

theorem crowded_counts : redisCells.Answers crowdedBudget (.redis (.incr (concurrencyKey helloTenantId)))
    (.ok (.answered (.ok (6 : ℤ)))) (withSlots crowdedBudget 6) := by
  have taken : liveEntry crowdedBudget (concurrencyKey helloTenantId) = some ⟨.counter 5, some 300⟩ :=
    calc liveEntry crowdedBudget (concurrencyKey helloTenantId)
      _ = liveEntry crowdedBuckets (concurrencyKey helloTenantId) :=
        liveEntry_put_other (@keys_apart .concurrency (.budget "2024-06") (by simp [RedisKey.family])) _
      _ = liveEntry crowdedRedis (concurrencyKey helloTenantId) :=
        @crowdedBuckets_live .concurrency (by simp [RedisKey.family]) (by simp [RedisKey.family])
      _ = some ⟨.counter 5, some 300⟩ := by simp [liveEntry, crowdedRedis, Entry.live]
  exact answered_live taken rfl

theorem crowded_uncounts : redisCells.Answers (withSlots crowdedBudget 6)
    (.redis (.decr (concurrencyKey helloTenantId))) (.ok (.answered (.ok (5 : ℤ))))
    (withSlots (withSlots crowdedBudget 6) 5) := by
  have taken : liveEntry (withSlots crowdedBudget 6) (concurrencyKey helloTenantId) =
      some ⟨.counter 6, some 300⟩ := by
    rw [withSlots, liveEntry_put_self]
    simp [Entry.live, crowdedBudget, crowdedBuckets, crowdedRpm, crowdedRedis, Store.put]
  exact answered_live taken rfl

theorem crowded_served : (redisCells.world Unit).Serves (fun _ e => wireForeign e = true) ()
    crowdedRedis (crowdedTrace.flatMap sent) (withSlots (withSlots crowdedBudget 6) 5) := by
  have rpm : redisCells.Answers crowdedRedis
      (.redis (.tokenBucketScript (rpmBucketKey helloTenantId) ⟨60, 60 / 60, 1⟩))
      (.ok (.answered (.ok ⟨true, 59⟩))) crowdedRpm := by
    refine bucket_answered (@crowded_absent .rpm (by simp [RedisKey.family])) ?_
    norm_num [crowdedRedis, TokenBucket.tokenBucketLua, TokenBucket.refill]
  have tpm : redisCells.Answers crowdedRpm
      (.redis (.tokenBucketScript (tpmBucketKey helloTenantId) ⟨100000, 100000 / 60, (8 : ℕ)⟩))
      (.ok (.answered (.ok ⟨true, 99992⟩))) crowdedBuckets := by
    refine bucket_answered ((liveEntry_put_other (@keys_apart .tpm .rpm (by simp [RedisKey.family]))
      _).trans (@crowded_absent .tpm (by simp [RedisKey.family]))) ?_
    norm_num [crowdedRpm, crowdedRedis, Store.put, TokenBucket.tokenBucketLua, TokenBucket.refill]
  exact ⟨rfl, _, rfl, rfl, _, rfl, rfl, _, rfl, rfl, _, rpm, rfl, _, tpm, rfl, _, rfl,
    rfl, _, crowded_reserves, rfl, _, crowded_counts, rfl, _, crowded_uncounts, rfl, _, rfl,
    rfl, _, rfl, rfl⟩

theorem crowded_before : counter crowdedRedis (budgetKey helloTenantId "2024-06") = 0 := by
  have absent : liveEntry crowdedRedis (budgetKey helloTenantId "2024-06") = none :=
    @crowded_absent (.budget "2024-06") (by simp [RedisKey.family])
  rw [counter, absent]

theorem crowded_after : counter (withSlots (withSlots crowdedBudget 6) 5)
    (budgetKey helloTenantId "2024-06") = reservedAmount := by
  have apart : budgetKey helloTenantId "2024-06" ≠ concurrencyKey helloTenantId :=
    @keys_apart (.budget "2024-06") .concurrency (by simp [RedisKey.family])
  have live : liveEntry (withSlots (withSlots crowdedBudget 6) 5) (budgetKey helloTenantId "2024-06") =
      some ⟨.amount reservedAmount, some (0 + budgetKeyTtlSeconds)⟩ := by
    rw [withSlots, liveEntry_put_other apart, withSlots, liveEntry_put_other apart, crowdedBudget,
      liveEntry_put_self]
    norm_num [Entry.live, crowdedBuckets, crowdedRpm, crowdedRedis, Store.put, budgetKeyTtlSeconds]
  rw [counter, live]

/-- The reservation of a request that found no slot stays on the counter. -/
theorem crowded_keeps_reservation :
    ¬ ∀ (config : GatewayConfig) (requests : Unit → ChatRequest) (redis : RedisStore) (i : Unit)
      (run : TenantRun Unit), IsRun (TenantStep Unit) (tenantPool config requests redis) run →
      StepsMeet ForeignOnly (tenantPool config requests redis) run →
      ∀ exc, LimitRejection exc →
        (final (tenantPool config requests redis) run).threads i = .done (.error (.http exc)) →
        ∀ month, ownChange (budgetKey (tenantOf requests i) month) i
          (tenantPool config requests redis) run = 0 := by
  intro free
  obtain ⟨run, isRun, meets, ends, labels⟩ := solo_run (p := onePool pricedConfig pricedChat crowdedRedis)
    (i := ()) crowded_sent.reaches crowded_served
  have rejected : (final (onePool pricedConfig pricedChat crowdedRedis) run).threads () =
      .done (.error (.http (tooManyRequests 5))) := by
    rw [ends]
    rfl
  have unchanged := free pricedConfig (fun _ => pricedChat) crowdedRedis () run isRun meets _
    ⟨rfl, _, _, rfl⟩ rejected "2024-06"
  have kept : ownChange (budgetKey helloTenantId "2024-06") ()
      (onePool pricedConfig pricedChat crowdedRedis) run = reservedAmount - 0 := by
    rw [← crowded_after, ← crowded_before, ownChange_alone labels, ends]
    rfl
  have positive := reservedAmount_pos
  rw [← sub_zero reservedAmount, ← kept] at positive
  exact absurd unchanged positive.ne'

end OneRequest
end AegisGateway.RejectedRequests
