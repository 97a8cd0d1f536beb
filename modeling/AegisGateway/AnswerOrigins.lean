import AegisGateway.AnswerSources
import AegisGateway.TenantQuotas

set_option autoImplicit false

/-!
# Where the answers of a run are from

Any requests of any tenants over one Redis. A text that a command reads was sent by an earlier
one. So each JSON answer, and each chunk of a cached stream, goes back to what the provider
answered to a request of the same tenant, and the headers say on which way it came.
-/
namespace AegisGateway.AnswerOrigins
open EffectProgram TransitionRuns ProgramPool CellStore RedisCommands TenantIsolation RequestCalls
open RunAccounts ProviderGates RejectedRequests TenantQuotas AnswerSources

section Texts
variable {ι : Type}

def textOf : Option Entry → Option String
  | some ⟨.text s, _⟩ => some s
  | _ => none

/-- A command that stores the text under the key has been sent. -/
def SetBy (p : TenantPool ι) (key text : String) : Prop :=
  ∃ j nx ex o, (⟨.redis (.set key text nx ex), o⟩ : WireEvent) ∈ p.history j

/-- Every text in Redis and every text that was read has been sent. -/
structure TextsSent (p : TenantPool ι) : Prop where
  stored : ∀ key text, textOf (p.shared.cells key) = some text → SetBy p key text
  read : ∀ i key text, (⟨.redis (.get key), .ok (.answered (.ok (some text)))⟩ : WireEvent) ∈
    p.history i → SetBy p key text

theorem textOf_eq {entry : Option Entry} {text : String} (h : textOf entry = some text) :
    ∃ expiresAt, entry = some ⟨.text text, expiresAt⟩ := by
  rcases entry with _ | ⟨s | n | x | b, expiresAt⟩
  case some.text =>
    cases h
    exact ⟨expiresAt, rfl⟩
  all_goals cases h

theorem textOf_live {entry : Option Entry} {now : ℚ} {text : String}
    (h : textOf (entry.filter (Entry.live now)) = some text) : textOf entry = some text := by
  obtain ⟨expiresAt, live⟩ := textOf_eq h
  obtain ⟨rfl, -⟩ := Option.filter_eq_some_iff.mp live
  rfl

theorem runBudget_text {increment limit now : ℚ} {entry : Option Entry} {stored : Option ℚ}
    {text : String} (h : textOf (runBudget increment limit now entry stored).2 = some text) :
    textOf entry = some text := by
  rw [runBudget] at h
  dsimp only at h
  split at h
  · cases left : (BudgetCounter.budgetLua stored increment limit).2 with
    | none =>
      rw [left] at h
      cases h
    | some x =>
      rw [left] at h
      cases h
  · exact h

theorem runLive_text {entry : Option Entry} {now : ℚ} {cmd : RedisCommand} {text : String}
    (h : textOf (runLive now entry cmd).2 = some text) :
    textOf entry = some text ∨ ∃ nx ex, cmd = .set cmd.key text nx ex := by
  cases cmd with
  | get key =>
    refine .inl ?_
    rcases entry with _ | ⟨s | n | x | b, expiresAt⟩ <;> exact h
  | set key value nx ex =>
    rw [runLive] at h
    split at h
    · exact .inl h
    · split at h
      · exact .inl h
      · cases h
        exact .inr ⟨nx, ex, rfl⟩
  | delete key => cases h
  | incr key | decr key =>
    rcases entry with _ | ⟨s | n | x | b, expiresAt⟩
    case some.text => exact .inl h
    all_goals cases h
  | expire key seconds =>
    rcases entry with _ | ⟨s | n | x | b, expiresAt⟩
    case some.text => exact .inl h
    all_goals cases h
  | tokenBucketScript key args =>
    rcases entry with _ | ⟨s | n | x | b, expiresAt⟩
    case some.text => exact .inl h
    all_goals cases h
  | budgetScript key increment limit =>
    rcases entry with _ | ⟨s | n | x | b, expiresAt⟩
    case none => exact .inl (runBudget_text h)
    case some.text => exact .inl h
    case some.amount => exact .inl (runBudget_text h)
    all_goals cases h

theorem runLive_get {entry entry' : Option Entry} {now : ℚ} {key text : String}
    (h : (.ok (some text), entry') = runLive now entry (.get key)) : textOf entry = some text := by
  rcases entry with _ | ⟨s | n | x | b, expiresAt⟩
  case some.text =>
    cases h
    rfl
  all_goals cases h

theorem answered_text {redis redis' : RedisStore} {op : WireOp} {o : Except Exn (WireRet op)}
    {key text : String} (answered : redisCells.Answers redis op o redis')
    (h : textOf (redis'.cells key) = some text) :
    textOf (redis.cells key) = some text ∨ ∃ nx ex, op = .redis (.set key text nx ex) := by
  by_cases mine : key ∈ redisCells.key op
  · cases op with
    | outside op => cases mine
    | redis cmd =>
      obtain ⟨entry, ran, rfl⟩ := answered
      obtain rfl : cmd.key = key := Option.some.inj mine
      change textOf (Function.update redis.cells cmd.key entry cmd.key) = some text at h
      rw [Function.update_self] at h
      have sent (left : entry = (run redis.now (redis.cells cmd.key) cmd).2) :
          textOf (redis.cells cmd.key) = some text ∨
            ∃ nx ex, WireOp.redis cmd = .redis (.set cmd.key text nx ex) := by
        rw [left] at h
        rcases runLive_text h with kept | ⟨nx, ex, set⟩
        · exact .inl (textOf_live kept)
        · exact .inr ⟨nx, ex, congrArg _ set⟩
      rcases o with exc | result | ⟨exc, carriedOut⟩
      · exact ran.elim
      · exact sent (congrArg Prod.snd ran)
      · cases carriedOut with
        | true => exact sent ran
        | false =>
          rw [show entry = redis.cells cmd.key from ran] at h
          exact .inl h
  · rw [answered.frame mine] at h
    exact .inl h

theorem answered_get {redis redis' : RedisStore} {key text : String}
    (answered : redisCells.Answers redis (.redis (.get key)) (.ok (.answered (.ok (some text)))) redis') :
    textOf (redis.cells key) = some text := by
  obtain ⟨entry, ran, -⟩ := answered
  exact textOf_live (runLive_get ran)

/-- A Redis without texts. -/
def Blank (redis : RedisStore) : Prop := ∀ key, textOf (redis.cells key) = none

theorem start_readsBack {config : GatewayConfig} {requests : ι → ChatRequest} {redis : RedisStore}
    (blank : Blank redis) : TextsSent (tenantPool config requests redis) where
  stored key text stored := by
    have none : textOf (redis.cells key) = none := blank key
    change textOf (redis.cells key) = some text at stored
    rw [none] at stored
    cases stored
  read i key text mem := by cases mem

variable [DecidableEq ι]

theorem SetBy.step {p q : TenantPool ι} {l : TenantLabel ι} {key text : String} (h : SetBy p key text)
    (step : TenantStep ι p l q) : SetBy q key text := by
  obtain ⟨j, nx, ex, o, mem⟩ := h
  exact ⟨j, nx, ex, o, step.history_mono j mem⟩

theorem TextsSent.step {p q : TenantPool ι} {l : TenantLabel ι} (h : TextsSent p)
    (step : TenantStep ι p l q) : TextsSent q := by
  cases l with
  | env duration =>
    cases step with
    | env moved =>
      constructor
      case stored =>
        intro key text stored
        exact h.stored key text (by rwa [moved] at stored)
      case read => exact h.read
  | call i e =>
    have answered : redisCells.Answers p.shared e.1 e.2 q.shared := Step.answered step
    constructor
    case stored =>
      intro key text stored
      rcases answered_text answered stored with before | ⟨nx, ex, set⟩
      · exact (h.stored key text before).step step
      · obtain ⟨op, o⟩ := e
        cases set
        refine ⟨i, nx, ex, o, ?_⟩
        rw [history_called step, Function.update_self]
        exact List.mem_append_right _ (.head _)
    case read =>
      intro j key text mem
      rcases mem_history_called step mem with before | ⟨rfl, rfl⟩
      · exact (h.read j key text before).step step
      · exact (h.stored key text (answered_get answered)).step step

theorem TextsSent.run {p : TenantPool ι} {run : TenantRun ι} (h : TextsSent p)
    (isRun : IsRun (TenantStep ι) p run) : TextsSent (final p run) :=
  isRun.always (I := TextsSent) (fun _ _ _ held step => held.step step) h _ (final_mem_visited p run)

end Texts

section Commands

/-- The call that a SET is part of. -/
def partOf (op : GatewayOp) : WireOp → Prop
  | .redis (.set key text _ ex) =>
    (∃ tenantId idempotencyKey, op = .tryAcquireLock tenantId idempotencyKey ∧
      key = lockKey tenantId idempotencyKey) ∨
    (∃ tenantId idempotencyKey, op = .storeResponse tenantId idempotencyKey text ∧
      key = responseKey tenantId idempotencyKey) ∨
    op = .storeCachedCompletion key text ex
  | .redis _ => True
  | .outside op' => op = op'

theorem redis_part {op : GatewayOp} {cmd : RedisCommand} (part : partOf op (.redis cmd)) :
    (redis cmd).Uses (partOf op) := redis_uses part

theorem commands_part (op : GatewayOp) : (commands op).Uses (partOf op) := by
  have dropped {cmd : RedisCommand} (part : partOf op (.redis cmd)) :
      (redis cmd >>= fun _ => pure () : WireProg Unit).Uses (partOf op) :=
    (redis_part part).bind fun _ => trivial
  cases op with
  | getCachedResponse tenantId key => exact redis_part trivial
  | tryAcquireLock tenantId key => exact redis_part (.inl ⟨tenantId, key, rfl, rfl⟩)
  | releaseLock tenantId key => exact dropped trivial
  | storeResponse tenantId key text => exact dropped (.inr (.inl ⟨tenantId, key, rfl, rfl⟩))
  | checkTokenBucket key capacity refillPerSecond cost => exact redis_part trivial
  | checkAndReserveBudget key increment limit => exact redis_part trivial
  | acquireConcurrencySlot tenantId limit =>
    have incr : partOf (.acquireConcurrencySlot tenantId limit)
        (.redis (.incr (concurrencyKey tenantId))) := trivial
    have decr : partOf (.acquireConcurrencySlot tenantId limit)
        (.redis (.decr (concurrencyKey tenantId))) := trivial
    refine (redis_part incr).bind fun current => Prog.Uses.bind ?_ fun _ => ?_
    · rw [expireFirst]
      split
      · exact dropped trivial
      · trivial
    · split
      · exact (redis_part decr).bind fun _ => trivial
      · trivial
  | releaseConcurrencySlot tenantId => exact dropped trivial
  | getCachedCompletion key => exact redis_part trivial
  | storeCachedCompletion key text ttlSeconds => exact dropped (.inr (.inr rfl))
  | _ => exact Prog.uses_perform rfl

end Commands

section Origins
variable {ι : Type} (config : GatewayConfig) (requests : ι → ChatRequest) (p : TenantPool ι)

/-- The request has made the call, with this answer. -/
def Called (i : ι) (e : GatewayEvent) : Prop := (⟨.outside e.1, e.2⟩ : WireEvent) ∈ p.history i

/-- The text was made of what the provider answered to the request. -/
def OwnAnswer (i : ι) (text : String) : Prop :=
  ∃ body response, Asks (requests i) body ∧ FromProvider (Called p i) body response ∧
    Called p i ⟨.modelDumpJson response, .ok text⟩

/-- The response was made of what the provider answered to a request of the same tenant, whose body
has the same cache key. -/
def CachedAnswer (i : ι) (response : ChatCompletionResponse) : Prop :=
  ∃ body j body' made, Asks (requests i) body ∧ tenantOf requests j = tenantOf requests i ∧
    Asks (requests j) body' ∧
    computeCacheKey config.lib (tenantOf requests i) body' =
      computeCacheKey config.lib (tenantOf requests i) body ∧
    FromProvider (Called p j) body' made ∧
    ∃ text, Called p j ⟨.modelDumpJson made, .ok text⟩ ∧ config.lib.modelValidateJson text = some response

def CacheHit (i : ι) (text : String) : Prop :=
  ∃ response, CachedAnswer config requests p i response ∧ Called p i ⟨.modelDumpJson response, .ok text⟩

/-- The text is what a request of the same tenant with the same idempotency key got. -/
def ReplayedAnswer (i : ι) (text : String) : Prop :=
  ∃ key j, (requests i).key = some key ∧ (requests j).key = some key ∧
    tenantOf requests j = tenantOf requests i ∧
    (OwnAnswer requests p j text ∨ CacheHit config requests p j text)

variable {config requests p}

theorem same_key {lib : Libraries} {a b : Uuid} {k k' : RedisKey} (h : k.text lib a = k'.text lib b) :
    a = b ∧ k.family = k'.family := by
  obtain ⟨-, rfl, -⟩ := text_parts h
  exact ⟨rfl, families_differ h⟩

theorem event_traced (followed : Followed (fun i => serveWire config (requests i)) p) {i : ι}
    {e : WireEvent} (mem : e ∈ p.history i) :
    ∃ op past, partOf op e.1 ∧ CarriedOut commands past (p.history i) ∧
      Placed config (requests i) op ∧ sourced config (requests i) past op := by
  obtain ⟨before, after, history⟩ := List.append_of_mem mem
  have reaches := followed i
  rw [history] at reaches
  obtain ⟨op, past, part, carried, placed, permitted⟩ := reached_permitted (expand_history commands_part
    (uses_and_history (serve_within config (requests i)) (serve_sourced config (requests i)))) reaches
  refine ⟨op, past, part, carried.grow ?_, placed, permitted⟩
  rw [history]
  exact List.subset_append_left _ _

section Carried
variable {i : ι} {past : List GatewayEvent} (carried : CarriedOut commands past (p.history i))
include carried

theorem carried_dump {response : ChatCompletionResponse} {text : String}
    (mem : (⟨.modelDumpJson response, .ok text⟩ : GatewayEvent) ∈ past) :
    Called p i ⟨.modelDumpJson response, .ok text⟩ := by
  obtain ⟨part, run, among⟩ := carried _ mem
  rw [runs_perform run] at among
  exact among (.head _)

theorem carried_provider {body : ChatCompletionRequest} {e : GatewayEvent}
    (called : providerBody e.1 = some body) (mem : e ∈ past) : Called p i e := by
  obtain ⟨part, run, among⟩ := carried e mem
  obtain ⟨op, o⟩ := e
  cases op with
  | chatCompletion body =>
    rw [runs_perform run] at among
    exact among (.head _)
  | streamChatCompletion body =>
    rw [runs_perform run] at among
    exact among (.head _)
  | _ => cases called

theorem missed_own {text : String} (missed : Missed (requests i) past text) :
    OwnAnswer requests p i text := by
  obtain ⟨body, response, asks, made, dumped⟩ := missed
  refine ⟨body, response, asks, ?_, carried_dump carried dumped⟩
  exact made.imp fun e called mem => carried_provider carried called mem

end Carried

theorem response_stored (followed : Followed (fun i => serveWire config (requests i)) p)
    {tenantId : Uuid} {key text : String} (set : SetBy p (responseKey tenantId key) text) :
    ∃ j past, tenantOf requests j = tenantId ∧ (requests j).key = some key ∧
      CarriedOut commands past (p.history j) ∧
      (Missed (requests j) past text ∨ Hit config (requests j) past text) := by
  obtain ⟨j, nx, ex, o, mem⟩ := set
  obtain ⟨op, past, part, carried, placed, permitted⟩ := event_traced followed mem
  rcases part with ⟨tenantId', key', rfl, same⟩ | ⟨tenantId', key', rfl, same⟩ | rfl
  · have apart := (@same_key config.lib _ _ (.response key) (.lock key') same).2
    cases apart
  · obtain ⟨rfl, keyed⟩ := placed
    obtain rfl := (@same_key config.lib _ _ (.response key) (.response key') same).1
    obtain rfl := responseKey_inj same
    exact ⟨j, past, rfl, keyed, carried, permitted⟩
  · obtain ⟨body, response, -, same, -⟩ := permitted
    have apart := (@same_key config.lib _ _ (.response key) (.completion body) same).2
    cases apart

theorem completion_stored (followed : Followed (fun i => serveWire config (requests i)) p)
    {tenantId : Uuid} {body : ChatCompletionRequest} {text : String}
    (set : SetBy p (computeCacheKey config.lib tenantId body) text) :
    ∃ j body' made, tenantOf requests j = tenantId ∧ Asks (requests j) body' ∧
      computeCacheKey config.lib tenantId body' = computeCacheKey config.lib tenantId body ∧
      FromProvider (Called p j) body' made ∧ Called p j ⟨.modelDumpJson made, .ok text⟩ := by
  obtain ⟨j, nx, ex, o, mem⟩ := set
  obtain ⟨op, past, part, carried, placed, permitted⟩ := event_traced followed mem
  rcases part with ⟨tenantId', key', rfl, same⟩ | ⟨tenantId', key', rfl, same⟩ | rfl
  · have apart := (@same_key config.lib _ _ (.completion body) (.lock key') same).2
    cases apart
  · have apart := (@same_key config.lib _ _ (.completion body) (.response key') same).2
    cases apart
  · obtain ⟨body', made, asks, same, given, dumped⟩ := permitted
    obtain rfl := (@same_key config.lib _ _ (.completion body) (.completion body') same).1
    refine ⟨j, body', made, rfl, asks, same.symm, given.imp fun e called mem => ?_, ?_⟩
    · exact carried_provider carried called mem
    · exact carried_dump carried dumped

theorem found_cached (followed : Followed (fun i => serveWire config (requests i)) p)
    (reads : TextsSent p) {i : ι} {past : List GatewayEvent}
    (carried : CarriedOut commands past (p.history i)) {response : ChatCompletionResponse}
    (found : Found config (requests i) past response) : CachedAnswer config requests p i response := by
  obtain ⟨body, raw, asks, mem, parsed⟩ := found
  obtain ⟨part, run, among⟩ := carried _ mem
  rw [runs_redis run] at among
  obtain ⟨j, body', made, mine, asks', same, given, dumped⟩ :=
    completion_stored followed (reads.read i _ raw (among (.head _)))
  exact ⟨body, j, body', made, asks, mine, asks', same, given, raw, dumped, parsed⟩

theorem handed_on (followed : Followed (fun i => serveWire config (requests i)) p)
    (reads : TextsSent p) {i : ι} {past : List GatewayEvent}
    (carried : CarriedOut commands past (p.history i)) {text : String}
    (handed : Missed (requests i) past text ∨ Hit config (requests i) past text) :
    OwnAnswer requests p i text ∨ CacheHit config requests p i text := by
  rcases handed with missed | ⟨response, found, dumped⟩
  · exact .inl (missed_own carried missed)
  · exact .inr ⟨response, found_cached followed reads carried found, carried_dump carried dumped⟩

theorem replayed_answer (followed : Followed (fun i => serveWire config (requests i)) p)
    (reads : TextsSent p) {i : ι} {past : List GatewayEvent}
    (carried : CarriedOut commands past (p.history i)) {text : String}
    (replayed : Replayed (requests i) past text) : ReplayedAnswer config requests p i text := by
  obtain ⟨key, keyed, mem⟩ := replayed
  obtain ⟨part, run, among⟩ := carried _ mem
  rw [runs_redis run] at among
  obtain ⟨j, past', mine, keyed', carried', handed⟩ :=
    response_stored followed (reads.read i _ text (among (.head _)))
  exact ⟨key, j, keyed, keyed', mine, handed_on followed reads carried' handed⟩

variable [DecidableEq ι]

/-- In every run, a JSON answer is what the headers say: made of the provider's answer to the request
itself, made of its answer to a request of the same tenant whose body has the same cache key, or
what a request of the same tenant with the same idempotency key got in one of these ways. A chunk
that is streamed is one of the provider's, or stands for a cached answer. -/
theorem answers_traced (config : GatewayConfig) (requests : ι → ChatRequest) (redis : RedisStore)
    (blank : Blank redis) (run : TenantRun ι)
    (isRun : IsRun (TenantStep ι) (tenantPool config requests redis) run) (i : ι) :
    (∀ content headers, (final (tenantPool config requests redis) run).threads i =
      .done (.ok (.json content headers)) →
      headers = [("X-Cache", "miss")] ∧
        OwnAnswer requests (final (tenantPool config requests redis) run) i content ∨
      headers = [("X-Cache", "hit")] ∧
        CacheHit config requests (final (tenantPool config requests redis) run) i content ∨
      headers = [("Idempotency-Replayed", "true")] ∧
        ReplayedAnswer config requests (final (tenantPool config requests redis) run) i content) ∧
    ∀ value o, (⟨.outside (.yieldFrame (.chunk value)), o⟩ : WireEvent) ∈
      (final (tenantPool config requests redis) run).history i →
      (∃ body stream, Asks (requests i) body ∧
        Called (final (tenantPool config requests redis) run) i
          ⟨.streamChatCompletion body, .ok stream⟩ ∧ value ∈ stream.chunks) ∨
      ∃ response, CachedAnswer config requests (final (tenantPool config requests redis) run) i
        response ∧ value = cachedChunk response := by
  have followed := (start_followed redis fun i => serveWire config (requests i)).run isRun
  have reads : TextsSent (final (tenantPool config requests redis) run) :=
    (start_readsBack blank).run isRun
  constructor
  · intro content headers ended
    have reaches := followed i
    rw [show (final (Pool.start redis fun i => serveWire config (requests i)) run).threads i = _
      from ended] at reaches
    obtain ⟨past, carried, labelled⟩ := reached_ended
      (expand_history commands_part (serve_sourced config (requests i))) reaches
    rcases labelled with ⟨label, missed⟩ | ⟨label, response, found, dumped⟩ | ⟨label, replayed⟩
    · exact .inl ⟨label, missed_own carried missed⟩
    · have cached := found_cached followed reads carried found
      exact .inr (.inl ⟨label, response, cached, carried_dump carried dumped⟩)
    · exact .inr (.inr ⟨label, replayed_answer followed reads carried replayed⟩)
  · intro value o mem
    obtain ⟨op, past, part, carried, -, permitted⟩ := event_traced followed mem
    cases part
    rcases permitted with ⟨body, stream, asks, started, among⟩ | ⟨response, found, rfl⟩
    · exact .inl ⟨body, stream, asks, carried_provider carried rfl started, among⟩
    · exact .inr ⟨response, found_cached followed reads carried found, rfl⟩

end Origins

section OneAnswer

/-- From the provider's answer on. -/
def answeredTrace : List GatewayEvent :=
  ⟨.chatCompletion (helloRequest false), .ok helloResponse⟩ ::
    ⟨.releaseConcurrencySlot helloTenantId, .ok ()⟩ ::
    ⟨.metric (.providerCallDuration "ollama" .success), .ok ()⟩ :: (booking (helloChat false none) ++
      [⟨.modelDumpJson helloResponse, .ok helloDump⟩])

theorem served_parts : servedTrace (helloChat false none) =
    (admission (helloChat false none)).take 6 ++
      (⟨.acquireConcurrencySlot helloTenantId 5, .ok true⟩ :: answeredTrace) := rfl

theorem served_sent : Runs (serveWire helloConfig (helloChat false none))
    ((servedTrace (helloChat false none)).flatMap paidSent)
    (.ok (.json helloDump [("X-Cache", "miss")])) := by
  refine Runs.expand (serve_local (helloChat false none) rfl rfl) ?_
  rw [served_parts]
  simp only [admission, answeredTrace, booking, List.take, List.cons_append, List.nil_append, List.forall_mem_cons]
  exact ⟨.call (.done _), .call (.done _), .call (.done _), .call (.done _), .call (.done _),
    .call (.done _), .call (.call (.done _)), .call (.done _), .call (.done _), .call (.done _),
    .call (.done _), .call (.done _), .call (.done _), .call (.done _), .call (.done _),
    .call (.done _), .call (.done _), .call (.done _), by simp⟩

theorem served_served : ∃ redis, (redisCells.world Unit).Serves (fun _ _ => True) () emptyRedis
    ((servedTrace (helloChat false none)).flatMap paidSent) redis := by
  have admitted : (redisCells.world Unit).Serves (fun _ _ => True) () emptyRedis
      (((admission (helloChat false none)).take 6).flatMap paidSent) paidBuckets :=
    ⟨trivial, _, rfl, trivial, _, rfl, trivial, _, rfl, trivial, _, rfl, trivial, _, paid_rpm,
      trivial, _, paid_tpm, rfl⟩
  have answered : ∃ redis, (redisCells.world Unit).Serves (fun _ _ => True) ()
      (paidSlots 1 (some (paidBuckets.now + 300)) (paidSlots 1 none paidBuckets))
      (answeredTrace.flatMap paidSent) redis :=
    ⟨_, trivial, _, rfl, trivial, _, slot_released paidBuckets, trivial, _, rfl, trivial, _, rfl,
      trivial, _, rfl, trivial, _, rfl, trivial, _, rfl, trivial, _, rfl, trivial, _, rfl, trivial, _,
      rfl, trivial, _, rfl, rfl⟩
  obtain ⟨redis, served⟩ := answered
  exact ⟨redis, admitted.append ((slot_taken paidBuckets_free).append served)⟩

theorem answers_traced_served :
    ∃ run : TenantRun Unit,
      IsRun (TenantStep Unit) (onePool helloConfig (helloChat false none) emptyRedis) run ∧
      OwnAnswer (fun _ => helloChat false none)
        (final (onePool helloConfig (helloChat false none) emptyRedis) run) () helloDump := by
  obtain ⟨redis, served⟩ := served_served
  obtain ⟨run, isRun, -, ends, -⟩ := solo_run
    (p := onePool helloConfig (helloChat false none) emptyRedis) (i := ()) served_sent.reaches served
  have ended : (final (onePool helloConfig (helloChat false none) emptyRedis) run).threads () =
      .done (.ok (.json helloDump [("X-Cache", "miss")])) := by
    rw [ends]
    rfl
  refine ⟨run, isRun, ?_⟩
  rcases (answers_traced helloConfig (fun _ => helloChat false none) emptyRedis (fun _ => rfl) run isRun
    ()).1 _ _ ended with ⟨-, own⟩ | ⟨label, -⟩ | ⟨label, -⟩
  · exact own
  · exact absurd label (by decide)
  · exact absurd label (by decide)

end OneAnswer
end AegisGateway.AnswerOrigins
