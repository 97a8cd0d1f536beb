import AegisGateway.BucketHistories
import AegisGateway.Metering
import AegisGateway.RejectedRequests
import AegisGateway.RequestCalls
import AegisGateway.RunAccounts

set_option autoImplicit false

/-!
# What a tenant gets through to the providers

The requests of all tenants run side by side over one Redis. Of one tenant's requests, those
that reach a provider have been charged to its buckets and to its budget counter. So in any
window of a run they are no more, count no more tokens and cost no more than the limits say.
-/
namespace AegisGateway.TenantQuotas
open EffectProgram TransitionRuns ProgramPool CellStore RedisCommands TenantIsolation RequestCalls
open RunAccounts BucketHistories ProviderGates RejectedRequests
open TokenBucket (Bucket BucketArgs LimitResult refill tokenBucketLua NoDebt)

section Levels

/-- How far a step moves the clock forward. -/
def elapse {ι : Type} : TenantLabel ι → ℚ
  | .call _ _ => 0
  | .env duration => max 0 duration

/-- How far the clock moves forward in a run, not counting its steps back. -/
def elapsed {ι : Type} (run : TenantRun ι) : ℚ := total elapse run

theorem elapse_nonneg {ι : Type} (l : TenantLabel ι) : 0 ≤ elapse l := by
  cases l with
  | call i e => exact le_refl _
  | env duration => exact le_max_left _ _

def storedBucket : Option Entry → Option Bucket
  | some ⟨.bucket b, _⟩ => some b
  | _ => none

/-- A bucket as the script leaves it, or nothing. -/
def WellKept : Option Entry → Prop
  | none => True
  | some ⟨.bucket b, expiresAt⟩ => expiresAt = some (b.updatedAt + bucketKeyTtlSeconds) ∧ 0 ≤ b.tokens
  | some _ => False

/-- What a bucket holds now, if it refills to its capacity within a minute. -/
def level (capacity : ℚ) (key : String) (redis : RedisStore) : ℚ :=
  refill (storedBucket (redis.cells key)) capacity (capacity / 60) redis.now

/-- What an answered script took from a bucket. -/
def charged (key : String) : WireEvent → ℚ
  | ⟨.redis (.tokenBucketScript k args), .ok (.answered (.ok result))⟩ =>
    if k = key ∧ result.allowed = true then max 0 args.requested else 0
  | _ => 0

theorem charged_nonneg (key : String) (e : WireEvent) : 0 ≤ charged key e := by
  unfold charged
  split
  · split
    · exact le_max_left _ _
    · exact le_refl _
  · exact le_refl _

variable {capacity now : ℚ}

theorem wellKept_noDebt {entry : Option Entry} (kept : WellKept entry) :
    NoDebt (storedBucket entry) := by
  rcases entry with _ | ⟨value, expiresAt⟩
  · trivial
  · cases value with
    | bucket b => exact kept.2
    | _ => trivial

theorem wellKept_live {entry : Option Entry} (kept : WellKept entry) (now : ℚ) :
    WellKept (entry.filter (Entry.live now)) := by
  cases entry with
  | none => trivial
  | some e =>
    rw [Option.filter]
    split
    · exact kept
    · trivial

theorem refill_mono {c : ℚ} (le : c ≤ capacity) (bucket : Option Bucket) :
    refill bucket c (c / 60) now ≤ refill bucket capacity (capacity / 60) now := by
  unfold refill
  have slower : c / 60 ≤ capacity / 60 := div_le_div_of_nonneg_right le (by norm_num)
  refine min_le_min le ?_
  have flow (since : ℚ) : max 0 (now - since) * (c / 60) ≤ max 0 (now - since) * (capacity / 60) :=
    mul_le_mul_of_nonneg_left slower (le_max_left _ _)
  cases bucket with
  | none => exact add_le_add le (flow _)
  | some b => exact add_le_add (le_refl _) (flow _)

theorem refill_live_le {entry : Option Entry} (kept : WellKept entry) (nonneg : 0 ≤ capacity) :
    refill (storedBucket (entry.filter (Entry.live now))) capacity (capacity / 60) now ≤
      refill (storedBucket entry) capacity (capacity / 60) now := by
  rcases entry with _ | ⟨value, expiresAt⟩
  · exact le_refl _
  · cases value with
    | bucket b =>
      obtain ⟨rfl, debtless⟩ := kept
      by_cases idle : b.updatedAt + bucketKeyTtlSeconds ≤ now
      · change _ ≤ refill (some b) capacity (capacity / 60) now
        rw [refill_idle nonneg debtless idle]
        exact TokenBucket.refill_le_capacity _ _ _ _
      · have alive : Entry.live now ⟨.bucket b, some (b.updatedAt + bucketKeyTtlSeconds)⟩ = true := by
          simpa [Entry.live] using idle
        rw [Option.filter, if_pos alive]
    | _ => exact kept.elim

theorem level_nonneg {key : String} {redis : RedisStore} (nonneg : 0 ≤ capacity)
    (kept : WellKept (redis.cells key)) : 0 ≤ level capacity key redis :=
  TokenBucket.refill_nonneg nonneg (by positivity) _ _ (wellKept_noDebt kept)

theorem level_tick {key : String} {redis : RedisStore} (nonneg : 0 ≤ capacity) (duration : ℚ) :
    level capacity key { redis with now := redis.now + duration } ≤
      level capacity key redis + capacity / 60 * max 0 duration := by
  have flow : 0 ≤ capacity / 60 * max 0 duration := mul_nonneg (by positivity) (le_max_left _ _)
  unfold level refill
  dsimp only
  rw [min_add]
  refine min_le_min (by linarith) ?_
  have passed (since : ℚ) : max 0 (redis.now + duration - since) ≤
      max 0 (redis.now - since) + max 0 duration := by
    refine max_le (add_nonneg (le_max_left _ _) (le_max_left _ _)) ?_
    have before := le_max_right 0 (redis.now - since)
    have after := le_max_right 0 duration
    linarith
  cases storedBucket (redis.cells key) with
  | none =>
    dsimp only
    rw [sub_self, sub_self, max_self]
    linarith
  | some b =>
    dsimp only
    have faster := mul_le_mul_of_nonneg_right (passed b.updatedAt) (by positivity : 0 ≤ capacity / 60)
    linarith

theorem script_runs {key : String} {args : BucketArgs} {live : Option Entry} (kept : WellKept live) :
    runLive now live (.tokenBucketScript key args) = runTokenBucket args now (storedBucket live) := by
  rcases live with _ | ⟨value, expiresAt⟩
  · rfl
  · cases value with
    | bucket b => rfl
    | _ => exact kept.elim

theorem refill_left (tokens : ℚ) :
    refill (some ⟨tokens, now⟩) capacity (capacity / 60) now ≤ tokens := by
  have le := TokenBucket.refill_stored_le ⟨tokens, now⟩ capacity (capacity / 60) now
  dsimp only at le
  rwa [sub_self, max_self, zero_mul, add_zero] at le

theorem level_script {key : String} {entry entry' : Option Entry} {c n : ℤ}
    {result : Except Exn LimitResult} (kept : WellKept entry) (room : 0 ≤ c) (le : (c : ℚ) ≤ capacity)
    (cost : 0 ≤ n) (ran : (result, entry') = run now entry (.tokenBucketScript key ⟨c, c / 60, n⟩)) :
    WellKept entry' ∧ refill (storedBucket entry') capacity (capacity / 60) now +
        charged key ⟨.redis (.tokenBucketScript key ⟨c, c / 60, n⟩), .ok (.answered result)⟩ ≤
      refill (storedBucket entry) capacity (capacity / 60) now := by
  have hc : (0 : ℚ) ≤ c := by exact_mod_cast room
  have hn : (0 : ℚ) ≤ n := by exact_mod_cast cost
  have noDebt := wellKept_noDebt (wellKept_live kept now)
  rw [run, script_runs (wellKept_live kept now)] at ran
  generalize live_eq : storedBucket (entry.filter (Entry.live now)) = bucket at ran noDebt
  have held : refill bucket c (c / 60) now ≤ refill (storedBucket entry) capacity (capacity / 60) now := by
    rw [← live_eq]
    exact (refill_mono le _).trans (refill_live_le kept (hc.trans le))
  have bounds := (TokenBucket.tokenBucketLua_bounds hc (by positivity : (0 : ℚ) ≤ c / 60) bucket n now hn
    noDebt).1
  obtain ⟨updated, -, cases⟩ := TokenBucket.tokenBucketLua_cases bucket ⟨c, c / 60, n⟩ now
  rw [runTokenBucket] at ran
  generalize tokenBucketLua bucket ⟨c, c / 60, n⟩ now = reply at ran bounds updated cases
  obtain ⟨⟨allowed, remaining⟩, ⟨tokens, updatedAt⟩⟩ := reply
  dsimp only at updated cases bounds
  subst updated
  cases ran
  refine ⟨⟨rfl, bounds⟩, ?_⟩
  have left := @refill_left capacity updatedAt tokens
  rcases cases with ⟨rfl, _, rest⟩ | ⟨rfl, _, rest⟩
  · have took : charged key ⟨.redis (.tokenBucketScript key ⟨c, c / 60, n⟩),
        .ok (.answered (.ok ⟨true, remaining⟩))⟩ = n := by
      simp [charged, hn]
    change refill (some ⟨tokens, updatedAt⟩) _ _ _ + _ ≤ _
    rw [took]
    linarith
  · have took : charged key ⟨.redis (.tokenBucketScript key ⟨c, c / 60, n⟩),
        .ok (.answered (.ok ⟨false, remaining⟩))⟩ = 0 := by
      simp [charged]
    change refill (some ⟨tokens, updatedAt⟩) _ _ _ + _ ≤ _
    rw [took]
    linarith

theorem level_effect {key : String} {entry entry' : Option Entry} {c n : ℤ}
    {o : Except Exn (Reply LimitResult)} (kept : WellKept entry) (room : 0 ≤ c)
    (le : (c : ℚ) ≤ capacity) (cost : 0 ≤ n)
    (ran : effect now entry (.redis (.tokenBucketScript key ⟨c, c / 60, n⟩)) o entry') :
    WellKept entry' ∧ refill (storedBucket entry') capacity (capacity / 60) now +
        charged key ⟨.redis (.tokenBucketScript key ⟨c, c / 60, n⟩), o⟩ ≤
      refill (storedBucket entry) capacity (capacity / 60) now := by
  rcases o with exc | result | ⟨exc, carriedOut⟩
  · exact ran.elim
  · exact level_script kept room le cost ran
  · have silent : charged key ⟨.redis (.tokenBucketScript key ⟨c, c / 60, n⟩),
        .ok (.lost exc carriedOut)⟩ = 0 := rfl
    rw [silent, add_zero]
    have left : entry' = if carriedOut then
      (run now entry (.tokenBucketScript key ⟨c, c / 60, n⟩)).2 else entry := ran
    rw [left]
    split
    · obtain ⟨kept', lowered⟩ := @level_script capacity now key entry _ c n _ kept room le cost rfl
      exact ⟨kept', le_trans (le_add_of_nonneg_right (charged_nonneg _ _)) lowered⟩
    · exact ⟨kept, le_refl _⟩

end Levels

section Buckets
variable {ι : Type} {config : GatewayConfig} {requests : ι → ChatRequest} {key : String} {capacity : ℚ}

/-- Whatever the requests do with the key is a charge within the capacity. -/
def ChargedOnly (config : GatewayConfig) (requests : ι → ChatRequest) (key : String) (capacity : ℚ) :
    Prop :=
  ∀ i cmd, Sent config (requests i) cmd → cmd.key = key →
    ∃ c n : ℤ, 0 ≤ c ∧ c ≤ capacity ∧ 0 ≤ n ∧ cmd = .tokenBucketScript key ⟨c, c / 60, n⟩

/-- The requests go on as they may, and the bucket is as the script leaves it. -/
structure BucketKept (config : GatewayConfig) (requests : ι → ChatRequest) (key : String)
    (p : TenantPool ι) : Prop where
  uses : EachUses (fun i => WirePlaced config (requests i)) p
  kept : WellKept (p.shared.cells key)

variable [DecidableEq ι]

theorem bucket_called (only : ChargedOnly config requests key capacity) {p q : TenantPool ι} {i : ι}
    {e : WireEvent} (held : BucketKept config requests key p) (step : TenantStep ι p (.call i e) q) :
    WellKept (q.shared.cells key) ∧ level capacity key q.shared + charged key e ≤
      level capacity key p.shared := by
  have placed := held.uses.called step
  have answered : redisCells.Answers p.shared e.1 e.2 q.shared := Step.answered step
  rw [level, answered.now]
  obtain ⟨op, o⟩ := e
  by_cases mine : key ∈ redisCells.key op
  · cases op with
    | outside op => cases mine
    | redis cmd =>
      obtain ⟨c, n, room, le, cost, rfl⟩ := only i cmd placed (Option.some.inj mine)
      obtain ⟨entry, ran, shared⟩ := answered
      rw [shared, Store.put]
      change WellKept (Function.update p.shared.cells key entry key) ∧
        refill (storedBucket (Function.update p.shared.cells key entry key)) _ _ _ + _ ≤ _
      rw [Function.update_self]
      exact level_effect held.kept room le cost ran
  · have silent : charged key ⟨op, o⟩ = 0 := by
      unfold charged
      split
      · rename_i k args result same
        cases same
        rw [if_neg]
        rintro ⟨rfl, _⟩
        exact mine rfl
      · rfl
    rw [answered.frame mine, silent, add_zero]
    exact ⟨held.kept, le_refl _⟩

theorem bucket_step (only : ChargedOnly config requests key capacity) (nonneg : 0 ≤ capacity)
    (s : Finset ι) {p q : TenantPool ι} {l : TenantLabel ι} (held : BucketKept config requests key p)
    (step : TenantStep ι p l q) :
    BucketKept config requests key q ∧
      level capacity key q.shared + spent (charged key) s q ≤
        level capacity key p.shared + spent (charged key) s p + capacity / 60 * elapse l := by
  have uses := held.uses.step step
  cases l with
  | call i e =>
    obtain ⟨kept, lowered⟩ := bucket_called only held step
    refine ⟨⟨uses, kept⟩, ?_⟩
    rw [spent_call step]
    change _ ≤ _ + capacity / 60 * 0
    have charge := charged_nonneg key e
    split <;> linarith
  | env duration =>
    have moved : q.shared = { p.shared with now := p.shared.now + duration } := by
      cases step with
      | env moved => exact moved
    rw [spent_env step, moved]
    refine ⟨⟨uses, ?_⟩, ?_⟩
    · rw [moved]
      exact held.kept
    · have raised := @level_tick capacity key p.shared nonneg duration
      change _ ≤ _ + capacity / 60 * max 0 duration
      linarith

/-- In any window, what was taken from a bucket by requests that began in it is at most the
capacity and what has been refilled. -/
theorem bucket_window (only : ChargedOnly config requests key capacity) (nonneg : 0 ≤ capacity)
    {p : TenantPool ι} {before window : TenantRun ι} (held : BucketKept config requests key p)
    (isRun : IsRun (TenantStep ι) p (before ++ window)) {s : Finset ι}
    (fresh : ∀ i ∈ s, (final p before).history i = []) :
    spent (charged key) s (final p (before ++ window)) ≤ capacity + capacity / 60 * elapsed window := by
  have early : IsRun (TenantStep ι) p before := run_earlier isRun
  have opened : BucketKept config requests key (final p before) :=
    early.always (I := BucketKept config requests key)
      (fun _ _ _ held step => (bucket_step only nonneg ∅ held step).1) held _ (final_mem_visited p before)
  obtain ⟨closed, bounded⟩ := potential_le (I := fun q _ => BucketKept config requests key q)
    (fun q => level capacity key q.shared + spent (charged key) s q) (capacity / 60) elapse_nonneg
    (fun _ _ _ _ _ held step => bucket_step only nonneg s held step) isRun.later opened
  have full : level capacity key (final p before).shared ≤ capacity :=
    TokenBucket.refill_le_capacity _ _ _ _
  have left := level_nonneg nonneg closed.kept
  rw [spent_fresh fresh] at bounded
  rw [final_append, elapsed]
  linarith

end Buckets

section Keys
variable {config : GatewayConfig} {request : ChatRequest} {cmd : RedisCommand} {a : Uuid}

/-- The families of the keys that a request sends the command for. -/
def families : RedisCommand → List KeyFamily
  | .get _ => [.response, .completion]
  | .set _ _ _ _ => [.lock, .response, .completion]
  | .delete _ => [.lock]
  | .incr _ | .decr _ | .expire _ _ => [.concurrency]
  | .tokenBucketScript _ _ => [.rpm, .tpm]
  | .budgetScript _ _ _ => [.budget]

theorem sent_key (sent : Sent config request cmd) :
    ∃ k : RedisKey, cmd.key = k.text config.lib request.tenant.tenantId ∧ k.family ∈ families cmd := by
  cases sent with
  | @getResponse key keyed => exact ⟨.response key, rfl, .head _⟩
  | getCompletion body => exact ⟨.completion body, rfl, .tail _ (.head _)⟩
  | @takeLock key keyed => exact ⟨.lock key, rfl, .head _⟩
  | @storeResponse key keyed response => exact ⟨.response key, rfl, .tail _ (.head _)⟩
  | storeCompletion body response => exact ⟨.completion body, rfl, .tail _ (.tail _ (.head _))⟩
  | @dropLock key keyed => exact ⟨.lock key, rfl, .head _⟩
  | countIn => exact ⟨.concurrency, rfl, .head _⟩
  | countOut => exact ⟨.concurrency, rfl, .head _⟩
  | renewCount => exact ⟨.concurrency, rfl, .head _⟩
  | bucket charge =>
    cases charge with
    | rpm => exact ⟨.rpm, rfl, .head _⟩
    | tpm promptTokens => exact ⟨.tpm, rfl, .tail _ (.head _)⟩
  | budget reservation =>
    cases reservation with
    | estimate month model promptTokens providerName => exact ⟨.budget month, rfl, .head _⟩

theorem sent_on {k : RedisKey} (sent : Sent config request cmd)
    (on : cmd.key = k.text config.lib a) :
    request.tenant.tenantId = a ∧ k.family ∈ families cmd := by
  obtain ⟨k', key, family⟩ := sent_key sent
  obtain ⟨-, rfl, -⟩ := text_parts (key.symm.trans on)
  refine ⟨rfl, ?_⟩
  rw [← families_differ (key.symm.trans on)]
  exact family

theorem sent_on_rpm (sent : Sent config request cmd) (on : cmd.key = rpmBucketKey a) :
    request.tenant.tenantId = a ∧ cmd = .tokenBucketScript (rpmBucketKey a)
      ⟨request.tenant.rateLimitRpm, request.tenant.rateLimitRpm / 60, (1 : ℤ)⟩ := by
  obtain ⟨rfl, family⟩ := @sent_on _ _ _ _ .rpm sent on
  refine ⟨rfl, ?_⟩
  cases sent with
  | bucket charge =>
    cases charge with
    | rpm => rfl
    | tpm promptTokens =>
      have same := @families_differ config.lib request.tenant.tenantId .tpm .rpm on
      cases same
  | _ => exact absurd family (by simp [families, RedisKey.family])

theorem sent_on_tpm (sent : Sent config request cmd) (on : cmd.key = tpmBucketKey a) :
    request.tenant.tenantId = a ∧ ∃ promptTokens : ℕ, cmd = .tokenBucketScript (tpmBucketKey a)
      ⟨request.tenant.rateLimitTpm, request.tenant.rateLimitTpm / 60, (promptTokens : ℤ)⟩ := by
  obtain ⟨rfl, family⟩ := @sent_on _ _ _ _ .tpm sent on
  refine ⟨rfl, ?_⟩
  cases sent with
  | bucket charge =>
    cases charge with
    | tpm promptTokens => exact ⟨promptTokens, rfl⟩
    | rpm =>
      have same := @families_differ config.lib request.tenant.tenantId .rpm .tpm on
      cases same
  | _ => exact absurd family (by simp [families, RedisKey.family])

end Keys

section Forwarding
variable {ι : Type} {config : GatewayConfig} {requests : ι → ChatRequest}

/-- The call that is no Redis command stands for itself. -/
def source : WireOp → Option GatewayOp
  | .redis _ => none
  | .outside op => some op

/-- The request has called a provider. -/
def Forwarded (p : TenantPool ι) (i : ι) : Prop :=
  ∃ e ∈ p.history i, ∃ op ∈ source e.1, ∃ body, providerBody op = some body

theorem redis_stands (op : GatewayOp) (cmd : RedisCommand) :
    (redis cmd).Uses fun op' => ∀ op₀ ∈ source op', op₀ = op :=
  redis_uses fun op₀ mem => by cases mem

theorem commands_stand (op : GatewayOp) :
    (commands op).Uses fun op' => ∀ op₀ ∈ source op', op₀ = op := by
  have dropped (cmd : RedisCommand) : (redis cmd >>= fun _ => pure () : WireProg Unit).Uses
      fun op' => ∀ op₀ ∈ source op', op₀ = op := (redis_stands op cmd).bind fun _ => trivial
  cases op with
  | getCachedResponse tenantId key => exact redis_stands _ _
  | tryAcquireLock tenantId key => exact redis_stands _ _
  | releaseLock tenantId key => exact dropped _
  | storeResponse tenantId key responseJson => exact dropped _
  | checkTokenBucket key capacity refillPerSecond cost => exact redis_stands _ _
  | checkAndReserveBudget key increment limit => exact redis_stands _ _
  | acquireConcurrencySlot tenantId limit =>
    refine (redis_stands _ _).bind fun current => Prog.Uses.bind ?_ fun _ => ?_
    · rw [expireFirst]
      split
      · exact dropped _
      · trivial
    · split
      · exact (redis_stands _ _).bind fun _ => trivial
      · trivial
  | releaseConcurrencySlot tenantId => exact dropped _
  | getCachedCompletion key => exact redis_stands _ _
  | storeCachedCompletion key responseJson ttlSeconds => exact dropped _
  | _ =>
    refine Prog.uses_perform fun op₀ mem => ?_
    cases mem
    rfl

theorem called_gated {request : ChatRequest} {before after : List WireEvent} {op : GatewayOp}
    {o : Except Exn (GatewayRet op)} {q : WireProg Answer} {body : ChatCompletionRequest}
    (reaches : Reaches (serveWire config request) (before ++ ⟨.outside op, o⟩ :: after) q)
    (called : providerBody op = some body) :
    ∃ past, CarriedOut commands past before ∧ Gated config request past body := by
  obtain ⟨op₀, past, part, carried, permitted⟩ := reached_permitted
    (expand_history commands_stand (serve_permitted config request)) reaches
  rw [part op rfl] at called
  exact ⟨past, carried, (permitted body called).1⟩

theorem forwarded_gated {p : TenantPool ι} {i : ι}
    (followed : Followed (fun i => serveWire config (requests i)) p) (forwarded : Forwarded p i) :
    ∃ past body, CarriedOut commands past (p.history i) ∧ Gated config (requests i) past body := by
  obtain ⟨⟨wire, o⟩, mem, op, stands, body, called⟩ := forwarded
  obtain ⟨before, after, history⟩ := List.append_of_mem mem
  have reaches := followed i
  rw [history] at reaches
  cases wire with
  | redis cmd => cases stands
  | outside op' =>
    cases stands
    obtain ⟨past, carried, gated⟩ := called_gated reaches called
    refine ⟨past, body, carried.grow ?_, gated⟩
    rw [history]
    exact List.subset_append_left _ _

theorem allowed_charged {past : List GatewayEvent} {new : List WireEvent} {key : String}
    {capacity cost : ℤ} {refillPerSecond : ℚ} (carried : CarriedOut commands past new)
    (allowed : Allowed past key capacity refillPerSecond cost) :
    ∃ e ∈ new, (cost : ℚ) ≤ charged key e := by
  obtain ⟨result, ok, mem⟩ := allowed
  obtain ⟨part, run, among⟩ := carried _ mem
  rw [runs_redis run] at among
  refine ⟨_, among (.head _), ?_⟩
  rw [charged, if_pos ⟨rfl, ok⟩]
  exact le_max_right _ _

end Forwarding

section Tokens
variable {tok : Metering.Tokenizer} {request : ChatRequest} {past : List GatewayEvent}
  {new : List WireEvent}

def WireGave (tok : Metering.Tokenizer) : WireEvent → Prop
  | ⟨.outside op, o⟩ => tok.Gave ⟨op, o⟩
  | ⟨.redis _, _⟩ => True

/-- The prompt tokens of a request. -/
def promptCharge (tok : Metering.Tokenizer) (request : ChatRequest) : ℕ :=
  (request.body.messages.map (Metering.charge tok (tok.encodingFor request.body.model))).sum +
    tokensPerReplyPrimer

theorem carried_tokenizer (carried : CarriedOut commands past new) {e : GatewayEvent} (mem : e ∈ past)
    (kind : e.1.kind = .tokenizer) : (⟨.outside e.1, e.2⟩ : WireEvent) ∈ new := by
  obtain ⟨part, run, among⟩ := carried e mem
  obtain ⟨op, o⟩ := e
  have alone : part = [⟨.outside op, o⟩] := by
    cases op with
    | encodingForModel model => exact runs_perform run
    | getEncoding name => exact runs_perform run
    | encode encoding text => exact runs_perform run
    | _ => cases kind
  exact among (by rw [alone]; exact .head _)

theorem counted_charge (carried : CarriedOut commands past new) (gave : ∀ e ∈ new, WireGave tok e)
    {promptTokens : ℕ} (ran : RanIn past (countPromptTokens request.body.messages request.body.model)
      promptTokens) : promptTokens = promptCharge tok request := by
  obtain ⟨part, inside, run⟩ := ran
  refine Metering.countPromptTokens_value run fun e mem => ?_
  have kind := (countPromptTokens_uses _ _).of_runs run e mem
  exact gave _ (carried_tokenizer carried (inside.subset mem) (List.mem_singleton.mp kind))

end Tokens

section OnePaidRequest

/-- Each text is one token. -/
def oneToken : Metering.Tokenizer := ⟨fun _ => some "o200k_base", fun _ _ => 1⟩

/-- The request passes the three limits, takes the slot and reaches the provider. -/
def paidTrace : List GatewayEvent :=
  crowdedTrace.take 7 ++
    [⟨.acquireConcurrencySlot helloTenantId 5, .ok true⟩,
      ⟨.chatCompletion pricedChat.body, .error .cancelled⟩,
      ⟨.releaseConcurrencySlot helloTenantId, .ok ()⟩]

theorem paid_runs : Runs (serve pricedConfig pricedChat) paidTrace (.error .cancelled) := by
  have resolved : resolve pricedConfig.providers pricedChat.body.model = .ok "openai" := by
    change resolve ["openai"] "gpt-4o" = _
    decide
  have counted : Runs (countPromptTokens pricedChat.body.messages pricedChat.body.model)
      (paidTrace.take 3) (.ok 8) := .call (.call (.call (.done _)))
  have admitted : Runs (enforceRequestLimits helloTenant "openai" "gpt-4o" 8)
      ((paidTrace.drop 3).take 4) (.ok ()) := by
    refine .call (.call ?_)
    change Runs (if promptCost > 0 then _ else _) _ _
    rw [if_pos (by rw [promptCost_eq]; norm_num)]
    exact .call (.call (.done _))
  have limited : Runs (enforceLimits pricedChat "openai" 8) ((paidTrace.drop 3).take 5) (.ok ()) :=
    (admitted.handle _).bind (.call (.done _))
  have answered : Runs (answer pricedConfig pricedChat "openai" pricedChat.body 8) (paidTrace.drop 8)
      (.error .cancelled) := .call (.call (.done _))
  have screened : Runs (screen pricedConfig pricedChat "openai") [] (.ok pricedChat.body) := .done _
  have processed : Runs (process pricedConfig pricedChat) paidTrace (.error .cancelled) := by
    rw [process, resolved]
    exact counted.bind (limited.bind (screened.bind answered))
  exact Runs.raised processed _

/-- The commands that carry out a call, where the slot is free. -/
def paidSent : GatewayEvent → List WireEvent
  | ⟨.acquireConcurrencySlot tenantId _, _⟩ =>
    [⟨.redis (.incr (concurrencyKey tenantId)), .ok (.answered (.ok (1 : ℤ)))⟩,
      ⟨.redis (.expire (concurrencyKey tenantId) concurrencyKeyTtlSeconds), .ok (.answered (.ok true))⟩]
  | ⟨.releaseConcurrencySlot tenantId, _⟩ =>
    [⟨.redis (.decr (concurrencyKey tenantId)), .ok (.answered (.ok (0 : ℤ)))⟩]
  | e => sent e

theorem paid_sent : Runs (serveWire pricedConfig pricedChat) (paidTrace.flatMap paidSent)
    (.error .cancelled) := by
  refine Runs.expand paid_runs ?_
  simp only [paidTrace, crowdedTrace, List.take, List.cons_append, List.nil_append,
    List.forall_mem_cons]
  exact ⟨.call (.done _), .call (.done _), .call (.done _), .call (.done _), .call (.done _),
    .call (.done _), .call (.done _), .call (.call (.done _)), .call (.done _), .call (.done _), by simp⟩

/-- The bucket of the requests, less this one. -/
def paidRpm : RedisStore :=
  emptyRedis.put (rpmBucketKey helloTenantId) (some ⟨.bucket ⟨59, 0⟩, some (0 + bucketKeyTtlSeconds)⟩)

def paidBuckets : RedisStore :=
  paidRpm.put (tpmBucketKey helloTenantId) (some ⟨.bucket ⟨99992, 0⟩, some (0 + bucketKeyTtlSeconds)⟩)

def paidBudget : RedisStore :=
  paidBuckets.put (budgetKey helloTenantId "2024-06")
    (some ⟨.amount reservedAmount, some (0 + budgetKeyTtlSeconds)⟩)

def paidSlots (slots : ℤ) (expiresAt : Option ℚ) (redis : RedisStore) : RedisStore :=
  redis.put (concurrencyKey helloTenantId) (some ⟨.counter slots, expiresAt⟩)

theorem paid_reserves : redisCells.Answers paidBuckets
    (.redis (.budgetScript (budgetKey helloTenantId "2024-06") promptCost
      helloTenant.monthlyBudgetUsd.value)) (.ok (.answered (.ok ⟨true, reservedAmount⟩)))
    paidBudget := by
  have absent : liveEntry paidBuckets (budgetKey helloTenantId "2024-06") = none :=
    (liveEntry_put_other (@keys_apart (.budget "2024-06") .tpm (by simp [RedisKey.family])) _).trans
      (liveEntry_put_other (@keys_apart (.budget "2024-06") .rpm (by simp [RedisKey.family])) _)
  refine answered_live absent ?_
  change runBudget promptCost helloTenant.monthlyBudgetUsd.value 0 none none = _
  rw [runBudget, promptCost_reserved]
  rfl

theorem slot_taken {redis : RedisStore} (free : liveEntry redis (concurrencyKey helloTenantId) = none) :
    (redisCells.world Unit).Serves (fun _ _ => True) () redis
      (paidSent ⟨.acquireConcurrencySlot helloTenantId 5, .ok true⟩)
      (paidSlots 1 (some (redis.now + 300)) (paidSlots 1 none redis)) := by
  have counted : liveEntry (paidSlots 1 none redis) (concurrencyKey helloTenantId) =
      some ⟨.counter 1, none⟩ := by
    rw [paidSlots, liveEntry_put_self]
    rfl
  exact ⟨trivial, _, answered_live free rfl, trivial, _, answered_live counted rfl, rfl⟩

theorem slot_released (redis : RedisStore) :
    redisCells.Answers (paidSlots 1 (some (redis.now + 300)) (paidSlots 1 none redis))
      (.redis (.decr (concurrencyKey helloTenantId))) (.ok (.answered (.ok (0 : ℤ))))
      (paidSlots 0 (some (redis.now + 300))
        (paidSlots 1 (some (redis.now + 300)) (paidSlots 1 none redis))) := by
  have taken : liveEntry (paidSlots 1 (some (redis.now + 300)) (paidSlots 1 none redis))
      (concurrencyKey helloTenantId) = some ⟨.counter 1, some (redis.now + 300)⟩ := by
    rw [paidSlots, liveEntry_put_self]
    simp [Entry.live, paidSlots, Store.put]
  exact answered_live taken rfl

theorem slots_free (k : RedisKey) (other : k.family ≠ .concurrency) {redis : RedisStore}
    (free : liveEntry redis (concurrencyKey helloTenantId) = none) (entry : Option Entry) :
    liveEntry (redis.put (k.text silentLibraries helloTenantId) entry) (concurrencyKey helloTenantId) =
      none :=
  (liveEntry_put_other (@keys_apart .concurrency k (Ne.symm other)) entry).trans free

theorem paidBuckets_free : liveEntry paidBuckets (concurrencyKey helloTenantId) = none :=
  slots_free .tpm (by simp [RedisKey.family]) (slots_free .rpm (by simp [RedisKey.family]) rfl _) _

theorem paidBudget_free : liveEntry paidBudget (concurrencyKey helloTenantId) = none :=
  slots_free (.budget "2024-06") (by simp [RedisKey.family]) paidBuckets_free _

theorem paid_rpm : redisCells.Answers emptyRedis
    (.redis (.tokenBucketScript (rpmBucketKey helloTenantId) ⟨60, 60 / 60, 1⟩))
    (.ok (.answered (.ok ⟨true, 59⟩))) paidRpm := by
  refine bucket_answered rfl ?_
  norm_num [emptyRedis, tokenBucketLua, refill]

theorem paid_tpm : redisCells.Answers paidRpm
    (.redis (.tokenBucketScript (tpmBucketKey helloTenantId) ⟨100000, 100000 / 60, (8 : ℕ)⟩))
    (.ok (.answered (.ok ⟨true, 99992⟩))) paidBuckets := by
  refine bucket_answered (liveEntry_put_other (@keys_apart .tpm .rpm (by simp [RedisKey.family])) _) ?_
  norm_num [paidRpm, emptyRedis, Store.put, tokenBucketLua, refill]

/-- What the request leaves in Redis. -/
def paidRedis : RedisStore :=
  paidSlots 0 (some (0 + 300)) (paidSlots 1 (some (0 + 300)) (paidSlots 1 none paidBudget))

theorem paid_served : (redisCells.world Unit).Serves (fun _ _ => True) () emptyRedis
    (paidTrace.flatMap paidSent) paidRedis := by
  have limited : (redisCells.world Unit).Serves (fun _ _ => True) () emptyRedis
      ((crowdedTrace.take 7).flatMap paidSent) paidBudget :=
    ⟨trivial, _, rfl, trivial, _, rfl, trivial, _, rfl, trivial, _, paid_rpm, trivial, _, paid_tpm,
      trivial, _, rfl, trivial, _, paid_reserves, rfl⟩
  exact limited.append ((slot_taken paidBudget_free).append
    ⟨trivial, _, rfl, trivial, _, slot_released paidBudget, rfl⟩)

theorem paid_run : ∃ run : TenantRun Unit,
    IsRun (TenantStep Unit) (onePool pricedConfig pricedChat emptyRedis) run ∧
      (final (onePool pricedConfig pricedChat emptyRedis) run).history () = paidTrace.flatMap paidSent ∧
      elapsed run = 0 := by
  obtain ⟨run, isRun, -, ends, labels⟩ := solo_run (p := onePool pricedConfig pricedChat emptyRedis)
    (i := ()) paid_sent.reaches paid_served
  refine ⟨run, isRun, ?_, ?_⟩
  · rw [ends]
    rfl
  · have still : run.map (fun step => elapse step.1) = (run.map Prod.fst).map elapse := by simp
    rw [elapsed, total, still, labels]
    simp [elapse, Function.comp_def]

end OnePaidRequest

section Quotas
variable {ι : Type} {config : GatewayConfig} {requests : ι → ChatRequest} {redis : RedisStore} {a : Uuid}

/-- These requests of the tenant began after the first state and have reached a provider by the
second. -/
structure Through (requests : ι → ChatRequest) (a : Uuid) (opened closed : TenantPool ι)
    (s : Finset ι) : Prop where
  mine : ∀ i ∈ s, tenantOf requests i = a
  fresh : ∀ i ∈ s, opened.history i = []
  forwarded : ∀ i ∈ s, Forwarded closed i

theorem start_kept {key : String} (kept : WellKept (redis.cells key)) :
    BucketKept config requests key (tenantPool config requests redis) :=
  ⟨fun i => serveWire_placed config (requests i), kept⟩

theorem charged_rpm {rpm : ℕ} (limits : ∀ i, tenantOf requests i = a →
      0 ≤ (requests i).tenant.rateLimitRpm ∧ (requests i).tenant.rateLimitRpm ≤ rpm) :
    ChargedOnly config requests (rpmBucketKey a) rpm := by
  intro i cmd sent on
  obtain ⟨mine, rfl⟩ := sent_on_rpm sent on
  obtain ⟨room, le⟩ := limits i mine
  exact ⟨_, 1, room, by exact_mod_cast le, by norm_num, rfl⟩

variable [DecidableEq ι]

theorem run_gated {run : TenantRun ι}
    (isRun : IsRun (TenantStep ι) (tenantPool config requests redis) run) {i : ι}
    (forwarded : Forwarded (final (tenantPool config requests redis) run) i) :
    ∃ past body, CarriedOut commands past ((final (tenantPool config requests redis) run).history i) ∧
      Gated config (requests i) past body :=
  forwarded_gated ((start_followed redis fun i => serveWire config (requests i)).run isRun) forwarded

theorem forwarded_charged {run : TenantRun ι}
    (isRun : IsRun (TenantStep ι) (tenantPool config requests redis) run) {i : ι}
    (mine : tenantOf requests i = a)
    (forwarded : Forwarded (final (tenantPool config requests redis) run) i) :
    ∃ e ∈ (final (tenantPool config requests redis) run).history i, 1 ≤ charged (rpmBucketKey a) e := by
  obtain ⟨past, body, carried, gated⟩ := run_gated isRun forwarded
  obtain ⟨providerName, promptTokens, _, _, passed⟩ := gated.limits
  obtain ⟨e, here, covered⟩ := allowed_charged carried passed.rpm
  have own : (requests i).tenant.tenantId = a := mine
  rw [own] at covered
  exact ⟨e, here, by exact_mod_cast covered⟩

/-- Of the requests that a tenant begins in any window of a run, no more reach a provider than its
limit and what a minute's limit refills in the window. -/
theorem forwarded_requests_limited (config : GatewayConfig) (requests : ι → ChatRequest)
    (redis : RedisStore) (a : Uuid) (rpm : ℕ) (kept : WellKept (redis.cells (rpmBucketKey a)))
    (limits : ∀ i, tenantOf requests i = a →
      0 ≤ (requests i).tenant.rateLimitRpm ∧ (requests i).tenant.rateLimitRpm ≤ rpm)
    (before window : TenantRun ι)
    (isRun : IsRun (TenantStep ι) (tenantPool config requests redis) (before ++ window)) (s : Finset ι)
    (through : Through requests a (final (tenantPool config requests redis) before)
      (final (tenantPool config requests redis) (before ++ window)) s) :
    (s.card : ℚ) ≤ rpm + rpm / 60 * elapsed window := by
  have made (i : ι) (mem : i ∈ s) := forwarded_charged isRun (through.mine i mem) (through.forwarded i mem)
  calc (s.card : ℚ)
    _ = ∑ i ∈ s, 1 := by simp
    _ ≤ spent (charged (rpmBucketKey a)) s
        (final (tenantPool config requests redis) (before ++ window)) :=
      cost_le_spent (charged_nonneg _) fun i mem => .inr (made i mem)
    _ ≤ rpm + rpm / 60 * elapsed window :=
      bucket_window (charged_rpm limits) (Nat.cast_nonneg _) (start_kept kept) isRun through.fresh

theorem paid_forwarded {p : TenantPool Unit} (history : p.history () = paidTrace.flatMap paidSent) :
    Forwarded p () := by
  refine ⟨⟨.outside (.chatCompletion pricedChat.body), .error .cancelled⟩, ?_,
    .chatCompletion pricedChat.body, rfl, pricedChat.body, rfl⟩
  rw [history, List.mem_flatMap]
  exact ⟨⟨.chatCompletion pricedChat.body, .error .cancelled⟩, by simp [paidTrace], .head _⟩

theorem paid_through {run : TenantRun Unit} (history : (final (onePool pricedConfig pricedChat emptyRedis)
    run).history () = paidTrace.flatMap paidSent) :
    Through (fun _ => pricedChat) helloTenantId (onePool pricedConfig pricedChat emptyRedis)
      (final (onePool pricedConfig pricedChat emptyRedis) run) {()} :=
  ⟨fun _ _ => rfl, fun _ _ => rfl, fun _ _ => paid_forwarded history⟩

theorem forwarded_requests_limited_paid :
    ∃ run : TenantRun Unit, IsRun (TenantStep Unit) (onePool pricedConfig pricedChat emptyRedis) run ∧
      Forwarded (final (onePool pricedConfig pricedChat emptyRedis) run) () ∧
      (({()} : Finset Unit).card : ℚ) ≤ (60 : ℕ) + (60 : ℕ) / 60 * elapsed run := by
  obtain ⟨run, isRun, history, -⟩ := paid_run
  refine ⟨run, isRun, paid_forwarded history, ?_⟩
  exact forwarded_requests_limited pricedConfig (fun _ => pricedChat) emptyRedis helloTenantId 60 trivial
    (fun _ _ => by decide) [] run isRun {()} (paid_through history)

/-- And they have no more prompt tokens than its limit and what is refilled, for any tokenizer that
the counts follow. -/
theorem forwarded_tokens_limited (tok : Metering.Tokenizer) (config : GatewayConfig)
    (requests : ι → ChatRequest) (redis : RedisStore) (a : Uuid) (tpm : ℕ)
    (kept : WellKept (redis.cells (tpmBucketKey a)))
    (limits : ∀ i, tenantOf requests i = a →
      0 ≤ (requests i).tenant.rateLimitTpm ∧ (requests i).tenant.rateLimitTpm ≤ tpm)
    (before window : TenantRun ι)
    (isRun : IsRun (TenantStep ι) (tenantPool config requests redis) (before ++ window)) (s : Finset ι)
    (through : Through requests a (final (tenantPool config requests redis) before)
      (final (tenantPool config requests redis) (before ++ window)) s)
    (gave : ∀ i ∈ s, ∀ e ∈ (final (tenantPool config requests redis) (before ++ window)).history i,
      WireGave tok e) :
    ∑ i ∈ s, (promptCharge tok (requests i) : ℚ) ≤ tpm + tpm / 60 * elapsed window := by
  have only : ChargedOnly config requests (tpmBucketKey a) tpm := by
    intro i cmd sent on
    obtain ⟨mine, promptTokens, rfl⟩ := sent_on_tpm sent on
    obtain ⟨room, le⟩ := limits i mine
    exact ⟨_, promptTokens, room, by exact_mod_cast le, Int.natCast_nonneg _, rfl⟩
  have made : ∀ i ∈ s, (promptCharge tok (requests i) : ℚ) ≤ 0 ∨
      ∃ e ∈ (final (tenantPool config requests redis) (before ++ window)).history i,
        (promptCharge tok (requests i) : ℚ) ≤ charged (tpmBucketKey a) e := by
    intro i mem
    obtain ⟨past, body, carried, gated⟩ := run_gated isRun (through.forwarded i mem)
    obtain ⟨providerName, promptTokens, _, ran, passed⟩ := gated.limits
    obtain ⟨e, here, covered⟩ := allowed_charged carried passed.tpm
    have own : (requests i).tenant.tenantId = a := through.mine i mem
    rw [own, counted_charge carried (gave i mem) ran] at covered
    exact .inr ⟨e, here, by exact_mod_cast covered⟩
  calc ∑ i ∈ s, (promptCharge tok (requests i) : ℚ)
    _ ≤ spent (charged (tpmBucketKey a)) s
        (final (tenantPool config requests redis) (before ++ window)) :=
      cost_le_spent (charged_nonneg _) made
    _ ≤ tpm + tpm / 60 * elapsed window :=
      bucket_window only (Nat.cast_nonneg _) (start_kept kept) isRun through.fresh

theorem paid_gave {p : TenantPool Unit} (history : p.history () = paidTrace.flatMap paidSent) :
    ∀ e ∈ p.history (), WireGave oneToken e := by
  rw [history]
  simp [paidTrace, crowdedTrace, paidSent, sent, WireGave, Metering.Tokenizer.Gave, oneToken]

theorem forwarded_tokens_limited_paid :
    ∃ run : TenantRun Unit, IsRun (TenantStep Unit) (onePool pricedConfig pricedChat emptyRedis) run ∧
      promptCharge oneToken pricedChat = 8 ∧
      ∑ _i ∈ ({()} : Finset Unit), (promptCharge oneToken pricedChat : ℚ) ≤
        (100000 : ℕ) + (100000 : ℕ) / 60 * elapsed run := by
  obtain ⟨run, isRun, history, -⟩ := paid_run
  refine ⟨run, isRun, by decide, ?_⟩
  exact forwarded_tokens_limited oneToken pricedConfig (fun _ => pricedChat) emptyRedis helloTenantId 100000
    trivial (fun _ _ => by decide) [] run isRun {()} (paid_through history)
    (fun _ _ => paid_gave history)

end Quotas
end AegisGateway.TenantQuotas
