import AegisGateway.TenantQuotas

set_option autoImplicit false

/-!
# Whom the rate limits refuse

A request that is refused for its rate comes from a tenant that has gone over the limit: in some
stretch of the run before the refusal its requests were granted more than the limit and
what it refills in that time leave for one more.
-/
namespace AegisGateway.LimitRefusals
open EffectProgram TransitionRuns ProgramPool CellStore RedisCommands TenantIsolation RequestCalls
open RunAccounts BucketHistories BudgetRejections RejectedRequests TenantQuotas RequestStages
open TokenBucket (Bucket BucketArgs LimitResult refill tokenBucketLua NoDebt)

section Levels

/-- What a script may have taken from a bucket: it was allowed, or carried out and its answer lost. -/
def mayTake (key : String) : WireEvent → ℚ
  | ⟨.redis (.tokenBucketScript k args), .ok (.answered (.ok result))⟩ =>
    if k = key ∧ result.allowed = true then args.requested else 0
  | ⟨.redis (.tokenBucketScript k args), .ok (.lost _ carriedOut)⟩ =>
    if k = key ∧ carriedOut = true then args.requested else 0
  | _ => 0

variable {limit now : ℚ}

theorem leftBy_wellKept {entry : Option Entry} (left : LeftBy now entry) : WellKept entry := by
  cases entry with
  | none => trivial
  | some e =>
    obtain ⟨b, rfl, nonneg, -⟩ := left
    exact ⟨rfl, nonneg⟩

theorem leftBy_writtenBy {entry : Option Entry} (left : LeftBy now entry) :
    WrittenBy now (storedBucket entry) := by
  cases entry with
  | none => trivial
  | some e =>
    obtain ⟨b, rfl, -, written⟩ := left
    exact written

theorem refill_le_live {c : ℚ} (le : limit ≤ c) {entry : Option Entry} :
    refill (storedBucket entry) limit (limit / 60) now ≤
      refill (storedBucket (entry.filter (Entry.live now))) c (c / 60) now := by
  have full : refill (storedBucket none) c (c / 60) now = c := refill_missing now
  cases entry with
  | none => exact refill_mono le _
  | some e =>
    rw [Option.filter]
    split
    · exact refill_mono le _
    · rw [full]
      exact (TokenBucket.refill_le_capacity _ _ _ _).trans le

theorem refill_now (tokens capacity rate : ℚ) :
    refill (some ⟨tokens, now⟩) capacity rate now = min capacity tokens := by
  rw [refill_stored (le_refl now), sub_self, zero_mul, add_zero]

theorem refill_tick {bucket : Option Bucket} (written : WrittenBy now bucket) {duration : ℚ}
    (forward : 0 ≤ duration) :
    refill bucket limit (limit / 60) now + limit / 60 * duration ≤
        refill bucket limit (limit / 60) (now + duration) ∨
      limit ≤ refill bucket limit (limit / 60) (now + duration) := by
  cases bucket with
  | none => exact .inr (le_of_eq (refill_missing _).symm)
  | some b =>
    have later : b.updatedAt ≤ now + duration := le_trans written (by linarith)
    rw [refill_stored written, refill_stored later]
    rcases le_total limit (b.tokens + (now + duration - b.updatedAt) * (limit / 60)) with full | less
    · rw [min_eq_left full]
      exact .inr (le_refl _)
    · rw [min_eq_right less]
      have below := min_le_right limit (b.tokens + (now - b.updatedAt) * (limit / 60))
      refine .inl ?_
      linarith

theorem tokenBucketLua_lowers {bucket : Option Bucket} {args : BucketArgs} {level : ℚ}
    (full : level ≤ limit) (held : level ≤ refill bucket args.capacity args.refillPerSecond now)
    (cost : 0 ≤ args.requested) :
    level - (if (tokenBucketLua bucket args now).1.allowed = true then args.requested else 0) ≤
        refill (some (tokenBucketLua bucket args now).2) limit (limit / 60) now ∧
      ((tokenBucketLua bucket args now).1.allowed = false → level < args.requested) := by
  obtain ⟨updated, -, cases⟩ := TokenBucket.tokenBucketLua_cases bucket args now
  generalize tokenBucketLua bucket args now = reply at updated cases
  obtain ⟨⟨allowed, remaining⟩, ⟨tokens, updatedAt⟩⟩ := reply
  dsimp only at updated cases ⊢
  subst updated
  rw [refill_now]
  rcases cases with ⟨rfl, _, rfl⟩ | ⟨rfl, denied, rfl⟩
  · rw [if_pos rfl]
    exact ⟨le_min (by linarith) (by linarith), by simp⟩
  · rw [if_neg (by simp), sub_zero]
    exact ⟨le_min full held, fun _ => lt_of_le_of_lt held denied⟩

theorem answered_takes (key : String) (args : BucketArgs) (reply : LimitResult) :
    mayTake key ⟨.redis (.tokenBucketScript key args), .ok (.answered (.ok reply))⟩ =
      if reply.allowed = true then args.requested else 0 := by
  simp [mayTake]

theorem answered_takes_le {key : String} {args : BucketArgs} (cost : 0 ≤ args.requested)
    (result : Except Exn LimitResult) :
    mayTake key ⟨.redis (.tokenBucketScript key args), .ok (.answered result)⟩ ≤ args.requested := by
  cases result with
  | error exc => exact cost
  | ok reply =>
    rw [answered_takes]
    split
    · exact le_refl _
    · exact cost

/-- On a bucket that was left by the script before, a run of it lowers the level by what it takes
at most, and denies only what costs more than the level. -/
theorem script_lowers {key : String} {entry entry' : Option Entry} {c n : ℤ}
    {result : Except Exn LimitResult} (left : LeftBy now entry) (nonneg : 0 ≤ limit)
    (le : limit ≤ c) (cost : 0 ≤ n)
    (ran : (result, entry') = run now entry (.tokenBucketScript key ⟨c, c / 60, n⟩)) :
    LeftBy now entry' ∧ refill (storedBucket entry) limit (limit / 60) now -
        mayTake key ⟨.redis (.tokenBucketScript key ⟨c, c / 60, n⟩), .ok (.answered result)⟩ ≤
      refill (storedBucket entry') limit (limit / 60) now ∧
      (∀ reply, result = .ok reply → reply.allowed = false →
        refill (storedBucket entry) limit (limit / 60) now < n) := by
  have room : (0 : ℚ) ≤ c := nonneg.trans le
  have positive : (0 : ℚ) ≤ n := by exact_mod_cast cost
  have kept := wellKept_live (leftBy_wellKept left) now
  have held := @refill_le_live limit now c le entry
  have full := TokenBucket.refill_le_capacity (storedBucket entry) limit (limit / 60) now
  rw [run, script_runs kept] at ran
  have leaves := @runTokenBucket_left ⟨c, c / 60, n⟩ now
    (storedBucket (entry.filter (Entry.live now))) room (by positivity) positive (wellKept_noDebt kept)
  rw [← ran] at leaves
  obtain ⟨lowered, denies⟩ := @tokenBucketLua_lowers limit now
    (storedBucket (entry.filter (Entry.live now))) ⟨c, c / 60, n⟩ _ full held positive
  cases ran
  refine ⟨leaves, ?_, ?_⟩
  · rw [answered_takes]
    exact lowered
  · rintro _ ⟨⟩ denied
    exact denies denied

theorem effect_lowers {key : String} {entry entry' : Option Entry} {c n : ℤ}
    {o : Except Exn (Reply LimitResult)} (left : LeftBy now entry) (nonneg : 0 ≤ limit)
    (le : limit ≤ c) (cost : 0 ≤ n)
    (ran : effect now entry (.redis (.tokenBucketScript key ⟨c, c / 60, n⟩)) o entry') :
    LeftBy now entry' ∧ refill (storedBucket entry) limit (limit / 60) now -
        mayTake key ⟨.redis (.tokenBucketScript key ⟨c, c / 60, n⟩), o⟩ ≤
      refill (storedBucket entry') limit (limit / 60) now := by
  rcases o with exc | result | ⟨exc, carriedOut⟩
  · exact ran.elim
  · obtain ⟨leaves, lowered, -⟩ := script_lowers left nonneg le cost ran
    exact ⟨leaves, lowered⟩
  · have gone : entry' = if carriedOut then
        (run now entry (.tokenBucketScript key ⟨c, c / 60, n⟩)).2 else entry := ran
    have positive : (0 : ℚ) ≤ n := by exact_mod_cast cost
    cases carriedOut with
    | false =>
      have silent : mayTake key ⟨.redis (.tokenBucketScript key ⟨c, c / 60, n⟩),
          .ok (.lost exc false)⟩ = 0 := by simp [mayTake]
      rw [silent, sub_zero, gone]
      exact ⟨left, le_refl _⟩
    | true =>
      have took : mayTake key ⟨.redis (.tokenBucketScript key ⟨c, c / 60, n⟩),
          .ok (.lost exc true)⟩ = n := by simp [mayTake]
      cases ended : run now entry (.tokenBucketScript key ⟨c, c / 60, n⟩) with
      | mk result left' =>
        obtain ⟨leaves, lowered, -⟩ := script_lowers left nonneg le cost ended.symm
        have bounded := @answered_takes_le key ⟨c, c / 60, n⟩ positive result
        dsimp only at bounded
        rw [took, gone, ended, if_pos rfl]
        exact ⟨leaves, le_trans (by linarith) lowered⟩

end Levels

section Buckets
variable {ι : Type} {config : GatewayConfig} {requests : ι → ChatRequest} {key : String} {limit : ℚ}

/-- Whatever the requests do with the key is a charge under a limit that is no lower. -/
def ChargedUnder (config : GatewayConfig) (requests : ι → ChatRequest) (key : String) (limit : ℚ) :
    Prop :=
  ∀ i cmd, Sent config (requests i) cmd → cmd.key = key →
    ∃ c n : ℤ, limit ≤ c ∧ 0 ≤ n ∧ cmd = .tokenBucketScript key ⟨c, c / 60, n⟩

/-- What the step may take from the bucket. -/
def taken (key : String) : TenantLabel ι → ℚ
  | .call _ e => mayTake key e
  | .env _ => 0

/-- The step does not set the clock back. -/
def Forward (_ : TenantPool ι) : TenantLabel ι → Prop
  | .call _ _ => True
  | .env duration => 0 ≤ duration

theorem calls_forward {run : TenantRun ι} {p : TenantPool ι} {t : List WireEvent} {i : ι}
    (labels : run.map Prod.fst = t.map (.call i)) : StepsMeet Forward p run := by
  induction run generalizing p t with
  | nil => trivial
  | cons head rest ih =>
    obtain ⟨l, q⟩ := head
    cases t with
    | nil => cases labels
    | cons e t =>
      obtain ⟨rfl, later⟩ := List.cons.inj labels
      exact ⟨trivial, ih later⟩

/-- The requests go on as they may, and the bucket is as the script left it. -/
structure BucketLeft (config : GatewayConfig) (requests : ι → ChatRequest) (key : String)
    (p : TenantPool ι) : Prop where
  uses : EachUses (fun i => WirePlaced config (requests i)) p
  left : LeftBy p.shared.now (p.shared.cells key)

theorem total_gain (key : String) (run : TenantRun ι) :
    total (fun l => limit / 60 * elapse l - taken key l) run =
      limit / 60 * elapsed run - total (taken key) run := by
  induction run with
  | nil => simp [total, elapsed]
  | cons head rest ih =>
    rw [elapsed, total_cons, total_cons, total_cons, ih, elapsed]
    ring

variable [DecidableEq ι]

theorem bucket_lowered (under : ChargedUnder config requests key limit) (nonneg : 0 ≤ limit)
    {p q : TenantPool ι} {i : ι} {e : WireEvent} (held : BucketLeft config requests key p)
    (step : TenantStep ι p (.call i e) q) :
    LeftBy q.shared.now (q.shared.cells key) ∧
      level limit key p.shared - mayTake key e ≤ level limit key q.shared := by
  have placed := held.uses.called step
  have answered : redisCells.Answers p.shared e.1 e.2 q.shared := Step.answered step
  rw [level, level, answered.now]
  obtain ⟨op, o⟩ := e
  by_cases mine : key ∈ redisCells.key op
  · cases op with
    | outside op => cases mine
    | redis cmd =>
      obtain ⟨c, n, le, cost, rfl⟩ := under i cmd placed (Option.some.inj mine)
      obtain ⟨entry, ran, shared⟩ := answered
      have here : q.shared.cells key = entry := by
        rw [shared, Store.put]
        exact Function.update_self ..
      rw [here]
      exact effect_lowers held.left nonneg le cost ran
  · have silent : mayTake key ⟨op, o⟩ = 0 := by
      unfold mayTake
      split
      · rename_i k args result same
        cases same
        rw [if_neg]
        rintro ⟨rfl, _⟩
        exact mine rfl
      · rename_i k args exc carriedOut same
        cases same
        rw [if_neg]
        rintro ⟨rfl, _⟩
        exact mine rfl
      · rfl
    rw [answered.frame mine, silent, sub_zero]
    exact ⟨held.left, le_refl _⟩

theorem bucket_gained (under : ChargedUnder config requests key limit) (nonneg : 0 ≤ limit)
    {p q : TenantPool ι} {l : TenantLabel ι} (held : BucketLeft config requests key p)
    (forward : Forward p l) (step : TenantStep ι p l q) :
    BucketLeft config requests key q ∧
      (level limit key p.shared + (limit / 60 * elapse l - taken key l) ≤ level limit key q.shared ∨
        limit ≤ level limit key q.shared) := by
  have uses := held.uses.step step
  cases l with
  | call i e =>
    obtain ⟨left, lowered⟩ := bucket_lowered under nonneg held step
    refine ⟨⟨uses, left⟩, .inl ?_⟩
    change level limit key p.shared + (limit / 60 * 0 - mayTake key e) ≤ _
    linarith
  | env duration =>
    have moved : q.shared = { p.shared with now := p.shared.now + duration } := by
      cases step with
      | env moved => exact moved
    have ahead : 0 ≤ duration := forward
    rw [moved]
    refine ⟨⟨uses, ?_⟩, ?_⟩
    · rw [moved]
      exact leftBy_mono (le_add_of_nonneg_right ahead) held.left
    · change level limit key p.shared + (limit / 60 * max 0 duration - 0) ≤ _ ∨ _
      rw [max_eq_right ahead, sub_zero]
      exact refill_tick (leftBy_writtenBy held.left) ahead

theorem bucket_denied (nonneg : 0 ≤ limit) {p q : TenantPool ι} {i : ι} {c n : ℤ} {reply : LimitResult}
    (held : BucketLeft config requests key p) (le : limit ≤ c) (cost : 0 ≤ n)
    (denied : reply.allowed = false)
    (step : TenantStep ι p
      (.call i ⟨.redis (.tokenBucketScript key ⟨c, c / 60, n⟩), .ok (.answered (.ok reply))⟩) q) :
    level limit key p.shared < n := by
  obtain ⟨entry, ran, -⟩ := Step.answered step
  exact (script_lowers held.left nonneg le cost ran).2.2 reply rfl denied

theorem denied_over_limit (under : ChargedUnder config requests key limit) (nonneg : 0 ≤ limit)
    {p : TenantPool ι} {run : TenantRun ι} (held : BucketLeft config requests key p)
    (isRun : IsRun (TenantStep ι) p run) (forward : StepsMeet Forward p run) {i : ι} {c n : ℤ}
    {reply : LimitResult} (fresh : p.history i = []) (le : limit ≤ c) (cost : 0 ≤ n)
    (denied : reply.allowed = false)
    (mem : ⟨.redis (.tokenBucketScript key ⟨c, c / 60, n⟩), .ok (.answered (.ok reply))⟩ ∈
      (final p run).history i) :
    ∃ before stretch s after, run = before ++ stretch ++
        (.call i ⟨.redis (.tokenBucketScript key ⟨c, c / 60, n⟩), .ok (.answered (.ok reply))⟩, s) :: after ∧
      ∃ room : ℚ, (room = limit ∨ before = [] ∧ room = level limit key p.shared) ∧
        room + limit / 60 * elapsed stretch < total (taken key) stretch + n := by
  rcases history_from isRun mem with old | ⟨earlier, s, after, rfl⟩
  · rw [fresh] at old
    cases old
  · obtain ⟨opened, before, stretch, rfl, room, origin, reaches⟩ :=
      @potential_floor _ _ (TenantStep ι) (BucketLeft config requests key) Forward
        (fun q => level limit key q.shared) limit (fun l => limit / 60 * elapse l - taken key l)
        (fun _ _ _ held forward step => bucket_gained under nonneg held forward step) p earlier
        (run_earlier isRun) (meets_earlier forward) held
    have above := bucket_denied nonneg opened le cost denied isRun.later.1
    rw [total_gain] at reaches
    exact ⟨before, stretch, s, after, rfl, room, origin, by linarith⟩

end Buckets
section Reasons

/-- The two limits with a bucket. -/
inductive RateLimit where
  | requests
  | tokens

def RateLimit.key : RateLimit → Uuid → String
  | .requests => rpmBucketKey
  | .tokens => tpmBucketKey

def RateLimit.limit : RateLimit → TenantContext → ℤ
  | .requests => TenantContext.rateLimitRpm
  | .tokens => TenantContext.rateLimitTpm

def RateLimit.exceeded : RateLimit → TenantContext → RateLimitExceeded
  | .requests => rpmExceeded
  | .tokens => tpmExceeded

/-- The script has denied the charge. -/
def Denied (past : List GatewayEvent) (key : String) (limit cost : ℤ) : Prop :=
  ∃ reply : LimitResult, reply.allowed = false ∧
    ⟨.checkTokenBucket key limit (limit / 60) cost, .ok reply⟩ ∈ past

/-- The reasons that the limits have for a rejection. -/
inductive RejectedFor (request : ChatRequest) (past : List GatewayEvent) : HttpException → Prop where
  | rate (rate : RateLimit) (cost : ℕ) (single : rate = .requests → cost = 1)
    (denied : Denied past (rate.key request.tenant.tenantId) (rate.limit request.tenant) cost) :
    RejectedFor request past (rateLimitHttpException (rate.exceeded request.tenant))
  | budget (month : String) (cost : ℚ) (reply : LimitResult) (denied : reply.allowed = false)
    (mem : ⟨.checkAndReserveBudget (budgetKey request.tenant.tenantId month) cost
      request.tenant.monthlyBudgetUsd.value, .ok reply⟩ ∈ past) :
    RejectedFor request past (rateLimitHttpException (budgetExceeded request.tenant))
  | slot (mem : ⟨.acquireConcurrencySlot request.tenant.tenantId request.tenant.maxConcurrentRequests,
      .ok false⟩ ∈ past) :
    RejectedFor request past (tooManyRequests request.tenant.maxConcurrentRequests)

/-- The packages raise what they may. -/
def foreignMonitor : Monitor GatewayOp GatewayRet Exn (List GatewayEvent) where
  permits _ _ := True
  answers _ op o := raisesForeign ⟨op, o⟩ = true
  advance past op o := past ++ [⟨op, o⟩]

variable {config : GatewayConfig} {request : ChatRequest} {providerName : String} {promptTokens : ℕ}
  {past : List GatewayEvent} {α β : Type}

theorem RejectedFor.grow {exc : HttpException} {more : List GatewayEvent}
    (h : RejectedFor request past exc) (grown : past ⊆ more) : RejectedFor request more exc := by
  cases h with
  | rate rate cost single denied =>
    obtain ⟨reply, no, mem⟩ := denied
    exact .rate rate cost single ⟨reply, no, grown mem⟩
  | budget month cost reply denied mem => exact .budget month cost reply denied (grown mem)
  | slot mem => exact .slot (grown mem)

/-- A rejection by the limits has its reason in the past. -/
def Reasoned (request : ChatRequest) (r : Except Exn α) (past : List GatewayEvent) : Prop :=
  ∀ exc, r = .error exc → Ordinary exc ∨ ∃ e, exc = .http e ∧ RejectedFor request past e

theorem ended_foreign {op : GatewayOp} {exc : Exn} (granted : raisesForeign ⟨op, .error exc⟩ = true) :
    foreign exc = true := by cases op <;> exact granted

/-- The three limits raise for what a script has denied. -/
def LimitReasoned (request : ChatRequest) (base : List GatewayEvent) (r : Except Exn Unit)
    (past : List GatewayEvent) : Prop :=
  base ⊆ past ∧ ∀ exc, r = .error exc → foreign exc = true ∨
    ∃ e, exc = .rateLimit e ∧ RejectedFor request past (rateLimitHttpException e)

theorem limitReasoned_call {op : GatewayOp} {f : GatewayRet op → GatewayProg Unit} {base : List GatewayEvent}
    (since : base ⊆ past)
    (next : ∀ a, base ⊆ past ++ [⟨op, .ok a⟩] →
      Holds foreignMonitor (f a) (LimitReasoned request base) (past ++ [⟨op, .ok a⟩])) :
    Holds foreignMonitor (call op >>= f) (LimitReasoned request base) past := by
  have grown (e : GatewayEvent) : base ⊆ past ++ [e] :=
    List.Subset.trans since (List.subset_append_left _ _)
  refine Holds.call_bind trivial (fun a _ => next a (grown _)) fun exc granted => ⟨grown _, ?_⟩
  rintro _ ⟨⟩
  exact .inl (ended_foreign granted)

theorem limitReasoned_raise {e : RateLimitExceeded} {base : List GatewayEvent} (since : base ⊆ past)
    (rejected : RejectedFor request past (rateLimitHttpException e)) :
    Holds foreignMonitor (Prog.raise (.rateLimit e)) (LimitReasoned request base) past := by
  refine ⟨since, ?_⟩
  rintro _ ⟨⟩
  exact .inr ⟨e, rfl, rejected⟩

theorem limitReasoned_pass {base : List GatewayEvent} (since : base ⊆ past) :
    Holds foreignMonitor (pure ()) (LimitReasoned request base) past := by
  refine ⟨since, ?_⟩
  rintro _ ⟨⟩

theorem last_mem (past : List GatewayEvent) (e : GatewayEvent) : e ∈ past ++ [e] :=
  List.mem_append_right _ (.head _)

theorem enforceRequestLimits_reasoned (model : String) (past : List GatewayEvent) :
    Holds foreignMonitor (enforceRequestLimits request.tenant providerName model promptTokens)
      (LimitReasoned request past) past := by
  refine limitReasoned_call (List.Subset.refl past) fun rpm since => ?_
  split
  · rename_i no
    exact limitReasoned_raise since (.rate .requests 1 (fun _ => rfl) ⟨rpm, no, last_mem _ _⟩)
  · refine limitReasoned_call since fun tpm since => ?_
    split
    · rename_i no
      exact limitReasoned_raise since (.rate .tokens promptTokens (fun same => (by cases same)) ⟨tpm, no, last_mem _ _⟩)
    · simp only
      split
      · refine limitReasoned_call since fun month since => ?_
        refine limitReasoned_call since fun budget since => ?_
        split
        · rename_i no
          exact limitReasoned_raise since (.budget month _ budget no (last_mem _ _))
        · exact limitReasoned_pass since
      · exact limitReasoned_pass since

theorem past_limiting (request : ChatRequest) :
    Limiting foreignMonitor request (fun _ => True) (fun e past => RejectedFor request past e)
      (Reasoned request) where
  permits _ _ _ := trivial
  answers _ _ _ granted := granted
  before_kept _ _ _ _ _ := trivial
  refused_kept _ _ _ _ _ rejected := rejected.grow (List.subset_append_left _ _)
  limits providerName promptTokens past _ :=
    (enforceRequestLimits_reasoned request.body.model past).mono fun _ _ reasoned => reasoned.2
  slot past := .slot (last_mem past _)
  returned _ _ := by
    rintro exc ⟨⟩
  ordinary _ _ ordinary := by
    rintro _ ⟨⟩
    exact .inl ordinary
  refusal exc past rejected := by
    rintro _ ⟨⟩
    exact .inr ⟨exc, rfl, rejected⟩

theorem serve_reasoned (config : GatewayConfig) (request : ChatRequest) :
    Holds foreignMonitor (serve config request) (Reasoned request) [] :=
  serve_walks (limit_walks (past_limiting request) config) trivial

end Reasons
section Rejections
variable {ι : Type} {config : GatewayConfig} {requests : ι → ChatRequest} {redis : RedisStore} {a : Uuid}
  {α β : Type}

/-- The program raises only what one of its calls has raised. -/
def Relays (p : WireProg α) : Prop :=
  ∀ t r, Runs p t r → (∀ e ∈ t, wireForeign e = true) → ∀ exc, r = .error exc → foreign exc = true

theorem relays_pure (a : α) : Relays (pure a) := by
  rintro t _ run - exc rfl
  cases run

theorem Relays.bind {p : WireProg α} {f : α → WireProg β} (h : Relays p) (next : ∀ a, Relays (f a)) :
    Relays (p >>= f) := by
  rintro t _ run given exc rfl
  rcases runs_bind run with ⟨e, first, same⟩ | ⟨t₁, b, t₂, rfl, first, second⟩
  · cases same
    exact h t _ first given exc rfl
  · exact next b t₂ _ second (fun e mem => given e (List.mem_append_right _ mem)) exc rfl

theorem redis_relays (cmd : RedisCommand) : Relays (RedisCommands.redis cmd) := by
  rintro t _ run given exc rfl
  cases run with
  | @call _ _ o _ _ tail =>
    have here := given _ (.head _)
    rcases o with e | result | ⟨e, carriedOut⟩
    · cases tail
      exact here
    · cases tail
      exact here
    · cases tail
      exact here

theorem acquireConcurrencySlot_relays (tenantId : Uuid) (limit : ℤ) :
    Relays (acquireConcurrencySlot tenantId limit) := by
  refine (redis_relays _).bind fun current => Relays.bind ?_ fun _ => ?_
  · rw [expireFirst]
    split
    · exact (redis_relays _).bind fun _ => relays_pure _
    · exact relays_pure _
  · split
    · exact (redis_relays _).bind fun _ => relays_pure _
    · exact relays_pure _

theorem commands_foreign {op : GatewayOp} {t : List WireEvent} {o : Except Exn (GatewayRet op)}
    (run : Runs (commands op) t o) (given : ∀ e ∈ t, wireForeign e = true) :
    raisesForeign ⟨op, o⟩ = true := by
  have dropped (cmd : RedisCommand) : Relays (RedisCommands.redis cmd >>= fun _ => pure ()) :=
    (redis_relays cmd).bind fun _ => relays_pure ()
  cases op with
  | getCachedResponse t key => exact raisesForeign_result rfl (redis_relays _ _ _ run given)
  | tryAcquireLock t key => exact raisesForeign_result rfl (redis_relays _ _ _ run given)
  | releaseLock t key => exact raisesForeign_result rfl (dropped _ _ _ run given)
  | storeResponse t key responseJson => exact raisesForeign_result rfl (dropped _ _ _ run given)
  | checkTokenBucket key capacity refillPerSecond cost =>
    exact raisesForeign_result rfl (redis_relays _ _ _ run given)
  | checkAndReserveBudget key increment cap =>
    exact raisesForeign_result rfl (redis_relays _ _ _ run given)
  | acquireConcurrencySlot t cap =>
    exact raisesForeign_result rfl (acquireConcurrencySlot_relays _ _ _ _ run given)
  | releaseConcurrencySlot t => exact raisesForeign_result rfl (dropped _ _ _ run given)
  | getCachedCompletion key => exact raisesForeign_result rfl (redis_relays _ _ _ run given)
  | storeCachedCompletion key responseJson ttlSeconds =>
    exact raisesForeign_result rfl (dropped _ _ _ run given)
  | _ =>
    have alone := runs_perform run
    subst alone
    exact given _ (.head _)

theorem rejected_reason {request : ChatRequest} {history : List WireEvent} {e : HttpException}
    (reaches : Reaches (serveWire config request) history (.done (.error (.http e))))
    (given : ∀ event ∈ history, wireForeign event = true) (rejection : LimitRejection e) :
    ∃ past, CarriedOut commands past history ∧ RejectedFor request past e := by
  obtain ⟨past, ran, carried⟩ := runs_expand (reaches_runs reaches)
  have granted : foreignMonitor.Answers [] past := by
    refine .of_each (fun event mem g => ?_) []
    obtain ⟨part, partRun, among⟩ := carried event mem
    exact commands_foreign partRun fun e' mem' => given e' (among mem')
  have ended := holds_reached (serve_reasoned config request) ran.reaches granted
  have whole : foreignMonitor.after [] past = past :=
    @historyMonitor_after _ _ _ (fun _ _ => True) [] past
  rw [whole] at ended
  refine ⟨past, carried, ?_⟩
  rcases ended _ rfl with ordinary | ⟨_, same, rejected⟩
  · exact absurd rejection (ordinary e rfl)
  · cases same
    exact rejected

theorem foreign_history [DecidableEq ι] {run : TenantRun ι}
    (isRun : IsRun (TenantStep ι) (tenantPool config requests redis) run)
    (packages : StepsMeet ForeignOnly (tenantPool config requests redis) run) (i : ι) :
    ∀ e ∈ (final (tenantPool config requests redis) run).history i, wireForeign e = true := by
  intro e mem
  rcases history_from isRun mem with old | ⟨before, s, after, rfl⟩
  · cases old
  · exact packages.later.1

theorem exceeded_rejection (rate : RateLimit) (tenant : TenantContext) :
    LimitRejection (rateLimitHttpException (rate.exceeded tenant)) := by
  cases rate <;> exact ⟨rfl, _, _, rfl⟩

theorem rate_reason {request : ChatRequest} {past : List GatewayEvent} {rate : RateLimit}
    (rejected : RejectedFor request past (rateLimitHttpException (rate.exceeded request.tenant))) :
    ∃ cost : ℕ, (rate = .requests → cost = 1) ∧
      Denied past (rate.key request.tenant.tenantId) (rate.limit request.tenant) cost := by
  generalize same : rateLimitHttpException (rate.exceeded request.tenant) = e at rejected
  cases rejected with
  | rate rate' cost single denied =>
    have codes : rate = rate' := by
      cases rate <;> cases rate' <;>
        simp_all [rateLimitHttpException, openaiError, RateLimit.exceeded, rpmExceeded, tpmExceeded]
    subst codes
    exact ⟨cost, single, denied⟩
  | budget month cost reply denied mem =>
    cases rate <;>
      simp [rateLimitHttpException, openaiError, RateLimit.exceeded, rpmExceeded, tpmExceeded,
        budgetExceeded] at same
  | slot mem =>
    cases rate <;>
      simp [rateLimitHttpException, tooManyRequests, openaiError, RateLimit.exceeded, rpmExceeded,
        tpmExceeded] at same

theorem rate_under (rate : RateLimit) {limit : ℕ}
    (limits : ∀ i, tenantOf requests i = a → (limit : ℤ) ≤ rate.limit (requests i).tenant) :
    ChargedUnder config requests (rate.key a) limit := by
  intro i cmd sent on
  cases rate with
  | requests =>
    obtain ⟨mine, rfl⟩ := sent_on_rpm sent on
    exact ⟨_, 1, by exact_mod_cast limits i mine, by norm_num, rfl⟩
  | tokens =>
    obtain ⟨mine, promptTokens, rfl⟩ := sent_on_tpm sent on
    exact ⟨_, promptTokens, by exact_mod_cast limits i mine, Int.natCast_nonneg _, rfl⟩

variable [DecidableEq ι]

/-- A request that is answered 429 for its rate comes from a tenant over its limit: the run has a
stretch, right before the script denied the request, in which the tenant's requests took so much
that the limit and what it refills in that time leave less than the request costs. A
stretch from the start on begins with what the bucket held then. -/
theorem refused_over_limit (config : GatewayConfig) (requests : ι → ChatRequest) (redis : RedisStore)
    (a : Uuid) (rate : RateLimit) (limit : ℕ) (left : LeftBy redis.now (redis.cells (rate.key a)))
    (limits : ∀ i, tenantOf requests i = a → (limit : ℤ) ≤ rate.limit (requests i).tenant)
    (run : TenantRun ι) (isRun : IsRun (TenantStep ι) (tenantPool config requests redis) run)
    (packages : StepsMeet ForeignOnly (tenantPool config requests redis) run)
    (forward : StepsMeet Forward (tenantPool config requests redis) run) (i : ι)
    (mine : tenantOf requests i = a)
    (refused : (final (tenantPool config requests redis) run).threads i =
      .done (.error (.http (rateLimitHttpException (rate.exceeded (requests i).tenant))))) :
    ∃ before stretch denial s after, run = before ++ stretch ++ (.call i denial, s) :: after ∧
      ∃ cost : ℕ, (rate = .requests → cost = 1) ∧
        (∃ remaining, denial = ⟨.redis (.tokenBucketScript (rate.key a)
          ⟨rate.limit (requests i).tenant, rate.limit (requests i).tenant / 60, (cost : ℤ)⟩),
          .ok (.answered (.ok ⟨false, remaining⟩))⟩) ∧
        ∃ room : ℚ, (room = limit ∨ before = [] ∧ room = level limit (rate.key a) redis) ∧
          room + limit / 60 * elapsed stretch < total (taken (rate.key a)) stretch + cost := by
  have own : (requests i).tenant.tenantId = a := mine
  have followed : Followed (fun i => serveWire config (requests i))
      (final (tenantPool config requests redis) run) :=
    (start_followed redis fun i => serveWire config (requests i)).run isRun
  have reaches := followed i
  rw [refused] at reaches
  obtain ⟨past, carried, rejected⟩ := rejected_reason reaches (foreign_history isRun packages i)
    (exceeded_rejection rate _)
  obtain ⟨cost, single, ⟨allowed, remaining⟩, denied, mem⟩ := rate_reason rejected
  obtain ⟨part, partRun, among⟩ := carried _ mem
  rw [runs_redis partRun, own] at among
  cases denied
  have uses : BucketLeft config requests (rate.key a) (tenantPool config requests redis) :=
    ⟨fun i => serveWire_placed config (requests i), left⟩
  obtain ⟨before, stretch, s, after, split, room, origin, above⟩ := denied_over_limit
    (rate_under rate limits) (Nat.cast_nonneg limit) uses isRun forward rfl
    (by exact_mod_cast limits i mine) (Int.natCast_nonneg cost) rfl (among (.head _))
  exact ⟨before, stretch, _, s, after, split, cost, single, ⟨remaining, rfl⟩, room, origin,
    by exact_mod_cast above⟩

theorem drained_left : LeftBy drainedRedis.now (drainedRedis.cells (rpmBucketKey helloTenantId)) := by
  refine ⟨⟨0, 0⟩, ?_, le_refl _, le_refl _⟩
  simp [bucketKeyTtlSeconds]

theorem refused_over_limit_drained :
    ∃ run : TenantRun Unit, ∃ before stretch denial s after,
      IsRun (TenantStep Unit) (onePool helloConfig (helloChat false none) drainedRedis) run ∧
        run = before ++ stretch ++ (.call () denial, s) :: after ∧
        ∃ room : ℚ, room + (60 : ℕ) / 60 * elapsed stretch <
          total (taken (rpmBucketKey helloTenantId)) stretch + 1 := by
  obtain ⟨redis, served⟩ := drained_served
  obtain ⟨run, isRun, meets, ends, labels⟩ := solo_run
    (p := onePool helloConfig (helloChat false none) drainedRedis) (i := ()) drained_sent.reaches served
  have rejected : (final (onePool helloConfig (helloChat false none) drainedRedis) run).threads () =
      .done (.error (.http (rateLimitHttpException (rpmExceeded helloTenant)))) := by
    rw [ends]
    rfl
  have packages : StepsMeet ForeignOnly (onePool helloConfig (helloChat false none) drainedRedis) run := by
    refine meets.mono ?_
    rintro p (⟨j, e⟩ | k) met
    · exact met.1
    · trivial
  obtain ⟨before, stretch, denial, s, after, split, cost, single, -, room, -, above⟩ :=
    refused_over_limit helloConfig (fun _ => helloChat false none) drainedRedis helloTenantId .requests 60
      drained_left (fun _ _ => by decide) run isRun packages (calls_forward labels) () rfl rejected
  rw [single rfl] at above
  exact ⟨run, before, stretch, denial, s, after, isRun, split, room, by exact_mod_cast above⟩

end Rejections
end AegisGateway.LimitRefusals
