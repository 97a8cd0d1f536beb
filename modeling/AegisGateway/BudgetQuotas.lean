import AegisGateway.TenantQuotas

set_option autoImplicit false

/-!
# What a tenant's prompts cost in a month

The budget counter of a month only grows while it lives, and below a million it is exact. So
what the requests of the month that reached a provider were estimated at stays within the
budget, whatever came of them.
-/
namespace AegisGateway.BudgetQuotas
open EffectProgram TransitionRuns ProgramPool CellStore RedisCommands TenantIsolation RequestCalls
open RunAccounts ProviderGates RejectedRequests TenantQuotas Pricing BudgetCounter
open SignificantDigits (Representable roundSig_eq_self_iff)
open TokenBucket (LimitResult)

section Counters

def storedAmount : Option Entry → ℚ
  | some ⟨.amount x, _⟩ => x
  | _ => 0

/-- The amounts that sums of estimates can be. -/
def OnGrid (x : ℚ) : Prop := ∃ n : ℕ, x = n / 10 ^ 8

/-- A counter within the limit that lives longer than what is still to pass, or none. -/
def Ledger (limit now rest : ℚ) : Option Entry → Prop
  | none => True
  | some ⟨.amount x, some expiresAt⟩ => OnGrid x ∧ x ≤ limit ∧ now + rest < expiresAt
  | some _ => False

/-- What an answered script added to a counter. -/
def reserved (key : String) : WireEvent → ℚ
  | ⟨.redis (.budgetScript k increment _), .ok (.answered (.ok result))⟩ =>
    if k = key ∧ result.allowed = true then max 0 increment else 0
  | _ => 0

theorem reserved_nonneg (key : String) (e : WireEvent) : 0 ≤ reserved key e := by
  unfold reserved
  split
  · split
    · exact le_max_left _ _
    · exact le_refl _
  · exact le_refl _

variable {limit now rest : ℚ}

theorem OnGrid.nonneg {x : ℚ} (grid : OnGrid x) : 0 ≤ x := by
  obtain ⟨n, rfl⟩ := grid
  positivity

theorem OnGrid.add {x y : ℚ} (hx : OnGrid x) (hy : OnGrid y) : OnGrid (x + y) := by
  obtain ⟨n, rfl⟩ := hx
  obtain ⟨m, rfl⟩ := hy
  refine ⟨n + m, ?_⟩
  push_cast
  ring

theorem OnGrid.exact {x : ℚ} (grid : OnGrid x) (small : x < 10 ^ 6) : tostring x = x := by
  have nonneg := grid.nonneg
  obtain ⟨n, rfl⟩ := grid
  exact (roundSig_eq_self_iff (by norm_num) nonneg).mpr (representable_below_million small)

theorem ledger_amount {entry : Option Entry} (ledger : Ledger limit now rest entry) :
    OnGrid (storedAmount entry) := by
  rcases entry with _ | ⟨value, expiresAt⟩
  · exact ⟨0, by simp [storedAmount]⟩
  · cases value with
    | amount x =>
      cases expiresAt with
      | none => exact ledger.elim
      | some t => exact ledger.1
    | _ => exact ledger.elim

theorem ledger_le {entry : Option Entry} (ledger : Ledger limit now rest entry) (nonneg : 0 ≤ limit) :
    storedAmount entry ≤ limit := by
  rcases entry with _ | ⟨value, expiresAt⟩
  · exact nonneg
  · cases value with
    | amount x =>
      cases expiresAt with
      | none => exact ledger.elim
      | some t => exact ledger.2.1
    | _ => exact ledger.elim

theorem ledger_run {key : String} {entry : Option Entry} {increment cap : ℚ} (still : 0 ≤ rest)
    (ledger : Ledger limit now rest entry) :
    ∃ stored, stored.getD 0 = storedAmount entry ∧
      run now entry (.budgetScript key increment cap) = runBudget increment cap now entry stored := by
  rcases entry with _ | ⟨value, expiresAt⟩
  · exact ⟨none, rfl, rfl⟩
  · cases value with
    | amount x =>
      cases expiresAt with
      | none => exact ledger.elim
      | some t =>
        have alive : Entry.live now ⟨.amount x, some t⟩ = true := by
          have later := ledger.2.2
          simp only [Entry.live, Option.all_some, decide_eq_true_eq]
          linarith
        refine ⟨some x, rfl, ?_⟩
        rw [run, Option.filter, if_pos alive]
        rfl
    | _ => exact ledger.elim

theorem ledger_script {key : String} {entry entry' : Option Entry} {increment cap : ℚ}
    {result : Except Exn LimitResult} (still : 0 ≤ rest) (brief : rest < budgetKeyTtlSeconds)
    (ledger : Ledger limit now rest entry) (grid : OnGrid increment) (le : cap ≤ limit)
    (small : limit < 10 ^ 6)
    (ran : (result, entry') = run now entry (.budgetScript key increment cap)) :
    Ledger limit now rest entry' ∧ storedAmount entry +
        reserved key ⟨.redis (.budgetScript key increment cap), .ok (.answered result)⟩ ≤
      storedAmount entry' := by
  obtain ⟨stored, amount, runs⟩ := @ledger_run limit now rest key entry increment cap still ledger
  rw [runs, runBudget] at ran
  by_cases above : stored.getD 0 + increment > cap
  · rw [budgetLua_denied above] at ran
    cases ran
    refine ⟨ledger, ?_⟩
    have silent : reserved key ⟨.redis (.budgetScript key increment cap),
        .ok (.answered (.ok ⟨false, tostring (stored.getD 0)⟩))⟩ = 0 := by
      simp [reserved]
    rw [silent, add_zero]
    rfl
  · rw [budgetLua_allowed above] at ran
    cases ran
    rw [amount] at above ⊢
    have sum := (ledger_amount ledger).add grid
    have within : storedAmount entry + increment ≤ limit := (not_lt.mp above).trans le
    have kept := sum.exact (within.trans_lt small)
    rw [kept]
    refine ⟨⟨sum, within, by linarith⟩, ?_⟩
    have took : reserved key ⟨.redis (.budgetScript key increment cap),
        .ok (.answered (.ok ⟨true, storedAmount entry + increment⟩))⟩ = increment := by
      simp [reserved, grid.nonneg]
    rw [took]
    rfl

theorem ledger_effect {key : String} {entry entry' : Option Entry} {increment cap : ℚ}
    {o : Except Exn (Reply LimitResult)} (still : 0 ≤ rest) (brief : rest < budgetKeyTtlSeconds)
    (ledger : Ledger limit now rest entry) (grid : OnGrid increment) (le : cap ≤ limit)
    (small : limit < 10 ^ 6) (ran : effect now entry (.redis (.budgetScript key increment cap)) o entry') :
    Ledger limit now rest entry' ∧ storedAmount entry +
        reserved key ⟨.redis (.budgetScript key increment cap), o⟩ ≤ storedAmount entry' := by
  rcases o with exc | result | ⟨exc, carriedOut⟩
  · exact ran.elim
  · exact ledger_script still brief ledger grid le small ran
  · have silent : reserved key ⟨.redis (.budgetScript key increment cap),
        .ok (.lost exc carriedOut)⟩ = 0 := rfl
    rw [silent, add_zero]
    have left : entry' = if carriedOut then
      (run now entry (.budgetScript key increment cap)).2 else entry := ran
    rw [left]
    split
    · obtain ⟨ledger', raised⟩ := @ledger_script limit now rest key entry _ increment cap _ still brief
        ledger grid le small rfl
      exact ⟨ledger', le_trans (le_add_of_nonneg_right (reserved_nonneg _ _)) raised⟩
    · exact ⟨ledger, le_refl _⟩

theorem ledger_tick {entry : Option Entry} {duration : ℚ}
    (ledger : Ledger limit now (max 0 duration + rest) entry) :
    Ledger limit (now + duration) rest entry := by
  rcases entry with _ | ⟨value, expiresAt⟩
  · trivial
  · cases value with
    | amount x =>
      cases expiresAt with
      | none => exact ledger.elim
      | some t =>
        obtain ⟨grid, le, later⟩ := ledger
        have forward := le_max_right 0 duration
        exact ⟨grid, le, by linarith⟩
    | _ => exact ledger.elim

end Counters

section Runs
variable {ι : Type} {config : GatewayConfig} {requests : ι → ChatRequest} {a : Uuid} {month : String}
  {limit rest : ℚ}

theorem sent_on_budget {request : ChatRequest} {cmd : RedisCommand} (sent : Sent config request cmd)
    (on : cmd.key = budgetKey a month) :
    request.tenant.tenantId = a ∧ ∃ (model : String) (promptTokens : ℕ) (providerName : String),
      cmd = .budgetScript (budgetKey a month) (estimatePromptCostUsd model promptTokens providerName)
        request.tenant.monthlyBudgetUsd.value := by
  obtain ⟨rfl, family⟩ := @sent_on _ _ _ _ (.budget month) sent on
  refine ⟨rfl, ?_⟩
  cases sent with
  | budget reservation =>
    cases reservation with
    | estimate month' model promptTokens providerName =>
      refine ⟨model, promptTokens, providerName, ?_⟩
      rw [← show budgetKey request.tenant.tenantId month' = budgetKey request.tenant.tenantId month from on]
  | _ => exact absurd family (by simp [families, RedisKey.family])

/-- The requests go on as they may, and the counter is kept. -/
structure LedgerKept (config : GatewayConfig) (requests : ι → ChatRequest) (key : String)
    (limit : ℚ) (p : TenantPool ι) (rest : ℚ) : Prop where
  uses : EachUses (fun i => WirePlaced config (requests i)) p
  ledger : Ledger limit p.shared.now rest (p.shared.cells key)
  brief : rest < budgetKeyTtlSeconds

variable [DecidableEq ι]

theorem ledger_called
    (limits : ∀ i, tenantOf requests i = a → (requests i).tenant.monthlyBudgetUsd.value ≤ limit)
    (small : limit < 10 ^ 6) (still : 0 ≤ rest) {p q : TenantPool ι} {i : ι} {e : WireEvent}
    (held : LedgerKept config requests (budgetKey a month) limit p rest)
    (step : TenantStep ι p (.call i e) q) :
    Ledger limit q.shared.now rest (q.shared.cells (budgetKey a month)) ∧
      storedAmount (p.shared.cells (budgetKey a month)) + reserved (budgetKey a month) e ≤
        storedAmount (q.shared.cells (budgetKey a month)) := by
  have placed := held.uses.called step
  have answered : redisCells.Answers p.shared e.1 e.2 q.shared := Step.answered step
  rw [answered.now]
  obtain ⟨op, o⟩ := e
  by_cases mine : budgetKey a month ∈ redisCells.key op
  · cases op with
    | outside op => cases mine
    | redis cmd =>
      obtain ⟨own, model, promptTokens, providerName, rfl⟩ :=
        sent_on_budget placed (Option.some.inj mine)
      obtain ⟨entry, ran, shared⟩ := answered
      rw [shared, Store.put]
      change Ledger _ _ _ (Function.update p.shared.cells (budgetKey a month) entry
          (budgetKey a month)) ∧ _ ≤ storedAmount (Function.update p.shared.cells (budgetKey a month)
          entry (budgetKey a month))
      rw [Function.update_self]
      exact ledger_effect still held.brief held.ledger (estimatePromptCostUsd_grid _ _ _)
        (limits i own) small ran
  · have silent : reserved (budgetKey a month) ⟨op, o⟩ = 0 := by
      unfold reserved
      split
      · rename_i k increment cap result same
        cases same
        rw [if_neg]
        rintro ⟨rfl, _⟩
        exact mine rfl
      · rfl
    rw [answered.frame mine, silent, add_zero]
    exact ⟨held.ledger, le_refl _⟩

theorem ledger_step
    (limits : ∀ i, tenantOf requests i = a → (requests i).tenant.monthlyBudgetUsd.value ≤ limit)
    (small : limit < 10 ^ 6) (still : 0 ≤ rest) (s : Finset ι) {p q : TenantPool ι} {l : TenantLabel ι}
    (held : LedgerKept config requests (budgetKey a month) limit p (elapse l + rest))
    (step : TenantStep ι p l q) :
    LedgerKept config requests (budgetKey a month) limit q rest ∧
      spent (reserved (budgetKey a month)) s q - storedAmount (q.shared.cells (budgetKey a month)) ≤
        spent (reserved (budgetKey a month)) s p - storedAmount (p.shared.cells (budgetKey a month)) +
          0 * elapse l := by
  have uses := held.uses.step step
  cases l with
  | call i e =>
    have same : elapse (.call i e : TenantLabel ι) + rest = rest := zero_add rest
    rw [same] at held
    obtain ⟨ledger, raised⟩ := ledger_called limits small still held step
    refine ⟨⟨uses, ledger, held.brief⟩, ?_⟩
    rw [spent_call step]
    have charge := reserved_nonneg (budgetKey a month) e
    split <;> linarith
  | env duration =>
    have moved : q.shared = { p.shared with now := p.shared.now + duration } := by
      cases step with
      | env moved => exact moved
    have forward := elapse_nonneg (.env duration : TenantLabel ι)
    have brief := held.brief
    rw [spent_env step]
    refine ⟨⟨uses, ?_, by linarith⟩, ?_⟩
    · rw [moved]
      exact ledger_tick held.ledger
    · rw [moved]
      change _ - storedAmount (p.shared.cells (budgetKey a month)) ≤ _
      linarith

end Runs

section Quota
variable {ι : Type} [DecidableEq ι]

/-- What the prompt of a request is estimated at. -/
def promptEstimate (tok : Metering.Tokenizer) (config : GatewayConfig) (request : ChatRequest) : ℚ :=
  match resolve config.providers request.body.model with
  | .ok providerName =>
    estimatePromptCostUsd request.body.model (promptCharge tok request) providerName
  | .error _ => 0

theorem budget_reserved {past : List GatewayEvent} {new : List WireEvent} {tenant : TenantContext}
    {estimate : ℚ} (carried : CarriedOut commands past new)
    (allowed : BudgetAllowed past tenant estimate) :
    ∃ month, (⟨.outside .utcMonth, .ok month⟩ : WireEvent) ∈ new ∧
      ∃ e ∈ new, estimate ≤ reserved (budgetKey tenant.tenantId month) e := by
  obtain ⟨month, result, ok, clock, mem⟩ := allowed
  obtain ⟨part, run, among⟩ := carried _ mem
  obtain ⟨part', run', among'⟩ := carried _ clock
  rw [runs_redis run] at among
  rw [runs_perform run'] at among'
  refine ⟨month, among' (.head _), _, among (.head _), ?_⟩
  rw [reserved, if_pos ⟨rfl, ok⟩]
  exact le_max_right _ _

/-- What a tenant's requests of one month that have reached a provider were estimated at, and what
the counter held before them, is within the budget. -/
theorem forwarded_cost_limited (tok : Metering.Tokenizer) (config : GatewayConfig)
    (requests : ι → ChatRequest) (redis : RedisStore) (a : Uuid) (month : String) (limit : ℚ)
    (nonneg : 0 ≤ limit) (small : limit < 10 ^ 6)
    (limits : ∀ i, tenantOf requests i = a → (requests i).tenant.monthlyBudgetUsd.value ≤ limit)
    (run : TenantRun ι) (brief : elapsed run < budgetKeyTtlSeconds)
    (ledger : Ledger limit redis.now (elapsed run) (redis.cells (budgetKey a month)))
    (isRun : IsRun (TenantStep ι) (tenantPool config requests redis) run) (s : Finset ι)
    (mine : ∀ i ∈ s, tenantOf requests i = a)
    (forwarded : ∀ i ∈ s, Forwarded (final (tenantPool config requests redis) run) i)
    (inMonth : ∀ i ∈ s, ∀ month',
      (⟨.outside .utcMonth, .ok month'⟩ : WireEvent) ∈
        (final (tenantPool config requests redis) run).history i → month' = month)
    (gave : ∀ i ∈ s, ∀ e ∈ (final (tenantPool config requests redis) run).history i, WireGave tok e) :
    storedAmount (redis.cells (budgetKey a month)) + ∑ i ∈ s, promptEstimate tok config (requests i) ≤
      limit := by
  have opened : LedgerKept config requests (budgetKey a month) limit (tenantPool config requests redis)
      (elapsed run) := ⟨fun i => serveWire_placed config (requests i), ledger, brief⟩
  obtain ⟨closed, bounded⟩ := potential_le (I := LedgerKept config requests (budgetKey a month) limit)
    (fun q => spent (reserved (budgetKey a month)) s q -
      storedAmount (q.shared.cells (budgetKey a month))) 0 elapse_nonneg
    (fun _ _ _ _ still held step => ledger_step limits small still s held step) isRun opened
  have made : ∀ i ∈ s, promptEstimate tok config (requests i) ≤ 0 ∨
      ∃ e ∈ (final (tenantPool config requests redis) run).history i,
        promptEstimate tok config (requests i) ≤ reserved (budgetKey a month) e := by
    intro i mem
    obtain ⟨past, body, carried, gated⟩ := run_gated isRun (forwarded i mem)
    obtain ⟨providerName, promptTokens, resolved, ran, passed⟩ := gated.limits
    have estimate : promptEstimate tok config (requests i) =
        estimatePromptCostUsd (requests i).body.model promptTokens providerName := by
      rw [promptEstimate, resolved, counted_charge carried (gave i mem) ran]
    rw [estimate]
    rcases passed.budget with free | allowed
    · exact .inl free.le
    · obtain ⟨month', clock, e, here, covered⟩ := budget_reserved carried allowed
      have own : (requests i).tenant.tenantId = a := mine i mem
      rw [own, inMonth i mem month' clock] at covered
      exact .inr ⟨e, here, covered⟩
  have within := ledger_le closed.ledger nonneg
  have recorded := cost_le_spent (reserved_nonneg (budgetKey a month)) made
  have begun : spent (reserved (budgetKey a month)) s (tenantPool config requests redis) = 0 :=
    spent_fresh fun _ _ => rfl
  rw [begun] at bounded
  change _ ≤ 0 - storedAmount (redis.cells (budgetKey a month)) + _ at bounded
  linarith

theorem forwarded_cost_limited_paid :
    ∃ run : TenantRun Unit, IsRun (TenantStep Unit) (onePool pricedConfig pricedChat emptyRedis) run ∧
      Forwarded (final (onePool pricedConfig pricedChat emptyRedis) run) () ∧
      storedAmount (emptyRedis.cells (budgetKey helloTenantId "2024-06")) +
        ∑ _i ∈ ({()} : Finset Unit), promptEstimate oneToken pricedConfig pricedChat ≤ 100 := by
  obtain ⟨run, isRun, history, still⟩ := paid_run
  refine ⟨run, isRun, paid_forwarded history, ?_⟩
  refine forwarded_cost_limited oneToken pricedConfig (fun _ => pricedChat) emptyRedis helloTenantId
    "2024-06" 100 (by norm_num) (by norm_num) (fun _ _ => ?_) run ?_ trivial isRun {()} (fun _ _ => rfl)
    (fun _ _ => paid_forwarded history) (fun _ _ month clock => ?_) (fun _ _ => paid_gave history)
  · norm_num [pricedChat, helloChat, helloTenant, hundredDollars, Numeric102.value]
  · rw [still]
    norm_num [budgetKeyTtlSeconds]
  · change _ ∈ (final (onePool pricedConfig pricedChat emptyRedis) run).history () at clock
    rw [history] at clock
    simpa [paidTrace, crowdedTrace, paidSent, sent] using clock

end Quota

end AegisGateway.BudgetQuotas
