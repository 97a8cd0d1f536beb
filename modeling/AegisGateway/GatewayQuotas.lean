import AegisGateway.EntitledRequests

set_option autoImplicit false

/-!
# What the limits of a row come to

The limit that a tenant is held to is that of its row when its key was looked up. So a bound on
what the row ever says bounds what all keys of the tenant together bring to the providers.
-/
namespace AegisGateway.GatewayQuotas
open EffectProgram TransitionRuns ProgramPool RunAccounts StagedPrograms
open Accounts RedisCommands TenantIsolation TenantQuotas EntitledRequests
open BudgetScan (RlsContext)
open KeyLifecycle (firstSettings)
open RejectedRequests (TenantStep)
open Revocations (harmless answered_db answered_commit)

section Seconds
variable {ι : Type}

def gatewayElapse (l : GatewayLabel ι) : ℚ := ((secondLabel l).map elapse).getD 0

def gatewayElapsed (run : GatewayRun ι) : ℚ := total gatewayElapse run

theorem elapsed_seen {run : GatewayRun ι} {run₂ : RejectedRequests.TenantRun ι}
    (labels : run₂.map Prod.fst = run.filterMap fun step => secondLabel step.1) :
    elapsed run₂ = gatewayElapsed run := by
  have seen : elapsed run₂ = ((run₂.map Prod.fst).map elapse).sum := by
    rw [elapsed, total, List.map_map]
    rfl
  rw [seen, labels]
  clear seen labels
  induction run with
  | nil => rfl
  | cons head rest ih =>
    rw [gatewayElapsed, total_cons, ← gatewayElapsed, ← ih, List.filterMap_cons, gatewayElapse]
    cases secondLabel head.1 with
    | none => exact (zero_add _).symm
    | some l => rfl

end Seconds

section Limits
variable {ι : Type} {settings : AccountSettings} {config : GatewayConfig} {requests : ι → GatewayRequest}
  {redis : RedisStore} {a : Uuid}

def LetInFor (settings : AccountSettings) (requests : ι → GatewayRequest) (a : Uuid) (p : GatewayPool ι)
    (i : ι) : Prop :=
  ∃ tenant t₁ rest, p.history i = t₁.map firstEvent ++ rest ∧
    Runs (getCurrentTenant settings (requests i).auth) t₁ (.ok tenant) ∧ tenant.tenantId = a

def ReachedProvider (p : GatewayPool ι) (i : ι) : Prop :=
  ∃ op o body, (⟨.inr (.outside op), o⟩ : BothEvent DbRet WireRet Exn) ∈ p.history i ∧
    ProviderGates.providerBody op = some body

/-- These requests were let in for the tenant and have called a provider at the end, but had sent
nothing to Redis at the beginning. -/
structure ServedIn (settings : AccountSettings) (requests : ι → GatewayRequest) (a : Uuid)
    (opened closed : GatewayPool ι) (s : Finset ι) : Prop where
  mine : ∀ i ∈ s, LetInFor settings requests a closed i
  fresh : ∀ i ∈ s, (opened.history i).filterMap secondOf = []
  reached : ∀ i ∈ s, ReachedProvider closed i

/-- What the tenant's row says of requests per minute, as long as it is there. -/
def RowWithin (a : Uuid) (rpm : ℕ) (p : GatewayPool ι) : Prop :=
  ∀ tenant, p.shared.1.db.tenants.lookup a = some tenant →
    0 ≤ tenant.rateLimitRpm ∧ tenant.rateLimitRpm ≤ rpm

theorem ServedIn.through {opened closed : GatewayPool ι} {opened₂ closed₂ : TenantPool ι} {s : Finset ι}
    {tenants : ι → TenantContext} (served : ServedIn settings requests a opened closed s)
    (settles : Settles (fun i => getCurrentTenant settings (requests i).auth) tenants closed)
    (opens : Serves settings config requests tenants opened opened₂)
    (closes : Serves settings config requests tenants closed closed₂) :
    Through (resolvedChats requests tenants) a opened₂ closed₂ s where
  mine i mem := by
    obtain ⟨tenant, t₁, rest, history, returned, own⟩ := served.mine i mem
    have same : tenants i = tenant := settles i t₁ rest tenant history returned
    change (tenants i).tenantId = a
    rw [same, own]
  fresh i mem := by
    rw [(opens.stages i).history]
    exact served.fresh i mem
  forwarded i mem := by
    obtain ⟨op, o, body, called, forwards⟩ := served.reached i mem
    refine ⟨⟨.outside op, o⟩, ?_, op, rfl, body, forwards⟩
    rw [(closes.stages i).history]
    exact List.mem_filterMap.mpr ⟨_, called, rfl⟩

variable [DecidableEq ι] {rpm : ℕ}

theorem letIn_limits {run : GatewayRun ι}
    (isRun : IsRun (GatewayStep settings ι) (gatewayPool settings config requests redis) run)
    (rows : ∀ p ∈ visited (gatewayPool settings config requests redis) run, RowWithin a rpm p) {i : ι}
    {tenant : TenantContext} {t₁ : List (Event DbOp DbRet Exn)} {rest : List (BothEvent DbRet WireRet Exn)}
    (history : (final (gatewayPool settings config requests redis) run).history i = t₁.map firstEvent ++ rest)
    (returned : Runs (getCurrentTenant settings (requests i).auth) t₁ (.ok tenant))
    (mine : tenant.tenantId = a) : 0 ≤ tenant.rateLimitRpm ∧ tenant.rateLimitRpm ≤ rpm := by
  obtain ⟨keyId, secretPart, row, owner, looked, between, after, -, rfl, rfl⟩ :=
    getCurrentTenant_returned returned
  have split : calls i run = (looked.map firstEvent ++
      firstEvent ⟨.selectApiKey keyId, .ok (some row)⟩ :: between.map firstEvent) ++
        firstEvent ⟨.getTenant row.tenantId, .ok (some owner)⟩ :: (after.map firstEvent ++ rest) := by
    refine ((history_calls isRun i).symm.trans history).trans ?_
    simp
  obtain ⟨early, s, later, rfl, -, -⟩ := calls_split split
  have found := found_tenant (Step.answered isRun.later.1).1
  have own : row.tenantId = a := mine
  rw [own] at found
  exact rows _ (mem_visited_append (final_mem_visited _ early)) owner found

/-- Whatever keys a tenant's requests come with and however its row is changed on the way, in any
window no more of them reach a provider than the highest limit that the row has had and what that
refills. -/
theorem row_limits_forwarded (a : Uuid) (rpm : ℕ) (kept : WellKept (redis.cells (rpmBucketKey a)))
    (before window : GatewayRun ι)
    (isRun : IsRun (GatewayStep settings ι) (gatewayPool settings config requests redis) (before ++ window))
    (rows : ∀ p ∈ visited (gatewayPool settings config requests redis) (before ++ window), RowWithin a rpm p)
    (s : Finset ι)
    (served : ServedIn settings requests a (final (gatewayPool settings config requests redis) before)
      (final (gatewayPool settings config requests redis) (before ++ window)) s) :
    (s.card : ℚ) ≤ rpm + rpm / 60 * gatewayElapsed window := by
  obtain ⟨tenants, settles, known⟩ := exists_settles (fun i => getCurrentTenant settings (requests i).auth)
    { helloTenant with rateLimitRpm := 0 } (final (gatewayPool settings config requests redis) (before ++ window))
  have limits : ∀ i, tenantOf (resolvedChats requests tenants) i = a →
      0 ≤ (resolvedChats requests tenants i).tenant.rateLimitRpm ∧
        (resolvedChats requests tenants i).tenant.rateLimitRpm ≤ rpm := by
    intro i own
    change 0 ≤ (tenants i).rateLimitRpm ∧ (tenants i).rateLimitRpm ≤ rpm
    rcases known i with unsettled | ⟨t₁, rest, history, returned⟩
    · rw [unsettled]
      exact ⟨le_refl 0, Int.natCast_nonneg rpm⟩
    · exact letIn_limits isRun rows history returned own
  have laterSettles := settles
  rw [final_append] at laterSettles
  obtain ⟨before₂, isBefore, opens, -⟩ :=
    (gateway_begins tenants).run (laterSettles.earlier isRun.later) (run_earlier isRun)
  obtain ⟨window₂, isWindow, closes, labels⟩ := opens.run laterSettles isRun.later
  rw [← final_append, ← final_append] at closes
  have through := served.through settles opens closes
  have isRun₂ := isBefore.append isWindow
  calc (s.card : ℚ)
    _ = ∑ i ∈ s, 1 := by simp
    _ ≤ spent (charged (rpmBucketKey a)) s (final _ (before₂ ++ window₂)) :=
      cost_le_spent (charged_nonneg _) fun i mem =>
        .inr (forwarded_charged isRun₂ (through.mine i mem) (through.forwarded i mem))
    _ ≤ rpm + rpm / 60 * elapsed window₂ :=
      bucket_window (charged_rpm limits) (Nat.cast_nonneg _) (start_kept kept) isRun₂ through.fresh
    _ = rpm + rpm / 60 * gatewayElapsed window := by rw [elapsed_seen labels]

end Limits

section FirstRequest

theorem harmless_tenants {keyId : String} {context : RlsContext} {db db' : Database} {writes : List Write}
    (h : ∀ write ∈ writes, harmless keyId write = true)
    (applied : applyWrites context db writes = some db') : db'.tenants = db.tenants := by
  induction writes generalizing db with
  | nil =>
    cases applied
    rfl
  | cons write rest ih =>
    rw [applyWrites_cons] at applied
    obtain ⟨written, first, later⟩ := Option.bind_eq_some_iff.mp applied
    refine (ih (fun other mem => h other (.tail _ mem)) later).trans ?_
    have here := h write (.head _)
    cases write with
    | setLastUsedAt other now =>
      obtain ⟨row, stored, rfl⟩ := updateApiKey_applied first
      rfl
    | insertAudit row => exact (insertAudit_same first).1
    | _ => cases here

variable {ι : Type} [DecidableEq ι] {settings : AccountSettings} {a : Uuid} {rpm : ℕ}

theorem row_kept {p p' : GatewayPool ι} {l : GatewayLabel ι} (modest : EachUses (fun _ => Modest) p)
    (quiet : operationOf l = none) (within : RowWithin a rpm p) (step : GatewayStep settings ι p l p') :
    RowWithin a rpm p' := by
  have kept : p'.shared.1.db.tenants = p.shared.1.db.tenants := by
    cases l with
    | call i e =>
      obtain ⟨op, o⟩ := e
      have used := modest.called step
      have answered := Step.answered step
      cases op with
      | inl op =>
        cases op with
        | commit writes =>
          rcases answered_commit answered.1 with applied | ⟨same, _⟩
          · exact harmless_tenants used applied
          · rw [same]
        | _ => rw [answered_db (fun _ => by simp) answered.1]
      | inr op => rw [answered.1]
    | env k =>
      cases step with
      | @env k s moved =>
        cases k with
        | inr duration =>
          change s.1.db.tenants = _
          rw [moved.1]
        | inl move =>
          cases move with
          | audited rows =>
            change s.1.db.tenants = _
            rw [moved.1]
          | performed record => cases quiet
  intro tenant found
  rw [kept] at found
  exact within tenant found

theorem rows_kept {p : GatewayPool ι} {run : GatewayRun ι} (isRun : IsRun (GatewayStep settings ι) p run)
    (modest : EachUses (fun _ => Modest) p) (quiet : operations run = []) (within : RowWithin a rpm p) :
    ∀ q ∈ visited p run, RowWithin a rpm q := by
  induction run generalizing p with
  | nil =>
    intro q mem
    rw [List.mem_singleton.mp mem]
    exact within
  | cons head rest ih =>
    have none : ∀ step ∈ head :: rest, operationOf step.1 = .none := List.filterMap_eq_nil_iff.mp quiet
    intro q mem
    rcases mem_visited_cons.mp mem with rfl | later
    · exact within
    · refine ih isRun.2 (modest.step isRun.1) ?_ (row_kept modest (none head (.head _)) within isRun.1) q later
      exact List.filterMap_eq_nil_iff.mpr fun step mem => none step (.tail _ mem)

theorem started_kept {p : GatewayPool ι} {run : GatewayRun ι} (isRun : IsRun (GatewayStep settings ι) p run)
    {config : GatewayConfig} {requests : ι → GatewayRequest}
    (threads : p.threads = fun i => handle settings config (requests i)) (quiet : operations run = [])
    (within : RowWithin a rpm p) : ∀ q ∈ visited p run, RowWithin a rpm q := by
  refine rows_kept isRun (fun i => ?_) quiet within
  rw [threads]
  exact handle_modest config (requests i)

def saysSixty (db : Database) : Bool :=
  (db.tenants.lookup helloTenantId).all fun tenant => 0 ≤ tenant.rateLimitRpm && tenant.rateLimitRpm ≤ 60

theorem within_sixty {db : Database} (sixty : saysSixty db = true) :
    RowWithin helloTenantId 60 (firstPoolAt db) := by
  intro tenant found
  change db.tenants.lookup helloTenantId = some tenant at found
  rw [saysSixty, found] at sixty
  simpa using sixty

theorem begun_within : RowWithin helloTenantId 60 (firstPoolAt keyMade.2) :=
  within_sixty (by decide +kernel)

theorem setup_within : ∀ p ∈ visited firstPool setup, RowWithin helloTenantId 60 p := by
  intro p mem
  rcases List.mem_cons.mp mem with rfl | mem
  · exact within_sixty rfl
  rcases List.mem_cons.mp mem with rfl | mem
  · exact within_sixty (by decide +kernel)
  · rw [List.mem_singleton.mp mem]
    exact begun_within

theorem first_threads (db : Database) :
    (firstPoolAt db).threads = fun _ => handle firstSettings helloConfig firstRequest := rfl

theorem row_limits_forwarded_first : ∃ run : GatewayRun Unit,
    IsRun (GatewayStep firstSettings Unit) firstPool run ∧ ReachedProvider (final firstPool run) () ∧
      (({()} : Finset Unit).card : ℚ) ≤ (60 : ℕ) + (60 : ℕ) / 60 * gatewayElapsed run := by
  obtain ⟨run, s, isRun, still, c, t, rest, plain, returned, history⟩ := first_run
  let provider : BothEvent DbRet WireRet Exn :=
    ⟨.inr (.outside (.chatCompletion (helloRequest false))), .error .cancelled⟩
  have ends : final firstPool (setup ++ (run ++ [firstCall s])) = s := by
    rw [final_append, final_append]
    rfl
  have called : s.history () = t.map firstEvent ++ (rest ++ [provider]) := by
    rw [← List.append_assoc, ← history]
    exact history_step isRun.later.1 ()
  have quiet : operations (run ++ [firstCall s]) = [] := by
    rw [operations_append, still]
    rfl
  have rows : ∀ p ∈ visited firstPool (setup ++ (run ++ [firstCall s])), RowWithin helloTenantId 60 p := by
    intro p mem
    rw [visited, List.map_append, ← List.cons_append] at mem
    rcases List.mem_append.mp mem with early | late
    · exact setup_within p early
    · exact started_kept isRun (first_threads _) quiet begun_within p (.tail _ late)
  have reached : ReachedProvider s () := by
    refine ⟨.chatCompletion (helloRequest false), .error .cancelled, helloRequest false, ?_, rfl⟩
    rw [called]
    simp [provider]
  have mine : c.tenantId = helloTenantId := by
    simp only [plainContext, Bool.and_eq_true, decide_eq_true_eq] at plain
    exact plain.1.1.1.1.1.1
  refine ⟨setup ++ (run ++ [firstCall s]), setup_run.append isRun, ?_, ?_⟩
  · rw [ends]
    exact reached
  · have served : ServedIn firstSettings (fun _ => firstRequest) helloTenantId firstPool
        (final firstPool (setup ++ (run ++ [firstCall s]))) {()} := by
      rw [ends]
      exact ⟨fun _ _ => ⟨c, t, _, called, returned, mine⟩, fun _ _ => rfl, fun _ _ => reached⟩
    exact @row_limits_forwarded Unit firstSettings helloConfig (fun _ => firstRequest) emptyRedis _
      helloTenantId 60 trivial [] (setup ++ (run ++ [firstCall s])) (setup_run.append isRun) rows {()} served

end FirstRequest
end AegisGateway.GatewayQuotas
