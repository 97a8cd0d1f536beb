import AegisGateway.PoolHandovers
import AegisGateway.RequestCalls
import AegisGateway.RequestStages
import AegisGateway.UsageRollups

set_option autoImplicit false

/-!
# What the rollups bill

The requests of `api/proxy.py` and the rollup jobs of `workers/tasks.py` over one table of usage
records, in any interleaving. A row of a rollup adds up the requests of its tenant in its
period, each of them once.
-/
namespace AegisGateway.BilledPeriods
open EffectProgram TransitionRuns ProgramPool RunAccounts PoolHandovers RequestCalls RequestStages
open UsageRollups

section Rows

/-- The call that commits a usage record. -/
def booksUsage : GatewayOp → Bool
  | .commitUsageRecord _ => true
  | _ => false

/-- A usage record was committed. -/
def Booked (past : List GatewayEvent) : Prop :=
  ∃ row, (⟨.commitUsageRecord row, .ok ()⟩ : GatewayEvent) ∈ past

/-- An answer from the provider goes out after its row. -/
def FreshBooked : Except Exn Answer → List GatewayEvent → Prop
  | .ok (.json _ headers), past => headers = [("X-Cache", "miss")] → Booked past
  | _, _ => True

abbrev BookingMonitor : Monitor GatewayOp GatewayRet Exn (List GatewayEvent) := onceMonitor booksUsage

/-- No row before it is due, and a fresh answer only after its row. -/
def bookingStages : Assertions (List GatewayEvent) :=
  let fresh (headers : List (String × String)) (past : List GatewayEvent) : Prop :=
    headers = [("X-Cache", "miss")] → Booked past
  { Assertions.until (Unmade booksUsage) FreshBooked with
    raised := fun _ _ => True
    billed := fun _ headers past => fresh headers past
    dumped := fun _ headers past => fresh headers past
    replayBilled := fun _ _ => True
    streamBilled := fun _ _ _ _ _ => True
    streamBooked := fun _ _ => True
    streamFreed := fun _ _ => True }

variable {config : GatewayConfig} {request : ChatRequest} {past : List GatewayEvent} {α : Type}
  {p : GatewayProg α}

theorem Booked.grow {past' : List GatewayEvent} (booked : Booked past) (grown : past ⊆ past') :
    Booked past' := by
  obtain ⟨row, mem⟩ := booked
  exact ⟨row, grown mem⟩

theorem free_of_kinds {kinds : List OpKind} (uses : UsesKinds kinds p) (other : .usage ∉ kinds) :
    p.Uses (booksUsage · = false) := by
  refine uses.mono fun op kind => ?_
  cases op with
  | commitUsageRecord row => exact absurd kind other
  | _ => rfl

theorem free_call {op : GatewayOp} (other : booksUsage op = false) :
    (call op).Uses (booksUsage · = false) := Prog.uses_perform other

theorem unmade_goes {next : α → Stage} (free : p.Uses (booksUsage · = false))
    (unmade : Unmade booksUsage past)
    (returned : ∀ a past', Unmade booksUsage past' → bookingStages.Reached (next a) past') :
    Holds BookingMonitor p (fun r => bookingStages.Reached (onOk next r)) past := by
  refine (free_holds free past).mono fun r past' kept => ?_
  cases r with
  | ok a => exact returned a past' (kept.2 unmade)
  | error e => trivial

theorem made_goes {next : α → Stage} (free : p.Uses (booksUsage · = false))
    (returned : ∀ a past', past ⊆ past' → bookingStages.Reached (next a) past') :
    Holds BookingMonitor p (fun r => bookingStages.Reached (onOk next r)) past := by
  refine after_call free fun r past' grown => ?_
  cases r with
  | ok a => exact returned a past' grown
  | error e => trivial

theorem recordUsage_books {providerName model : String} {p c : ℤ} {cacheHit : Bool} {next : Unit → Stage}
    (unmade : Unmade booksUsage past)
    (returned : ∀ past', Booked past' → bookingStages.Reached (next ()) past') :
    Holds BookingMonitor (recordUsage request providerName model p c cacheHit)
      (fun r => bookingStages.Reached (onOk next r)) past := by
  refine before_call (free_call rfl) unmade (fun _ _ => trivial) fun _ past₁ unmade₁ => ?_
  refine before_call (free_call rfl) unmade₁ (fun _ _ => trivial) fun cost past₂ unmade₂ => ?_
  refine Holds.call_bind (fun _ => unmade₂) (fun _ _ => ?_) fun e _ => trivial
  have metrics : Prog.Uses (booksUsage · = false) (do
      call (.metric (.chatCompletions providerName .success))
      call (.metric (.usageCostUsd providerName cost))
      call (.metric (.usageTokens providerName "prompt" p))
      call (.metric (.usageTokens providerName "completion" c))) :=
    (free_call rfl).bind fun _ => (free_call rfl).bind fun _ => (free_call rfl).bind fun _ => free_call rfl
  exact made_goes metrics fun _ past₃ grown => returned past₃ ⟨_, grown (List.mem_append_right past₂ (.head _))⟩

theorem booking_walks (config : GatewayConfig) (request : ChatRequest) :
    Walks BookingMonitor bookingStages.Reached config request := by
  have release := free_of_kinds (releaseLockIfKeyed_uses request) (by decide)
  intro α stage p next piece past reached
  cases piece with
  | replay =>
    refine unmade_goes (free_call rfl) reached fun cached past' unmade => ?_
    cases cached with
    | some content => exact fun miss => absurd miss (by decide)
    | none => exact unmade
  | lock =>
    refine unmade_goes (free_call rfl) reached fun acquired past' unmade => ?_
    cases acquired with
    | true => exact unmade
    | false => trivial
  | unknown => exact unmade_goes release reached fun _ _ _ => trivial
  | count =>
    exact unmade_goes (free_of_kinds (countPromptTokens_uses _ _) (by decide)) reached fun _ _ unmade => unmade
  | limit =>
    refine (free_holds (free_of_kinds (enforceRequestLimits_uses _ _ _ _) (by decide)) past).mono
      fun r past' kept => ?_
    rcases r with e | _
    · cases e with
      | rateLimit exc => exact kept.2 reached
      | _ => trivial
    · exact kept.2 reached
  | acquire =>
    refine unmade_goes (free_call rfl) reached fun acquired past' unmade => ?_
    cases acquired <;> exact unmade
  | refuse =>
    refine unmade_goes ?_ reached fun _ _ _ => trivial
    exact (free_call rfl).bind fun _ => (free_call rfl).bind fun _ => release
  | screen =>
    refine (free_holds (free_of_kinds (runSecurityPipeline_uses _ _) (by decide)) past).mono
      fun r past' kept => ?_
    rcases r with e | body
    · cases e with
      | http exc => exact kept.2 reached
      | _ => trivial
    · exact kept.2 reached
  | block =>
    refine unmade_goes ?_ reached fun _ _ _ => trivial
    exact (free_call rfl).bind fun _ => (free_call rfl).bind fun _ => release
  | lookUp =>
    exact unmade_goes (free_of_kinds (getCachedCompletion_uses _ _) (by decide)) reached
      fun _ _ unmade => unmade
  | noteLookup asked cached =>
    refine unmade_goes (free_call rfl) reached fun _ past' unmade => ?_
    cases cached <;> exact unmade
  | billHit => exact recordUsage_books reached fun _ _ miss => absurd miss (by decide)
  | unbilledHit => exact fun miss => absurd miss (by decide)
  | replayChunks cached =>
    have yields := free_of_kinds (replayChunks_uses cached) (by decide)
    exact (free_holds yields past).mono fun r past' kept => kept.2 reached
  | billReplay => exact recordUsage_books reached fun _ _ => trivial
  | unbilledReplay => trivial
  | endReplay outcome =>
    refine after_call release fun r past' _ => ?_
    cases outcome <;> cases r <;> trivial
  | callProvider asked =>
    have asks : (call (.chatCompletion asked.body)).Uses (booksUsage · = false) := free_call rfl
    refine (free_holds asks past).mono fun r past' kept => ?_
    rcases r with e | received
    · cases e with
      | provider exc => exact kept.2 reached
      | _ => trivial
    · exact kept.2 reached
  | fail =>
    refine after_call ?_ fun r past' _ => by cases r <;> trivial
    exact (free_call rfl).bind fun _ => (free_call rfl).bind fun _ => release
  | freeRaised => exact made_goes (free_call rfl) fun _ _ _ => trivial
  | complete =>
    exact unmade_goes (free_of_kinds (complete_uses _ _ _) (by decide)) reached fun _ _ unmade => unmade
  | keep =>
    exact unmade_goes (free_of_kinds (storeIfCaching_uses _ _ _) (by decide)) reached fun _ _ unmade => unmade
  | bill => exact recordUsage_books reached fun _ booked _ => booked
  | dump => exact made_goes (free_call rfl) fun _ _ grown miss => (reached miss).grow grown
  | send text =>
    refine made_goes (free_of_kinds (storeAndReleaseIfKeyed_uses _ _) (by decide)) fun _ _ grown miss => ?_
    exact (reached miss).grow grown
  | startUpstream asked =>
    have starts : (call (.streamChatCompletion asked.body)).Uses (booksUsage · = false) := free_call rfl
    refine (free_holds starts past).mono fun r past' kept => ?_
    cases r <;> exact kept.2 reached
  | yieldChunk asked sent chunk =>
    have yields : (call (.yieldFrame (.chunk chunk))).Uses (booksUsage · = false) := free_call rfl
    refine (free_holds yields past).mono fun r past' kept => ?_
    cases r <;> exact kept.2 reached
  | finish =>
    have yields : (call (.yieldFrame .finished)).Uses (booksUsage · = false) := free_call rfl
    exact (free_holds yields past).mono fun r past' kept => kept.2 reached
  | report asked parts exc =>
    have yields : (call (.yieldFrame (.error (openaiError exc.str "upstream_error" "provider_error")))).Uses
        (booksUsage · = false) := free_call rfl
    exact (free_holds yields past).mono fun r past' kept => kept.2 reached
  | countText =>
    exact unmade_goes (free_of_kinds (countText_uses _ _ _) (by decide)) reached fun _ _ unmade => unmade
  | billStream => exact recordUsage_books reached fun _ _ => trivial
  | keepStream =>
    exact made_goes (free_of_kinds (cacheStream_uses _ _ _ _ _ _) (by decide)) fun _ _ _ => trivial
  | failStream =>
    exact unmade_goes (free_of_kinds (failStream_uses _ _ _) (by decide)) reached fun _ _ _ => trivial
  | freeStream => exact made_goes (free_call rfl) fun _ _ _ => trivial
  | endStream pendingResult =>
    refine made_goes release fun _ _ _ => ?_
    cases pendingResult <;> trivial
  | unreplayed | unlocked | uncached | unreadable | breakOff | succeed => exact reached
  | freeHit | beginHit | freeAnswered | beginMissed =>
    exact unmade_goes (free_call rfl) reached fun _ _ unmade => unmade

theorem serve_books (config : GatewayConfig) (request : ChatRequest) :
    Holds BookingMonitor (serve config request) FreshBooked [] :=
  serve_walks (booking_walks config request) unmade_nil

end Rows

section Bills
variable {ι ι' σ κ : Type}

/-- A committed usage record is in the table. One whose commit failed may be. -/
def usageHandover : Handover GatewayOp GatewayRet Exn StoredUsage where
  keeps e := UsageBilling.committedRow e = none
  hands e u := e.1 = .commitUsageRecord u.record

/-- The world of the jobs, where anyone may add a row to the usage table. -/
def tableWorld (ι' : Type) [DecidableEq ι'] :
    World RollupOp RollupRet Exn ι' (RollupShared ι') StoredUsage where
  answer := (rollupWorld ι').answer
  passes s u s' := s' = { s with usage := s.usage ++ [u] }

abbrev BillingPool (ι ι' σ : Type) :=
  Coupled GatewayOp GatewayRet Exn Answer ι σ RollupOp RollupRet Exn ℕ ι' (RollupShared ι')

abbrev BillingLabel (ι ι' κ : Type) :=
  CoupledLabel GatewayOp GatewayRet Exn ι κ RollupOp RollupRet Exn ι' StoredUsage

abbrev BillingRun (ι ι' σ κ : Type) := List (BillingLabel ι ι' κ × BillingPool ι ι' σ)

/-- The requests and the jobs at their beginning. The requests meet any world. -/
def billingPool (config : GatewayConfig) (requests : ι → ChatRequest) (kinds : ι' → PeriodType) (s : σ)
    [DecidableEq ι'] : BillingPool ι ι' σ :=
  ⟨Pool.start s fun i => serve config (requests i), rollupPool kinds⟩

abbrev BillingStep [DecidableEq ι] [DecidableEq ι'] (W : World GatewayOp GatewayRet Exn ι σ κ) :
    BillingPool ι ι' σ → BillingLabel ι ι' κ → BillingPool ι ι' σ → Prop :=
  CoupledStep W (tableWorld ι') usageHandover

/-- A usage record is committed before the first run in the hour (day) that follows its own. -/
def BookedInTime (kinds : ι' → PeriodType) (p : BillingPool ι ι' σ) : BillingLabel ι ι' κ → Prop
  | .handed _ _ u => CommittedInTime kinds p.second (.env u)
  | _ => True

/-- The rows of the tenant's requests in the period that the time is in. -/
def billed (requests : ι → ChatRequest) (tenantId : Uuid) (kind : PeriodType) (time : ℤ)
    (bookings : List (ι × StoredUsage)) : List (ι × StoredUsage) :=
  bookings.filter fun booking => (requests booking.1).tenant.tenantId = tenantId &&
    kind.truncate booking.2.createdAt = kind.truncate time

/-- What the rollups say of the requests: a request counts at most once and with a row of its
own, an answer from the provider counts, and a period that a job has rolled up adds up the
requests of each tenant. -/
structure Billed (config : GatewayConfig) (requests : ι → ChatRequest) (kinds : ι' → PeriodType)
    (bookings : List (ι × StoredUsage)) (p : BillingPool ι ι' σ) : Prop where
  once : (bookings.map Prod.fst).Nodup
  booked : ∀ booking ∈ bookings, BookedRow config (requests booking.1) booking.2.record
  fresh : ∀ i content, p.first.threads i = .done (.ok (.json content [("X-Cache", "miss")])) →
    i ∈ bookings.map Prod.fst
  totals : ∀ kind time tenantId, finishedAfter kinds p.second kind time →
    totalsAt p.second.shared.rollups tenantId kind (kind.truncate time) =
      totalsOf ((billed requests tenantId kind time bookings).map Prod.snd)
  counts : ∀ kind time tenantId, finishedAfter kinds p.second kind time →
    totalsAt p.second.shared.rollups tenantId kind (kind.truncate time) .requestCount =
      (billed requests tenantId kind time bookings).length

end Bills

section Table
variable {ι ι' σ κ : Type} [DecidableEq ι] [DecidableEq ι'] {config : GatewayConfig}
  {requests : ι → ChatRequest} {W : World GatewayOp GatewayRet Exn ι σ κ} {p : BillingPool ι ι' σ}
  {run : BillingRun ι ι' σ κ}

theorem serves_usage {s s' : RollupShared ι'} {i : ι'} {op : RollupOp} {a : RollupRet op}
    (served : s.serves i op a s') : s'.usage = s.usage := by
  cases op with
  | datetimeNow =>
    rw [served]
  | setRlsContext tenantId bypass =>
    rw [served]
  | selectAggregates periodStart periodEnd =>
    rw [served.2]
  | upsertRollup row =>
    rw [served.2.2]
  | commit =>
    rw [served]

theorem job_usage {q q' : RollupPool ι'} {i : ι'} {e : Event RollupOp RollupRet Exn}
    (step : Step (tableWorld ι') q (.call i e) q') : q'.shared.usage = q.shared.usage := by
  obtain ⟨op, o⟩ := e
  have answered : (rollupWorld ι').answer q.shared i op o q'.shared := Step.answered step
  cases o with
  | ok a => exact serves_usage answered
  | error e =>
    rcases answered with same | ⟨a, served⟩
    · rw [same]
    · exact serves_usage served

theorem table_run (isRun : IsRun (BillingStep W) p run) :
    (final p run).second.shared.usage = p.second.shared.usage ++ (handovers run).map Prod.snd := by
  induction run generalizing p with
  | nil => exact (List.append_nil _).symm
  | cons head rest ih =>
    obtain ⟨b, q⟩ := head
    have later := ih isRun.2
    have step := isRun.1
    cases step with
    | first step kept => exact later
    | second step =>
      rw [job_usage step] at later
      exact later
    | handed step hands moved =>
      cases moved with
      | env passed =>
        cases passed
        exact later.trans (List.append_assoc _ _ _)

theorem handed_booked (isRun : IsRun (BillingStep W) p run)
    (own : EachUses (fun i => Placed config (requests i)) p.first) :
    ∀ booking ∈ handovers run, BookedRow config (requests booking.1) booking.2.record := by
  induction run generalizing p with
  | nil =>
    intro booking mem
    cases mem
  | cons head rest ih =>
    obtain ⟨b, q⟩ := head
    have step := isRun.1
    cases step with
    | first step kept => exact ih isRun.2 (own.step step)
    | second step => exact ih isRun.2 own
    | @handed p p' q q' i e u step hands moved =>
      intro booking mem
      rcases List.mem_cons.mp mem with rfl | later
      · have placed := own.called step
        rw [hands] at placed
        exact placed
      · exact ih isRun.2 (own.step step) booking later

theorem bookedRow_written {request : ChatRequest} {row : UsageRecord} (h : BookedRow config request row) :
    WrittenByRecordUsage row := by
  obtain ⟨providerName, model, promptTokens, completionTokens, cacheHit, cost, _, same⟩ := h
  exact ⟨request, providerName, model, promptTokens, completionTokens, cacheHit, cost, same⟩

theorem jobs_run (isRun : IsRun (BillingStep W) p run)
    (own : EachUses (fun i => Placed config (requests i)) p.first) :
    IsRun (Step (rollupWorld ι')) p.second (projected Coupled.second secondLabel run) := by
  have written : StepsMeet (fun (_ : BillingPool ι ι' σ) (b : BillingLabel ι ι' κ) =>
      ∀ booking, handoverOf b = some booking → WrittenByRecordUsage booking.2.record) p run := by
    have booked := handed_booked isRun own
    clear isRun own
    induction run generalizing p with
    | nil => trivial
    | cons head rest ih =>
      refine ⟨fun booking here => ?_, ih fun booking later => booked booking ?_⟩
      · refine bookedRow_written (booked booking ?_)
        simp [handovers, here]
      · rw [handovers, List.filterMap_cons]
        split
        · exact later
        · exact .tail _ later
  have meets : StepsMeet (fun (_ : RollupPool ι') (l : RollupLabel ι') =>
      ∀ u, l = .env u → WrittenByRecordUsage u.record) p.second
      (projected Coupled.second secondLabel run) := by
    refine second_meets (fun s b l own seen u here => ?_) isRun written
    cases b with
    | first l => cases seen
    | second i e =>
      cases seen
      cases here
    | handed i e k =>
      cases seen
      cases here
      exact own (i, u) rfl
  refine (second_run isRun).1.meeting ?_ meets
  intro q l q' step own
  cases step with
  | call head answered => exact .call head answered
  | @env u s moved => exact .env ⟨own u rfl, moved⟩

end Table

section Totals
variable {ι ι' σ κ : Type} {config : GatewayConfig} {requests : ι → ChatRequest}
  {bookings : List (ι × StoredUsage)}

theorem truncate_truncate (kind : PeriodType) (time : ℤ) :
    kind.truncate (kind.truncate time) = kind.truncate time := by
  rw [truncate_eq, truncate_eq, Int.mul_ediv_cancel_left _ (length_pos kind).ne']

theorem recordsOf_bookings (booked : ∀ booking ∈ bookings, BookedRow config (requests booking.1) booking.2.record)
    (tenantId : Uuid) (kind : PeriodType) (time : ℤ) :
    recordsOf (bookings.map Prod.snd) tenantId (kind.truncate time) (kind.truncate time + kind.length) =
      (billed requests tenantId kind time bookings).map Prod.snd := by
  rw [recordsOf, List.filter_filter, List.filter_map, billed]
  congr 1
  refine List.filter_congr fun booking mem => ?_
  obtain ⟨_, _, _, _, _, _, _, same⟩ := booked booking mem
  rw [Bool.eq_iff_iff]
  simp only [Function.comp_apply, within, Bool.and_eq_true, decide_eq_true_eq,
    truncate_iff (truncate_truncate kind time), same, usageRecord]

theorem finishedAfter_truncate {kinds : ι' → PeriodType} {p : RollupPool ι'} {kind : PeriodType} {time : ℤ}
    (ran : finishedAfter kinds p kind time) : finishedAfter kinds p kind (kind.truncate time) := by
  obtain ⟨i, now, n, isKind, began, follows, done⟩ := ran
  refine ⟨i, now, n, isKind, began, ?_, done⟩
  rw [truncate_eq, Int.mul_ediv_cancel_left _ (length_pos kind).ne']
  exact follows

theorem totalsOf_count (usage : List StoredUsage) : totalsOf usage .requestCount = usage.length := by
  simp [totalsOf, Column.measure]

end Totals

section Runs
variable {ι ι' σ κ : Type} [DecidableEq ι] [DecidableEq ι'] {config : GatewayConfig}
  {requests : ι → ChatRequest} {kinds : ι' → PeriodType} {W : World GatewayOp GatewayRet Exn ι σ κ} {s : σ}
  {run : BillingRun ι ι' σ κ}

omit [DecidableEq ι] in
theorem billing_own (config : GatewayConfig) (requests : ι → ChatRequest) (kinds : ι' → PeriodType) (s : σ) :
    EachUses (fun i => Placed config (requests i)) (billingPool config requests kinds s).first :=
  fun i => serve_within config (requests i)

omit [DecidableEq ι] in
theorem billing_tracked (config : GatewayConfig) (requests : ι → ChatRequest) (kinds : ι' → PeriodType) (s : σ) :
    (billingPool config requests kinds s).first.Tracked BookingMonitor (fun _ => FreshBooked) fun _ => [] :=
  Pool.start_tracked fun i => serve_books config (requests i)

theorem hands_books {e : GatewayEvent} {u : StoredUsage} (hands : usageHandover.hands e u) :
    booksUsage e.1 = true := by
  have same : e.1 = .commitUsageRecord u.record := hands
  rw [same]
  rfl

theorem fresh_booked (isRun : IsRun (BillingStep W) (billingPool config requests kinds s) run) {i : ι}
    {content : String} (answered : (final (billingPool config requests kinds s) run).first.threads i =
      .done (.ok (.json content [("X-Cache", "miss")]))) : i ∈ (handovers run).map Prod.fst := by
  have tracked := (tracked_run (billing_tracked config requests kinds s) isRun i).2
  rw [answered, Pool.monitored, onceMonitor, historyMonitor_after] at tracked
  obtain ⟨row, called⟩ := tracked rfl
  rcases handed_over isRun called (by simp [usageHandover, UsageBilling.committedRow]) with old | ⟨u, _, mem⟩
  · cases old
  · exact List.mem_map_of_mem mem

/-- In every run of requests and rollup jobs in which each usage record is committed before the
first run of a job in the hour (day) that follows its own, the rollups bill each request at
most once, every answer from the provider, and nothing else. -/
theorem rollups_bill_requests (config : GatewayConfig) (requests : ι → ChatRequest) (kinds : ι' → PeriodType)
    (W : World GatewayOp GatewayRet Exn ι σ κ) (s : σ) (run : BillingRun ι ι' σ κ)
    (isRun : IsRun (BillingStep W) (billingPool config requests kinds s) run)
    (inTime : StepsMeet (BookedInTime kinds) (billingPool config requests kinds s) run) :
    Billed config requests kinds (handovers run) (final (billingPool config requests kinds s) run) := by
  have booked := handed_booked isRun (billing_own config requests kinds s)
  have meets : StepsMeet (CommittedInTime kinds) (billingPool config requests kinds s).second
      (projected Coupled.second secondLabel run) := by
    refine second_meets (fun p b l early seen => ?_) isRun inTime
    cases b with
    | first l => cases seen
    | second i e =>
      cases seen
      trivial
    | handed i e u =>
      cases seen
      exact early
  have invariant : RollupInvariant kinds (final (billingPool config requests kinds s) run).second := by
    rw [← (second_run isRun).2]
    exact (jobs_run isRun (billing_own config requests kinds s)).invariant
      (fun p l p' => rollup_step p l p') meets .start _ (final_mem_visited _ _)
  have table := table_run isRun
  have totals (kind : PeriodType) (time : ℤ) (tenantId : Uuid)
      (ran : finishedAfter kinds (final (billingPool config requests kinds s) run).second kind time) :
      totalsAt (final (billingPool config requests kinds s) run).second.shared.rollups tenantId kind
        (kind.truncate time) = totalsOf ((billed requests tenantId kind time (handovers run)).map Prod.snd) := by
    rw [invariant.totalsAt_eq (truncate_truncate kind time) (finishedAfter_truncate ran), table]
    exact congrArg totalsOf (recordsOf_bookings booked tenantId kind time)
  constructor
  case once =>
    exact handovers_once (fun _ _ => hands_books) (billing_tracked config requests kinds s) isRun
  case booked => exact booked
  case fresh => exact fun i content => fresh_booked isRun
  case totals => exact totals
  case counts =>
    intro kind time tenantId ran
    rw [totals kind time tenantId ran, totalsOf_count, List.length_map]

end Runs

section OneHour

/-- Every call is answered, with anything. -/
def anyWorld : World GatewayOp GatewayRet Exn Unit Unit Unit where
  answer _ _ _ _ _ := True
  passes _ _ _ := False

theorem anyWorld_serves {C : GatewayEvent → Prop} {t : List GatewayEvent} (meets : ∀ e ∈ t, C e) :
    anyWorld.Serves (fun _ => C) () () t () := by
  induction t with
  | nil => rfl
  | cons e t ih => exact ⟨meets e (.head _), (), trivial, ih fun e' mem => meets e' (.tail _ mem)⟩

abbrev oneRequest : Unit → ChatRequest := fun _ => helloChat false none

abbrev oneBilling : BillingPool Unit Unit Unit :=
  billingPool helloConfig oneRequest (fun _ => .hourly) ()

def bookingCall : GatewayEvent := ⟨.commitUsageRecord firstUse.record, .ok ()⟩

theorem kept_part {p : Pool GatewayOp GatewayRet Exn Answer Unit Unit} (q : RollupPool Unit)
    {t : List GatewayEvent} {rest : GatewayProg Answer} (reaches : Reaches (p.threads ()) t rest)
    (kept : ∀ e ∈ t, UsageBilling.committedRow e = none) :
    ∃ (run : BillingRun Unit Unit Unit Unit) (p' : Pool GatewayOp GatewayRet Exn Answer Unit Unit),
      IsRun (BillingStep anyWorld) ⟨p, q⟩ run ∧ StepsMeet (BookedInTime fun _ => .hourly) ⟨p, q⟩ run ∧
        handovers run = [] ∧ final ⟨p, q⟩ run = ⟨p', q⟩ ∧ p'.threads () = rest := by
  obtain ⟨alone, isRun, meets, ends, _⟩ := @solo_run _ _ _ _ _ _ _ _ anyWorld
    (fun _ e => usageHandover.keeps e) p () t rest () reaches (anyWorld_serves kept)
  have lifts : IsRun (BillingStep anyWorld) ⟨p, q⟩ (beside q alone) ∧
      final ⟨p, q⟩ (beside q alone : BillingRun Unit Unit Unit Unit) = ⟨final p alone, q⟩ :=
    beside_run isRun meets
  refine ⟨beside q alone, final p alone, lifts.1, beside_meets (fun _ _ => trivial) p alone,
    beside_hands q alone, lifts.2, ?_⟩
  rw [ends]
  simp only [Function.update_self]

/-- The job of the next hour, with the row in the table. -/
def bookedPool : RollupPool Unit := { firstPool with shared := { firstPool.shared with usage := [firstUse] } }

theorem oneRequest_run : ∃ (run : BillingRun Unit Unit Unit Unit)
    (p : Pool GatewayOp GatewayRet Exn Answer Unit Unit),
    IsRun (BillingStep anyWorld) oneBilling run ∧
      StepsMeet (BookedInTime fun _ => .hourly) oneBilling run ∧ handovers run = [((), firstUse)] ∧
      final oneBilling run = ⟨p, bookedPool⟩ ∧
      p.threads () = .done (.ok (.json helloDump [("X-Cache", "miss")])) := by
  have reaches := (serve_local (helloChat false none) rfl rfl).reaches
  have parts : servedTrace (helloChat false none) = (servedTrace (helloChat false none)).take 12 ++
      bookingCall :: (servedTrace (helloChat false none)).drop 13 := rfl
  rw [parts] at reaches
  obtain ⟨mid, before, rest⟩ := reaches.stop
  cases rest with
  | @call op next o t q after =>
    obtain ⟨run₁, p₁, isRun₁, early₁, none₁, final₁, head⟩ :=
      @kept_part oneBilling.first oneBilling.second _ _ before (by decide)
    obtain ⟨middle, step, goesOn⟩ : ∃ middle, Step anyWorld p₁ (.call () bookingCall) middle ∧
        middle.threads () = next (.ok ()) :=
      ⟨_, .call (s := ()) head trivial, by simp only [Function.update_self]⟩
    have moved : Step (tableWorld Unit) oneBilling.second (.env firstUse) bookedPool := .env rfl
    have early : BookedInTime (fun _ => .hourly) (⟨p₁, oneBilling.second⟩ : BillingPool Unit Unit Unit)
        (.handed () bookingCall firstUse : BillingLabel Unit Unit Unit) := by
      rintro kind ⟨_, _, _, began, _⟩
      cases began
    rw [← goesOn] at after
    obtain ⟨run₂, p₂, isRun₂, early₂, none₂, final₂, done⟩ :=
      @kept_part middle bookedPool _ _ after (by decide)
    refine ⟨run₁ ++ (.handed () bookingCall firstUse, ⟨middle, bookedPool⟩) :: run₂, p₂,
      isRun₁.append ?_, early₁.append ?_, ?_, ?_, done⟩
    · rw [final₁]
      exact ⟨.handed step rfl moved, isRun₂⟩
    · rw [final₁]
      exact ⟨early, early₂⟩
    · rw [handovers_append, none₁, List.nil_append]
      change ((), firstUse) :: handovers run₂ = _
      rw [none₂]
    · rw [final_append, final₁]
      exact final₂

theorem rollups_bill_requests_one_hour :
    ∃ run : BillingRun Unit Unit Unit Unit, handovers run = [((), firstUse)] ∧
      finishedAfter (fun _ => .hourly) (final oneBilling run).second .hourly 0 ∧
      (final oneBilling run).first.threads () = .done (.ok (.json helloDump [("X-Cache", "miss")])) ∧
      Billed helloConfig oneRequest (fun _ => .hourly) (handovers run) (final oneBilling run) := by
  obtain ⟨run, p, isRun, early, booked, ends, answered⟩ := oneRequest_run
  obtain ⟨jobRun, isJob, free, silent, finished⟩ :
      ∃ jobRun : BillingRun Unit Unit Unit Unit, IsRun (BillingStep anyWorld) ⟨p, bookedPool⟩ jobRun ∧
        StepsMeet (BookedInTime fun _ => .hourly) ⟨p, bookedPool⟩ jobRun ∧ handovers jobRun = [] ∧
        finishedAfter (fun _ => .hourly) (final ⟨p, bookedPool⟩ jobRun).second .hourly 0 ∧
        (final ⟨p, bookedPool⟩ jobRun).first = p := by
    refine ⟨[(.second () ⟨.datetimeNow, .ok hour⟩, _), (.second () ⟨.setRlsContext none true, .ok ()⟩, _),
      (.second () ⟨.selectAggregates (PeriodType.hourly.periodStart hour)
        (PeriodType.hourly.periodStart hour + PeriodType.hourly.length), .ok [firstGroup]⟩, _),
      (.second () ⟨.upsertRollup firstRow, .ok ()⟩, _), (.second () ⟨.commit, .ok ()⟩, _)],
      ⟨.second (.call rfl rfl), .second (.call rfl rfl), .second (.call rfl ⟨by exact .refl _, rfl⟩),
        .second (.call rfl ⟨rfl, firstRow_fits, rfl⟩), .second (.call rfl rfl), trivial⟩,
      ⟨trivial, trivial, trivial, trivial, trivial, trivial⟩, rfl, ⟨(), hour, 1, rfl, rfl, by decide, rfl⟩, rfl⟩
  rw [← ends] at isJob free finished
  have whole := isRun.append isJob
  have inTime := early.append free
  refine ⟨run ++ jobRun, ?_, ?_, ?_, rollups_bill_requests helloConfig oneRequest _ anyWorld () _ whole inTime⟩
  · rw [handovers_append, booked, silent]
    rfl
  · rw [final_append]
    exact finished.1
  · rw [final_append, finished.2]
    exact answered

end OneHour
end AegisGateway.BilledPeriods
