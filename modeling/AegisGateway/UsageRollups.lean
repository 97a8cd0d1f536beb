import AegisGateway.Accounts
import AegisGateway.KeyedRows
import AegisGateway.ProgramPool
import AegisGateway.RequestPipeline

set_option autoImplicit false

/-!
# Hourly and daily rollups of usage

`_rollup_period`, `hourly_usage_rollup` and `daily_usage_rollup` of `workers/tasks.py`: any
number of runs over one database, side by side or one after the other, while requests commit
their usage records. A run reads the clock, aggregates the period before the one it is in, and
writes one row for each tenant.
-/
namespace AegisGateway.UsageRollups
open EffectProgram TransitionRuns ProgramPool KeyedRows
open BudgetScan (RlsContext)
open Accounts (grants bypassing bypassing_grants)

section Periods

inductive PeriodType where
  | hourly
  | daily
  deriving DecidableEq, Repr

/-- One hour in microseconds. A time is a number of microseconds since a midnight UTC. -/
def hour : ℤ := 3600 * 10 ^ 6

def PeriodType.length : PeriodType → ℤ
  | .hourly => hour
  | .daily => 24 * hour

/-- `replace(minute=0, second=0, microsecond=0)`, for a day with `hour=0` too. -/
def PeriodType.truncate (kind : PeriodType) (time : ℤ) : ℤ := time - time % kind.length

def PeriodType.periodStart (kind : PeriodType) (now : ℤ) : ℤ := kind.truncate (now - kind.length)

theorem length_pos (kind : PeriodType) : 0 < kind.length := by
  cases kind <;> decide

theorem truncate_eq (kind : PeriodType) (time : ℤ) :
    kind.truncate time = kind.length * (time / kind.length) := by
  have split := Int.emod_add_mul_ediv time kind.length
  unfold PeriodType.truncate
  omega

theorem periodStart_eq (kind : PeriodType) (now : ℤ) :
    kind.periodStart now = kind.length * (now / kind.length - 1) := by
  have back : (now - kind.length) / kind.length = now / kind.length - 1 := by
    have whole := Int.add_mul_ediv_right now (-1) (length_pos kind).ne'
    rw [neg_one_mul, ← sub_eq_add_neg, ← sub_eq_add_neg] at whole
    exact whole
  rw [PeriodType.periodStart, truncate_eq, back]

theorem truncate_iff {kind : PeriodType} {time start : ℤ} (aligned : kind.truncate start = start) :
    start ≤ time ∧ time < start + kind.length ↔ kind.truncate time = start := by
  have positive := length_pos kind
  have split := Int.emod_add_mul_ediv time kind.length
  have low := Int.emod_nonneg time positive.ne'
  have high := Int.emod_lt_of_pos time positive
  constructor
  · rintro ⟨before, within⟩
    rw [truncate_eq] at aligned ⊢
    have quotient : time / kind.length = start / kind.length := by
      rw [Int.ediv_eq_iff_of_pos positive]
      constructor
      · linarith
      · linarith
    rw [quotient, aligned]
  · intro here
    unfold PeriodType.truncate at here
    constructor
    · linarith
    · linarith

theorem periodStart_aligned (kind : PeriodType) (now : ℤ) :
    kind.truncate (kind.periodStart now) = kind.periodStart now := by
  rw [truncate_eq, periodStart_eq, Int.mul_ediv_cancel_left _ (length_pos kind).ne']

end Periods

section Aggregates

/-- A row of `usage_records` in the table. -/
structure StoredUsage where
  record : UsageRecord
  createdAt : ℤ

/-- The columns that a rollup adds up. -/
inductive Column where
  | requestCount
  | cacheHitCount
  | promptTokens
  | completionTokens
  | totalTokens
  | costUsd
  deriving DecidableEq, Repr

/-- What one record adds to the column. -/
def Column.measure (record : UsageRecord) : Column → ℚ
  | .requestCount => 1
  | .cacheHitCount => if record.cacheHit then 1 else 0
  | .promptTokens => record.promptTokens
  | .completionTokens => record.completionTokens
  | .totalTokens => record.totalTokens
  | .costUsd => record.costUsd.value

abbrev Totals := Column → ℚ

def totalsOf (usage : List StoredUsage) : Totals :=
  fun column => (usage.map fun u => column.measure u.record).sum

def within (periodStart periodEnd : ℤ) (u : StoredUsage) : Bool :=
  periodStart ≤ u.createdAt && u.createdAt < periodEnd

/-- The tenant's records in the period. -/
def recordsOf (usage : List StoredUsage) (tenantId : Uuid) (periodStart periodEnd : ℤ) :
    List StoredUsage :=
  (usage.filter (within periodStart periodEnd)).filter fun u => u.record.tenantId = tenantId

/-- The select with its `group_by`: one row for each tenant with a record in the period. -/
def aggregates (usage : List StoredUsage) (periodStart periodEnd : ℤ) : List (Uuid × Totals) :=
  ((usage.filter (within periodStart periodEnd)).map fun u => u.record.tenantId).dedup.map
    fun tenantId => (tenantId, totalsOf (recordsOf usage tenantId periodStart periodEnd))

/-- A row of `usage_rollups`. -/
structure UsageRollup where
  tenantId : Uuid
  periodType : PeriodType
  periodStart : ℤ
  totals : Totals

/-- The unique constraint. -/
def UsageRollup.key (row : UsageRollup) : Uuid × PeriodType × ℤ :=
  (row.tenantId, row.periodType, row.periodStart)

/-- The value fits the column: an `Integer`, or a `Numeric(12,6)`. -/
def Column.takes (x : ℚ) : Column → Bool
  | .costUsd => |x| < 10 ^ 6
  | _ => -2 ^ 31 ≤ x && x < 2 ^ 31

def UsageRollup.fits (row : UsageRollup) : Bool :=
  [Column.requestCount, .cacheHitCount, .promptTokens, .completionTokens, .totalTokens,
    .costUsd].all fun column => column.takes (row.totals column)

def rollupRow (kind : PeriodType) (periodStart : ℤ) (group : Uuid × Totals) : UsageRollup :=
  ⟨group.1, kind, periodStart, group.2⟩

/-- The records that the row is about. -/
def UsageRollup.counts (row : UsageRollup) (u : StoredUsage) : Bool :=
  u.record.tenantId = row.tenantId && row.periodStart ≤ u.createdAt &&
    u.createdAt < row.periodStart + row.periodType.length

/-- The row is what a run would write now. -/
def Current (usage : List StoredUsage) (row : UsageRollup) : Prop :=
  (row.tenantId, row.totals) ∈
    aggregates usage row.periodStart (row.periodStart + row.periodType.length)

variable {usage : List StoredUsage} {tenantId : Uuid} {periodStart periodEnd : ℤ}

theorem mem_recordsOf {u : StoredUsage} :
    u ∈ recordsOf usage tenantId periodStart periodEnd ↔
      u ∈ usage ∧ (periodStart ≤ u.createdAt ∧ u.createdAt < periodEnd) ∧
        u.record.tenantId = tenantId := by
  simp only [recordsOf, within, List.mem_filter, Bool.and_eq_true, decide_eq_true_eq, and_assoc]

theorem mem_aggregates {totals : Totals} :
    (tenantId, totals) ∈ aggregates usage periodStart periodEnd ↔
      (∃ u, u ∈ recordsOf usage tenantId periodStart periodEnd) ∧
        totals = totalsOf (recordsOf usage tenantId periodStart periodEnd) := by
  simp only [aggregates, List.mem_map, List.mem_dedup, Prod.mk.injEq, recordsOf, List.mem_filter,
    decide_eq_true_eq]
  constructor
  · rintro ⟨_, ⟨u, mem, rfl⟩, rfl, rfl⟩
    exact ⟨⟨u, mem, rfl⟩, rfl⟩
  · rintro ⟨⟨u, mem, rfl⟩, rfl⟩
    exact ⟨_, ⟨u, mem, rfl⟩, rfl, rfl⟩

theorem aggregates_distinct (usage : List StoredUsage) (periodStart periodEnd : ℤ) :
    ((aggregates usage periodStart periodEnd).map Prod.fst).Nodup := by
  rw [aggregates, List.map_map]
  change (List.map id _).Nodup
  rw [List.map_id]
  exact List.nodup_dedup _

/-- A record outside the period does not change its aggregates. -/
theorem aggregates_outside {u : StoredUsage}
    (outside : ¬ (periodStart ≤ u.createdAt ∧ u.createdAt < periodEnd)) :
    aggregates (usage ++ [u]) periodStart periodEnd = aggregates usage periodStart periodEnd := by
  have dropped : (usage ++ [u]).filter (within periodStart periodEnd) =
      usage.filter (within periodStart periodEnd) := by
    have out : within periodStart periodEnd u = false := by
      simpa [within] using outside
    rw [List.filter_append, List.filter_singleton, out]
    exact List.append_nil _
  simp only [aggregates, recordsOf, dropped]

theorem Current.totals_eq {row : UsageRollup} (current : Current usage row) :
    row.totals = totalsOf (recordsOf usage row.tenantId row.periodStart
      (row.periodStart + row.periodType.length)) := (mem_aggregates.mp current).2

theorem key_eq {row : UsageRollup} {tenantId : Uuid} {kind : PeriodType} {start : ℤ} :
    row.key = (tenantId, kind, start) ↔
      row.tenantId = tenantId ∧ row.periodType = kind ∧ row.periodStart = start := by
  simp only [UsageRollup.key, Prod.mk.injEq]

theorem Current.ext {row row' : UsageRollup} (current : Current usage row)
    (current' : Current usage row') (keys : row.key = row'.key) : row = row' := by
  have totals := current.totals_eq
  have totals' := current'.totals_eq
  obtain ⟨tenantId, kind, start, _⟩ := row
  obtain ⟨tenantId', kind', start', _⟩ := row'
  obtain ⟨rfl, rfl, rfl⟩ := key_eq.mp keys
  rw [UsageRollup.mk.injEq]
  exact ⟨rfl, rfl, rfl, totals.trans totals'.symm⟩

theorem totalsOf_perm {first second : List StoredUsage} (perm : first.Perm second) :
    totalsOf first = totalsOf second := by
  funext column
  exact (perm.map _).sum_eq

theorem recordsOf_filter {keep : StoredUsage → Bool} {start stop : ℤ}
    (same : ∀ u : StoredUsage, ((periodStart ≤ u.createdAt ∧ u.createdAt < periodEnd) ∧ keep u = true) ↔
      start ≤ u.createdAt ∧ u.createdAt < stop) :
    (recordsOf usage tenantId periodStart periodEnd).filter keep =
      recordsOf usage tenantId start stop := by
  simp only [recordsOf, List.filter_filter]
  refine List.filter_congr fun u _ => ?_
  rw [Bool.eq_iff_iff]
  simp only [within, Bool.and_eq_true, decide_eq_true_eq, ← same u]
  tauto

theorem totalsOf_split {middle : ℤ} (low : periodStart ≤ middle) (high : middle ≤ periodEnd) :
    totalsOf (recordsOf usage tenantId periodStart periodEnd) =
      totalsOf (recordsOf usage tenantId periodStart middle) +
        totalsOf (recordsOf usage tenantId middle periodEnd) := by
  have early : (recordsOf usage tenantId periodStart periodEnd).filter
      (fun u => u.createdAt < middle) = recordsOf usage tenantId periodStart middle := by
    refine recordsOf_filter fun u => ?_
    rw [decide_eq_true_eq]
    omega
  have late : (recordsOf usage tenantId periodStart periodEnd).filter
      (fun u => !decide (u.createdAt < middle)) = recordsOf usage tenantId middle periodEnd := by
    refine recordsOf_filter fun u => ?_
    rw [Bool.not_eq_true', decide_eq_false_iff_not]
    omega
  rw [← totalsOf_perm (List.filter_append_perm (fun u => decide (u.createdAt < middle)) _), early, late]
  funext column
  simp [totalsOf]

theorem totalsOf_blocks (usage : List StoredUsage) (tenantId : Uuid) (start : ℤ) {length : ℤ}
    (nonneg : 0 ≤ length) (n : ℕ) :
    totalsOf (recordsOf usage tenantId start (start + n * length)) =
      ∑ k ∈ Finset.range n,
        totalsOf (recordsOf usage tenantId (start + k * length) (start + k * length + length)) := by
  induction n with
  | zero =>
    have none : recordsOf usage tenantId start (start + (0 : ℕ) * length) = [] := by
      rw [List.eq_nil_iff_forall_not_mem]
      intro u mem
      have inside := (mem_recordsOf.mp mem).2.1
      push_cast at inside
      omega
    rw [none]
    rfl
  | succ n ih =>
    have next : start + ((n + 1 : ℕ) : ℤ) * length = start + n * length + length := by
      push_cast
      ring
    have before : start ≤ start + n * length := by
      have steps : 0 ≤ (n : ℤ) * length := by positivity
      omega
    rw [Finset.sum_range_succ, ← ih, next]
    exact totalsOf_split before (by omega)

end Aggregates

section Jobs

inductive RollupOp where
  | datetimeNow
  | setRlsContext (tenantId : Option Uuid) (bypass : Bool)
  | selectAggregates (periodStart periodEnd : ℤ)
  | upsertRollup (row : UsageRollup)
  | commit

abbrev RollupRet : RollupOp → Type
  | .datetimeNow => ℤ
  | .selectAggregates _ _ => List (Uuid × Totals)
  | .setRlsContext _ _ | .upsertRollup _ | .commit => Unit

abbrev RollupProg := Prog RollupOp RollupRet Exn

abbrev call (op : RollupOp) : RollupProg (RollupRet op) := Prog.perform op

def upsertRows (periodType : PeriodType) (periodStart : ℤ) : List (Uuid × Totals) → RollupProg Unit
  | [] => pure ()
  | row :: rows => do
    call (.upsertRollup (rollupRow periodType periodStart row))
    upsertRows periodType periodStart rows

def rollupPeriod (periodType : PeriodType) (periodStart periodEnd : ℤ) : RollupProg ℕ := do
  call (.setRlsContext none true)
  let rows ← call (.selectAggregates periodStart periodEnd)
  upsertRows periodType periodStart rows
  call .commit
  return rows.length

/-- What the two jobs share. The number of tenants is logged. -/
def usageRollup (periodType : PeriodType) : RollupProg ℕ := do
  let now ← call .datetimeNow
  let periodStart := periodType.periodStart now
  rollupPeriod periodType periodStart (periodStart + periodType.length)

def hourlyUsageRollup : RollupProg ℕ := usageRollup .hourly

def dailyUsageRollup : RollupProg ℕ := usageRollup .daily

def job : PeriodType → RollupProg ℕ
  | .hourly => hourlyUsageRollup
  | .daily => dailyUsageRollup

end Jobs

section Worlds

/-- The settings that `set_rls_context` makes. -/
def rlsSettings (tenantId : Option Uuid) (bypass : Bool) : RlsContext :=
  ⟨(tenantId.map Uuid.text).getD "", if bypass then "on" else "off"⟩

/-- The two tables; for each run the time it read, the security context of its transaction and
the rows that wait for its commit. -/
structure RollupShared (ι : Type) where
  usage : List StoredUsage
  rollups : List UsageRollup
  begun : ι → Option ℤ
  contexts : ι → RlsContext
  pending : ι → List UsageRollup

variable {ι : Type} [DecidableEq ι]

/-- A call that is carried out. The database returns the groups of a query in any order. -/
def RollupShared.serves (s : RollupShared ι) (i : ι) :
    (op : RollupOp) → RollupRet op → RollupShared ι → Prop
  | .datetimeNow, now, s' => s' = { s with begun := Function.update s.begun i (some now) }
  | .setRlsContext tenantId bypass, _, s' =>
    s' = { s with contexts := Function.update s.contexts i (rlsSettings tenantId bypass) }
  | .selectAggregates periodStart periodEnd, rows, s' =>
    rows.Perm (aggregates (s.usage.filter fun u => grants (s.contexts i) (some u.record.tenantId))
      periodStart periodEnd) ∧ s' = s
  | .upsertRollup row, _, s' =>
    grants (s.contexts i) (some row.tenantId) = true ∧ row.fits = true ∧
      s' = { s with pending := Function.update s.pending i (s.pending i ++ [row]) }
  | .commit, _, s' =>
    s' = { s with
      rollups := upsertAll UsageRollup.key s.rollups (s.pending i)
      pending := Function.update s.pending i []
      contexts := Function.update s.contexts i .none }

def WrittenByRecordUsage (record : UsageRecord) : Prop :=
  ∃ request providerName model promptTokens completionTokens cacheHit cost,
    record = usageRecord request providerName model promptTokens completionTokens cacheHit cost

/-- A call may fail before or after it took effect. Between the calls, requests commit
their usage records. -/
def rollupWorld (ι : Type) [DecidableEq ι] :
    World RollupOp RollupRet Exn ι (RollupShared ι) StoredUsage where
  answer s i op o s' := match o with
    | .ok a => s.serves i op a s'
    | .error _ => s' = s ∨ ∃ a, s.serves i op a s'
  passes s u s' := WrittenByRecordUsage u.record ∧ s' = { s with usage := s.usage ++ [u] }

abbrev RollupPool (ι : Type) := Pool RollupOp RollupRet Exn ℕ ι (RollupShared ι)
abbrev RollupLabel (ι : Type) := Label RollupOp RollupRet Exn ι StoredUsage

def rollupPool (kinds : ι → PeriodType) : RollupPool ι :=
  Pool.start ⟨[], [], fun _ => none, fun _ => .none, fun _ => []⟩ fun i => job (kinds i)

/-- A run of the job began in the hour (day) after the one that the time is in. -/
def RollupShared.ranAfter (s : RollupShared ι) (kinds : ι → PeriodType) (kind : PeriodType)
    (time : ℤ) : Prop :=
  ∃ i now, kinds i = kind ∧ s.begun i = some now ∧ now / kind.length = time / kind.length + 1

/-- A usage record is committed before the first run in the hour (day) that follows its own. -/
def CommittedInTime (kinds : ι → PeriodType) (p : RollupPool ι) : RollupLabel ι → Prop
  | .call _ _ => True
  | .env u => ∀ kind, ¬ p.shared.ranAfter kinds kind u.createdAt

end Worlds

section Monitor

/-- Where a run is: the time it read, the groups it selected, the rows it has sent. -/
inductive Progress where
  | waiting
  | timed (now : ℤ)
  | opened (now : ℤ)
  | selected (now : ℤ) (rows : List (Uuid × Totals)) (sent : List UsageRollup)
  | written (now : ℤ)
  | failed

structure RollupView where
  kind : PeriodType
  progress : Progress

def rollupMonitor : Monitor RollupOp RollupRet Exn RollupView where
  permits view op := match view.progress, op with
    | .waiting, .datetimeNow => True
    | .timed _, .setRlsContext tenantId bypass => tenantId = none ∧ bypass = true
    | .opened now, .selectAggregates periodStart periodEnd =>
      periodStart = view.kind.periodStart now ∧ periodEnd = periodStart + view.kind.length
    | .selected now rows sent, .upsertRollup row =>
      ∃ rest, rows.map (rollupRow view.kind (view.kind.periodStart now)) = sent ++ row :: rest
    | .selected now rows sent, .commit =>
      sent = rows.map (rollupRow view.kind (view.kind.periodStart now))
    | _, _ => False
  answers _ _ _ := True
  advance
    | view, _, .error _ => ⟨view.kind, .failed⟩
    | view, .datetimeNow, .ok now => ⟨view.kind, .timed now⟩
    | ⟨kind, .timed now⟩, .setRlsContext _ _, .ok _ => ⟨kind, .opened now⟩
    | ⟨kind, .opened now⟩, .selectAggregates _ _, .ok rows => ⟨kind, .selected now rows []⟩
    | ⟨kind, .selected now rows sent⟩, .upsertRollup row, .ok _ =>
      ⟨kind, .selected now rows (sent ++ [row])⟩
    | ⟨kind, .selected now _ _⟩, .commit, .ok _ => ⟨kind, .written now⟩
    | view, _, .ok _ => view

theorem advance_kind (view : RollupView) (op : RollupOp) (o : Except Exn (RollupRet op)) :
    (rollupMonitor.advance view op o).kind = view.kind := by
  obtain ⟨kind, progress⟩ := view
  cases o with
  | error e => rfl
  | ok a => cases op <;> cases progress <;> rfl

theorem permits_cases {view : RollupView} {op : RollupOp} (permitted : rollupMonitor.permits view op) :
    (view = ⟨view.kind, .waiting⟩ ∧ op = .datetimeNow) ∨
    (∃ now, view = ⟨view.kind, .timed now⟩ ∧ op = .setRlsContext none true) ∨
    (∃ now, view = ⟨view.kind, .opened now⟩ ∧ op = .selectAggregates (view.kind.periodStart now)
      (view.kind.periodStart now + view.kind.length)) ∨
    (∃ now rows sent row, view = ⟨view.kind, .selected now rows sent⟩ ∧ op = .upsertRollup row) ∨
    ∃ now rows, view = ⟨view.kind, .selected now rows
      (rows.map (rollupRow view.kind (view.kind.periodStart now)))⟩ ∧ op = .commit := by
  obtain ⟨kind, progress⟩ := view
  cases progress with
  | waiting =>
    cases op with
    | datetimeNow => exact .inl ⟨rfl, rfl⟩
    | _ => exact permitted.elim
  | timed now =>
    cases op with
    | setRlsContext tenantId bypass =>
      obtain ⟨rfl, rfl⟩ := permitted
      exact .inr (.inl ⟨now, rfl, rfl⟩)
    | _ => exact permitted.elim
  | opened now =>
    cases op with
    | selectAggregates periodStart periodEnd =>
      obtain ⟨rfl, rfl⟩ := permitted
      exact .inr (.inr (.inl ⟨now, rfl, rfl⟩))
    | _ => exact permitted.elim
  | selected now rows sent =>
    cases op with
    | upsertRollup row => exact .inr (.inr (.inr (.inl ⟨now, rows, sent, row, rfl, rfl⟩)))
    | commit =>
      obtain rfl : sent = rows.map (rollupRow kind (kind.periodStart now)) := permitted
      exact .inr (.inr (.inr (.inr ⟨now, rows, rfl, rfl⟩)))
    | _ => exact permitted.elim
  | written now => exact permitted.elim
  | failed => exact permitted.elim

/-- The run has written its rows, or has failed. -/
def ends {α : Type} (kind : PeriodType) (r : Except Exn α) (view : RollupView) : Prop :=
  match r with
  | .ok _ => ∃ now, view = ⟨kind, .written now⟩
  | .error _ => view = ⟨kind, .failed⟩

theorem upsertRows_holds (kind : PeriodType) (now : ℤ) (rows : List (Uuid × Totals))
    (done todo : List (Uuid × Totals)) (parts : rows = done ++ todo) :
    Holds rollupMonitor (upsertRows kind (kind.periodStart now) todo)
      (fun r view => match r with
        | .ok _ => view = ⟨kind, .selected now rows (rows.map (rollupRow kind (kind.periodStart now)))⟩
        | .error _ => view = ⟨kind, .failed⟩)
      ⟨kind, .selected now rows (done.map (rollupRow kind (kind.periodStart now)))⟩ := by
  induction todo generalizing done with
  | nil =>
    rw [parts, List.append_nil]
    exact rfl
  | cons row todo ih =>
    refine ⟨⟨todo.map (rollupRow kind (kind.periodStart now)), ?_⟩, fun o _ => ?_⟩
    · rw [parts, List.map_append, List.map_cons]
    · rcases o with e | _
      · exact rfl
      · have rest := ih (done ++ [row]) (by rw [parts, List.append_assoc, List.singleton_append])
        rw [List.map_append] at rest
        exact rest

theorem usageRollup_holds (kind : PeriodType) :
    Holds rollupMonitor (usageRollup kind) (ends kind) ⟨kind, .waiting⟩ := by
  refine ⟨trivial, fun o _ => ?_⟩
  rcases o with e | now
  · exact rfl
  refine ⟨⟨rfl, rfl⟩, fun o _ => ?_⟩
  rcases o with e | _
  · exact rfl
  refine ⟨⟨rfl, rfl⟩, fun o _ => ?_⟩
  rcases o with e | rows
  · exact rfl
  change Holds rollupMonitor (upsertRows kind (kind.periodStart now) rows >>= fun _ =>
    call .commit >>= fun _ => pure rows.length) (ends kind) _
  refine Holds.bind ((upsertRows_holds kind now rows [] rows rfl).mono fun r view ended => ?_)
  cases r with
  | error e => exact ended
  | ok _ =>
    rw [ended]
    refine ⟨rfl, fun o _ => ?_⟩
    rcases o with e | _
    · exact rfl
    · exact ⟨now, rfl⟩

theorem job_holds (kind : PeriodType) :
    Holds rollupMonitor (job kind) (ends kind) ⟨kind, .waiting⟩ := by
  cases kind with
  | hourly => exact usageRollup_holds .hourly
  | daily => exact usageRollup_holds .daily

end Monitor

section Invariant
variable {ι : Type} {kinds : ι → PeriodType} {s : RollupShared ι} {views : ι → RollupView}

/-- A run of the job read a time for which the period is the one to roll up. -/
def RollupShared.closed (s : RollupShared ι) (kinds : ι → PeriodType) (kind : PeriodType) (start : ℤ) :
    Prop :=
  ∃ i now, kinds i = kind ∧ s.begun i = some now ∧ kind.periodStart now = start

theorem ranAfter_iff {kind : PeriodType} {time : ℤ} :
    s.ranAfter kinds kind time ↔ s.closed kinds kind (kind.truncate time) := by
  have follows (now : ℤ) :
      now / kind.length = time / kind.length + 1 ↔ kind.periodStart now = kind.truncate time := by
    rw [periodStart_eq, truncate_eq, mul_right_inj' (length_pos kind).ne']
    omega
  simp only [RollupShared.ranAfter, RollupShared.closed, follows]

/-- What the state holds of a run. -/
def Mirrors (s : RollupShared ι) (i : ι) (view : RollupView) : Prop :=
  match view.progress with
  | .waiting => s.begun i = none ∧ s.pending i = []
  | .timed now => s.begun i = some now ∧ s.pending i = []
  | .opened now => s.begun i = some now ∧ s.pending i = [] ∧ s.contexts i = bypassing
  | .selected now rows sent =>
    s.begun i = some now ∧ s.pending i = sent ∧ s.contexts i = bypassing ∧
      rows.Perm (aggregates s.usage (view.kind.periodStart now)
        (view.kind.periodStart now + view.kind.length))
  | .written now =>
    s.begun i = some now ∧ ∀ group ∈ aggregates s.usage (view.kind.periodStart now)
      (view.kind.periodStart now + view.kind.length),
        rollupRow view.kind (view.kind.periodStart now) group ∈ s.rollups
  | .failed => True

structure Rolled (kinds : ι → PeriodType) (s : RollupShared ι) (views : ι → RollupView) : Prop where
  kind : ∀ i, (views i).kind = kinds i
  linked : ∀ i, Mirrors s i (views i)
  current : ∀ row ∈ s.rollups, Current s.usage row
  closed : ∀ row ∈ s.rollups, s.closed kinds row.periodType row.periodStart
  unique : (s.rollups.map UsageRollup.key).Nodup
  recorded : ∀ u ∈ s.usage, WrittenByRecordUsage u.record

theorem Mirrors.frame {i : ι} {s' : RollupShared ι} {view : RollupView} (linked : Mirrors s i view)
    (begun : s'.begun i = s.begun i) (pending : s'.pending i = s.pending i)
    (contexts : s'.contexts i = s.contexts i) (usage : s'.usage = s.usage)
    (kept : ∀ row ∈ s.rollups, row ∈ s'.rollups) : Mirrors s' i view := by
  obtain ⟨kind, progress⟩ := view
  cases progress with
  | written now =>
    obtain ⟨same, rows⟩ := linked
    refine ⟨begun.trans same, fun group mem => ?_⟩
    rw [usage] at mem
    exact kept _ (rows group mem)
  | failed => trivial
  | _ => simpa only [Mirrors, begun, pending, contexts, usage] using linked

variable [DecidableEq ι] {i : ι}

theorem update_views {P : ι → RollupView → Prop} {view : RollupView} (own : P i view)
    (others : ∀ j, j ≠ i → P j (views j)) : ∀ j, P j (Function.update views i view j) :=
  (Function.forall_update_iff views P).mpr ⟨own, others⟩

theorem Rolled.fail (h : Rolled kinds s views) (i : ι) :
    Rolled kinds s (Function.update views i ⟨(views i).kind, .failed⟩) where
  kind := update_views (P := fun j view => view.kind = kinds j) (h.kind i) fun j _ => h.kind j
  linked := update_views (P := Mirrors s) trivial fun j _ => h.linked j
  current := h.current
  closed := h.closed
  unique := h.unique
  recorded := h.recorded

theorem Rolled.move (h : Rolled kinds s views) {s' : RollupShared ι} {progress : Progress}
    (own : Mirrors s' i ⟨(views i).kind, progress⟩)
    (others : ∀ j, j ≠ i → s'.begun j = s.begun j ∧ s'.pending j = s.pending j ∧
      s'.contexts j = s.contexts j)
    (begun : ∀ now, s.begun i = some now → s'.begun i = some now) (usage : s'.usage = s.usage)
    (kept : ∀ row ∈ s.rollups, row ∈ s'.rollups)
    (rows : ∀ row ∈ s'.rollups, Current s.usage row ∧ s.closed kinds row.periodType row.periodStart)
    (unique : (s'.rollups.map UsageRollup.key).Nodup) :
    Rolled kinds s' (Function.update views i ⟨(views i).kind, progress⟩) := by
  constructor
  case kind =>
    exact update_views (P := fun j view => view.kind = kinds j) (h.kind i) fun j _ => h.kind j
  case linked =>
    refine update_views (P := Mirrors s') own fun j apart => ?_
    obtain ⟨same, same', same''⟩ := others j apart
    exact (h.linked j).frame same same' same'' usage kept
  case current =>
    rw [usage]
    exact fun row mem => (rows row mem).1
  case closed =>
    intro row mem
    obtain ⟨j, now, kind, began, start⟩ := (rows row mem).2
    refine ⟨j, now, kind, ?_, start⟩
    by_cases mover : j = i
    · rw [mover] at began ⊢
      exact begun now began
    · rw [(others j mover).1]
      exact began
  case unique => exact unique
  case recorded =>
    rw [usage]
    exact h.recorded

theorem Rolled.stay (h : Rolled kinds s views) {s' : RollupShared ι} {progress : Progress}
    (own : Mirrors s' i ⟨(views i).kind, progress⟩)
    (others : ∀ j, j ≠ i → s'.begun j = s.begun j ∧ s'.pending j = s.pending j ∧
      s'.contexts j = s.contexts j)
    (begun : ∀ now, s.begun i = some now → s'.begun i = some now) (usage : s'.usage = s.usage)
    (rollups : s'.rollups = s.rollups) :
    Rolled kinds s' (Function.update views i ⟨(views i).kind, progress⟩) := by
  refine h.move own others begun usage ?_ ?_ ?_
  · rw [rollups]
    exact fun _ mem => mem
  · rw [rollups]
    exact fun row mem => ⟨h.current row mem, h.closed row mem⟩
  · rw [rollups]
    exact h.unique

theorem rows_distinct {usage : List StoredUsage} {kind : PeriodType} {start stop : ℤ}
    {rows : List (Uuid × Totals)} (selected : rows.Perm (aggregates usage start stop)) :
    ((rows.map (rollupRow kind start)).map UsageRollup.key).Nodup := by
  have tenants : (rows.map Prod.fst).Nodup :=
    (selected.map Prod.fst).nodup_iff.mpr (aggregates_distinct ..)
  rw [List.map_map]
  refine List.Nodup.of_map Prod.fst ?_
  rw [List.map_map]
  exact tenants

theorem pending_rows {now : ℤ} {kind : PeriodType} {rows : List (Uuid × Totals)}
    {usage : List StoredUsage} (selected : rows.Perm (aggregates usage (kind.periodStart now)
      (kind.periodStart now + kind.length))) :
    (∀ row, row ∈ rows.map (rollupRow kind (kind.periodStart now)) →
      Current usage row ∧ row.periodType = kind ∧ row.periodStart = kind.periodStart now) ∧
    ((rows.map (rollupRow kind (kind.periodStart now))).map UsageRollup.key).Nodup := by
  refine ⟨?_, rows_distinct selected⟩
  intro row mem
  obtain ⟨group, isGroup, rfl⟩ := List.mem_map.mp mem
  exact ⟨selected.mem_iff.mp isGroup, rfl, rfl⟩

theorem Rolled.commit (h : Rolled kinds s views) {now : ℤ} {rows : List (Uuid × Totals)}
    (here : (views i).progress = .selected now rows
      (rows.map (rollupRow (views i).kind ((views i).kind.periodStart now)))) :
    Rolled kinds { s with
        rollups := upsertAll UsageRollup.key s.rollups (s.pending i)
        pending := Function.update s.pending i []
        contexts := Function.update s.contexts i .none }
      (Function.update views i ⟨(views i).kind, .written now⟩) := by
  have linked := h.linked i
  rw [Mirrors, here] at linked
  obtain ⟨began, waiting, _, selected⟩ := linked
  obtain ⟨current, distinct⟩ := pending_rows selected
  have kept : ∀ row ∈ s.rollups, row ∈ upsertAll UsageRollup.key s.rollups (s.pending i) := by
    intro row mem
    rw [waiting, mem_upsertAll distinct]
    by_cases taken : row.key ∈ (rows.map (rollupRow (views i).kind
        ((views i).kind.periodStart now))).map UsageRollup.key
    · -- The row that takes the place of a current one is the same row.
      obtain ⟨row', mem', keys⟩ := List.mem_map.mp taken
      rw [← (current row' mem').1.ext (h.current row mem) keys]
      exact .inl mem'
    · exact .inr ⟨mem, taken⟩
  refine h.move ⟨began, fun group mem => ?_⟩ (fun j apart => ?_) (fun _ same => same) rfl kept
    (fun row mem => ?_) (upsertAll_nodup h.unique)
  · change _ ∈ upsertAll UsageRollup.key s.rollups (s.pending i)
    rw [waiting, mem_upsertAll distinct]
    exact .inl (List.mem_map_of_mem (selected.mem_iff.mpr mem))
  · exact ⟨rfl, Function.update_of_ne apart _ _, Function.update_of_ne apart _ _⟩
  · change row ∈ upsertAll UsageRollup.key s.rollups (s.pending i) at mem
    rw [waiting, mem_upsertAll distinct] at mem
    rcases mem with mem | ⟨mem, _⟩
    · obtain ⟨isCurrent, kind, start⟩ := current row mem
      refine ⟨isCurrent, i, now, ?_, began, ?_⟩
      · rw [kind, h.kind i]
      · rw [kind, start]
    · exact ⟨h.current row mem, h.closed row mem⟩

theorem Rolled.serve (h : Rolled kinds s views) {op : RollupOp} {a : RollupRet op}
    {s' : RollupShared ι} (permitted : rollupMonitor.permits (views i) op) (served : s.serves i op a s') :
    Rolled kinds s' (Function.update views i (rollupMonitor.advance (views i) op (.ok a))) := by
  have linked := h.linked i
  rcases permits_cases permitted with ⟨here, rfl⟩ | ⟨now, here, rfl⟩ | ⟨now, here, rfl⟩ |
    ⟨now, rows, sent, row, here, rfl⟩ | ⟨now, rows, here, rfl⟩
  · rw [here] at linked
    have moved : rollupMonitor.advance (views i) .datetimeNow (.ok a) = ⟨(views i).kind, .timed a⟩ := rfl
    rw [served, moved]
    refine h.stay ⟨Function.update_self _ _ _, linked.2⟩ (fun j apart => ?_) (fun now began => ?_) rfl rfl
    · exact ⟨Function.update_of_ne apart _ _, rfl, rfl⟩
    · rw [linked.1] at began
      cases began
  · rw [here] at linked
    have moved : rollupMonitor.advance (views i) (.setRlsContext none true) (.ok a) =
        ⟨(views i).kind, .opened now⟩ := by
      rw [here]
      rfl
    rw [served, moved]
    refine h.stay ⟨linked.1, linked.2, Function.update_self _ _ _⟩ (fun j apart => ?_) (fun _ began => began)
      rfl rfl
    exact ⟨rfl, rfl, Function.update_of_ne apart _ _⟩
  · rw [here] at linked
    obtain ⟨began, waiting, context⟩ := linked
    obtain ⟨rows, rfl⟩ := served
    have moved : rollupMonitor.advance (views i) (.selectAggregates ((views i).kind.periodStart now)
        ((views i).kind.periodStart now + (views i).kind.length)) (.ok a) =
        ⟨(views i).kind, .selected now a []⟩ := by
      rw [here]
      rfl
    have all : s'.usage.filter (fun u => grants (s'.contexts i) (some u.record.tenantId)) = s'.usage := by
      rw [context]
      exact List.filter_eq_self.mpr fun u _ => bypassing_grants _
    rw [all] at rows
    rw [moved]
    exact h.stay ⟨began, waiting, context, rows⟩ (fun _ _ => ⟨rfl, rfl, rfl⟩) (fun _ began => began) rfl rfl
  · rw [here] at linked
    obtain ⟨began, waiting, context, selected⟩ := linked
    obtain ⟨_, _, rfl⟩ := served
    have moved : rollupMonitor.advance (views i) (.upsertRollup row) (.ok a) =
        ⟨(views i).kind, .selected now rows (sent ++ [row])⟩ := by
      rw [here]
      rfl
    rw [moved]
    refine h.stay ⟨began, ?_, context, selected⟩ (fun j apart => ?_) (fun _ began => began) rfl rfl
    · change Function.update s.pending i (s.pending i ++ [row]) i = _
      rw [Function.update_self, waiting]
    · exact ⟨rfl, Function.update_of_ne apart _ _, rfl⟩
  · have moved : rollupMonitor.advance (views i) .commit (.ok a) = ⟨(views i).kind, .written now⟩ := by
      rw [here]
      rfl
    rw [served, moved]
    exact h.commit (congrArg RollupView.progress here)

omit [DecidableEq ι] in
theorem outside_closed {u : StoredUsage} {kind : PeriodType} {start : ℤ}
    (inTime : ∀ kind, ¬ s.ranAfter kinds kind u.createdAt) (closed : s.closed kinds kind start) :
    aggregates (s.usage ++ [u]) start (start + kind.length) =
      aggregates s.usage start (start + kind.length) := by
  obtain ⟨i, now, isKind, began, rfl⟩ := closed
  refine aggregates_outside fun inside => inTime kind (ranAfter_iff.mpr ?_)
  rw [(truncate_iff (periodStart_aligned kind now)).mp inside]
  exact ⟨i, now, isKind, began, rfl⟩

omit [DecidableEq ι] in
theorem Rolled.record (h : Rolled kinds s views) {u : StoredUsage}
    (inTime : ∀ kind, ¬ s.ranAfter kinds kind u.createdAt) (written : WrittenByRecordUsage u.record) :
    Rolled kinds { s with usage := s.usage ++ [u] } views := by
  constructor
  case kind => exact h.kind
  case linked =>
    intro i
    have linked := h.linked i
    have same (now : ℤ) (began : s.begun i = some now) :=
      outside_closed inTime ⟨i, now, (h.kind i).symm, began, rfl⟩
    rcases here : views i with ⟨kind, progress⟩
    rw [here] at linked same
    cases progress with
    | selected now rows sent =>
      obtain ⟨began, waiting, context, selected⟩ := linked
      refine ⟨began, waiting, context, ?_⟩
      rw [same now began]
      exact selected
    | written now =>
      obtain ⟨began, rows⟩ := linked
      refine ⟨began, ?_⟩
      rw [same now began]
      exact rows
    | _ => exact linked
  case current =>
    intro row mem
    rw [Current, outside_closed inTime (h.closed row mem)]
    exact h.current row mem
  case closed => exact h.closed
  case unique => exact h.unique
  case recorded =>
    intro other mem
    rcases List.mem_append.mp mem with mem | mem
    · exact h.recorded other mem
    · rw [List.mem_singleton.mp mem]
      exact written

end Invariant

section Runs
variable {ι : Type} {kinds : ι → PeriodType}

/-- A run of the job has ended well that began in the hour (day) after the one that the
time is in. -/
def finishedAfter (kinds : ι → PeriodType) (p : RollupPool ι) (kind : PeriodType) (time : ℤ) : Prop :=
  ∃ i now n, kinds i = kind ∧ p.shared.begun i = some now ∧
    now / kind.length = time / kind.length + 1 ∧ p.threads i = .done (.ok n)

/-- The totals of the row under the key. A row that is absent counts as zero. -/
def totalsAt (rollups : List UsageRollup) (tenantId : Uuid) (kind : PeriodType) (start : ℤ) : Totals :=
  ((rollups.find? fun row => row.key = (tenantId, kind, start)).map UsageRollup.totals).getD 0

structure Conserved (kinds : ι → PeriodType) (p : RollupPool ι) : Prop where
  unique : (p.shared.rollups.map UsageRollup.key).Nodup
  aggregate : ∀ row ∈ p.shared.rollups, row.totals = totalsOf (p.shared.usage.filter row.counts)
  total : ∀ row ∈ p.shared.rollups,
    row.totals .totalTokens = row.totals .promptTokens + row.totals .completionTokens
  counted : ∀ u ∈ p.shared.usage, ∀ kind, finishedAfter kinds p kind u.createdAt →
    ∃! row, row ∈ p.shared.rollups ∧ row.periodType = kind ∧ row.counts u = true
  days : ∀ row ∈ p.shared.rollups, row.periodType = .daily →
    (∀ k : ℕ, k < 24 → finishedAfter kinds p .hourly (row.periodStart + k * hour)) →
    row.totals = ∑ k ∈ Finset.range 24,
      totalsAt p.shared.rollups row.tenantId .hourly (row.periodStart + k * hour)

abbrev RollupPool.view (kinds : ι → PeriodType) (p : RollupPool ι) : ι → RollupView :=
  p.monitored rollupMonitor fun i => ⟨kinds i, .waiting⟩

structure RollupInvariant (kinds : ι → PeriodType) (p : RollupPool ι) : Prop where
  tracked : p.Tracked rollupMonitor (fun i => ends (kinds i)) fun i => ⟨kinds i, .waiting⟩
  rolled : Rolled kinds p.shared (p.view kinds)

theorem RollupInvariant.start : RollupInvariant kinds (rollupPool kinds) where
  tracked := Pool.start_tracked fun i => job_holds (kinds i)
  rolled := by
    constructor
    case kind => exact fun _ => rfl
    case linked => exact fun _ => ⟨rfl, rfl⟩
    case unique => exact List.nodup_nil
    all_goals exact fun _ mem => by cases mem

theorem counts_records (usage : List StoredUsage) (row : UsageRollup) :
    recordsOf usage row.tenantId row.periodStart (row.periodStart + row.periodType.length) =
      usage.filter row.counts := by
  rw [recordsOf, List.filter_filter]
  refine List.filter_congr fun u _ => ?_
  rw [within, UsageRollup.counts, Bool.and_assoc]

theorem total_tokens {usage : List StoredUsage} (recorded : ∀ u ∈ usage, WrittenByRecordUsage u.record) :
    totalsOf usage .totalTokens = totalsOf usage .promptTokens + totalsOf usage .completionTokens := by
  simp only [totalsOf, ← List.sum_map_add]
  refine congrArg List.sum (List.map_congr_left fun u mem => ?_)
  obtain ⟨request, providerName, model, promptTokens, completionTokens, cacheHit, cost, same⟩ := recorded u mem
  rw [same]
  simp [Column.measure, usageRecord]

variable {p : RollupPool ι}

theorem RollupInvariant.finished (h : RollupInvariant kinds p) {kind : PeriodType} {time : ℤ}
    (ran : finishedAfter kinds p kind time) {group : Uuid × Totals}
    (mem : group ∈ aggregates p.shared.usage (kind.truncate time) (kind.truncate time + kind.length)) :
    rollupRow kind (kind.truncate time) group ∈ p.shared.rollups := by
  obtain ⟨i, now, n, rfl, began, follows, done⟩ := ran
  have ended := (h.tracked i).2
  rw [done] at ended
  obtain ⟨now', view⟩ := ended
  have linked := h.rolled.linked i
  have view : p.view kinds i = ⟨kinds i, .written now'⟩ := view
  rw [view] at linked
  obtain ⟨began', rows⟩ := linked
  rw [began] at began'
  obtain rfl := Option.some.inj began'
  have start : (kinds i).periodStart now = (kinds i).truncate time := by
    rw [periodStart_eq, truncate_eq, follows, add_sub_cancel_right]
  rw [start] at rows
  exact rows group mem

theorem mem_counts {row : UsageRollup} {u : StoredUsage} :
    row.counts u = true ↔ u.record.tenantId = row.tenantId ∧
      (row.periodStart ≤ u.createdAt ∧ u.createdAt < row.periodStart + row.periodType.length) := by
  simp only [UsageRollup.counts, Bool.and_eq_true, decide_eq_true_eq, and_assoc]

theorem Rolled.aligned {s : RollupShared ι} {views : ι → RollupView} (h : Rolled kinds s views)
    {row : UsageRollup} (mem : row ∈ s.rollups) :
    row.periodType.truncate row.periodStart = row.periodStart := by
  obtain ⟨_, now, _, _, start⟩ := h.closed row mem
  rw [← start]
  exact periodStart_aligned row.periodType now

theorem RollupInvariant.counted (h : RollupInvariant kinds p) {u : StoredUsage}
    (stored : u ∈ p.shared.usage) {kind : PeriodType} (ran : finishedAfter kinds p kind u.createdAt) :
    ∃! row, row ∈ p.shared.rollups ∧ row.periodType = kind ∧ row.counts u = true := by
  have positive := length_pos kind
  have inside : kind.truncate u.createdAt ≤ u.createdAt ∧
      u.createdAt < kind.truncate u.createdAt + kind.length := by
    have low := Int.emod_nonneg u.createdAt positive.ne'
    have high := Int.emod_lt_of_pos u.createdAt positive
    unfold PeriodType.truncate
    omega
  have group := mem_aggregates.mpr ⟨⟨u, mem_recordsOf.mpr ⟨stored, inside, rfl⟩⟩, rfl⟩
  have row := h.finished ran group
  refine ⟨_, ⟨row, rfl, mem_counts.mpr ⟨rfl, inside⟩⟩, ?_⟩
  rintro other ⟨mem, rfl, counts⟩
  obtain ⟨owner, within⟩ := mem_counts.mp counts
  have start : other.periodType.truncate u.createdAt = other.periodStart :=
    (truncate_iff (h.rolled.aligned mem)).mp within
  refine List.inj_on_of_nodup_map h.rolled.unique mem row ?_
  rw [UsageRollup.key, UsageRollup.key, rollupRow, owner, start]

theorem RollupInvariant.totalsAt_eq (h : RollupInvariant kinds p) {kind : PeriodType} {start : ℤ}
    (aligned : kind.truncate start = start) (ran : finishedAfter kinds p kind start) (tenantId : Uuid) :
    totalsAt p.shared.rollups tenantId kind start =
      totalsOf (recordsOf p.shared.usage tenantId start (start + kind.length)) := by
  unfold totalsAt
  cases found : p.shared.rollups.find? fun row => row.key = (tenantId, kind, start) with
  | some row =>
    have key : row.key = (tenantId, kind, start) := by simpa using List.find?_some found
    have totals := (h.rolled.current row (List.mem_of_find?_eq_some found)).totals_eq
    obtain ⟨_, _, _, _⟩ := row
    obtain ⟨rfl, rfl, rfl⟩ := key_eq.mp key
    exact totals
  | none =>
    have empty : recordsOf p.shared.usage tenantId start (start + kind.length) = [] := by
      rw [List.eq_nil_iff_forall_not_mem]
      intro u mem
      have group : (tenantId, totalsOf (recordsOf p.shared.usage tenantId start (start + kind.length))) ∈
          aggregates p.shared.usage (kind.truncate start) (kind.truncate start + kind.length) := by
        rw [aligned]
        exact mem_aggregates.mpr ⟨⟨u, mem⟩, rfl⟩
      have row := h.finished ran group
      rw [aligned] at row
      have absent := List.find?_eq_none.mp found _ row
      exact absent (decide_eq_true rfl)
    rw [empty]
    rfl

theorem hours_aligned {start : ℤ} (aligned : PeriodType.daily.truncate start = start) (k : ℕ) :
    PeriodType.hourly.truncate (start + k * hour) = start + k * hour := by
  rw [truncate_eq] at aligned
  have whole : (start + k * hour) % hour = 0 := by
    refine Int.emod_eq_zero_of_dvd ⟨24 * (start / PeriodType.daily.length) + k, ?_⟩
    have day : PeriodType.daily.length = 24 * hour := rfl
    rw [day] at aligned ⊢
    calc start + k * hour = 24 * hour * (start / (24 * hour)) + k * hour := by rw [aligned]
      _ = hour * (24 * (start / (24 * hour)) + k) := by ring
  rw [PeriodType.truncate, PeriodType.length, whole, sub_zero]

theorem RollupInvariant.conserved (h : RollupInvariant kinds p) : Conserved kinds p := by
  constructor
  case unique => exact h.rolled.unique
  case aggregate =>
    intro row mem
    rw [← counts_records]
    exact (h.rolled.current row mem).totals_eq
  case total =>
    intro row mem
    rw [(h.rolled.current row mem).totals_eq]
    exact total_tokens fun u mem => h.rolled.recorded u (mem_recordsOf.mp mem).1
  case counted => exact fun u stored kind ran => h.counted stored ran
  case days =>
    intro row mem daily hours
    have aligned := h.rolled.aligned mem
    have totals := (h.rolled.current row mem).totals_eq
    rw [daily] at aligned totals
    have day : PeriodType.daily.length = (24 : ℕ) * hour := rfl
    rw [totals, day, totalsOf_blocks _ _ _ (by decide)]
    refine Finset.sum_congr rfl fun k inDay => ?_
    exact (h.totalsAt_eq (hours_aligned aligned k) (hours k (Finset.mem_range.mp inDay)) _).symm

variable [DecidableEq ι]

theorem rollup_step (p : RollupPool ι) (l : RollupLabel ι) (p' : RollupPool ι)
    (h : RollupInvariant kinds p) (inTime : CommittedInTime kinds p l)
    (step : Step (rollupWorld ι) p l p') : RollupInvariant kinds p' := by
  obtain ⟨tracked, moved⟩ := step_cases (fun _ _ _ _ _ _ _ => trivial) h.tracked step
  refine ⟨tracked, ?_⟩
  rcases moved with ⟨i, op, o, rfl, permitted, answered, views⟩ | ⟨u, rfl, ⟨written, moved⟩, views⟩
  · have views : p'.view kinds = Function.update (p.view kinds) i
        (rollupMonitor.advance (p.view kinds i) op o) := views
    rw [views]
    cases o with
    | ok a => exact h.rolled.serve permitted answered
    | error e =>
      have failed : rollupMonitor.advance (p.view kinds i) op (.error e) =
          ⟨(p.view kinds i).kind, .failed⟩ := rfl
      rw [failed]
      rcases answered with same | ⟨a, served⟩
      · rw [same]
        exact h.rolled.fail i
      · have after := (h.rolled.serve permitted served).fail i
        rw [Function.update_self, Function.update_idem, advance_kind] at after
        exact after
  · have views : p'.view kinds = p.view kinds := views
    rw [views, moved]
    exact h.rolled.record inTime written

/-- In every run in which each usage record is committed before the first run of a job in the
hour (day) that follows its own: one row for each key, each row the aggregate of its tenant's
records, each record in exactly one hourly and one daily row once the jobs have run, and each
daily row the sum of the hourly rows of its day. -/
theorem rollups_conserve_usage (kinds : ι → PeriodType) (run : List (RollupLabel ι × RollupPool ι))
    (isRun : IsRun (Step (rollupWorld ι)) (rollupPool kinds) run)
    (inTime : StepsMeet (CommittedInTime kinds) (rollupPool kinds) run) :
    ∀ p ∈ visited (rollupPool kinds) run, Conserved kinds p := by
  intro p mem
  have h := isRun.invariant (I := RollupInvariant kinds) (fun p l p' => rollup_step p l p') inTime .start p mem
  exact h.conserved

end Runs

section OneDay

/-- A record of the first hour. -/
def firstUse : StoredUsage := ⟨usageRecord (helloChat false none) "ollama" "llama3" 8 1 false 0, 0⟩

def firstGroup : Uuid × Totals := (helloTenantId, totalsOf [firstUse])

def firstRow : UsageRollup := rollupRow .hourly (PeriodType.hourly.periodStart hour) firstGroup

theorem firstRow_fits : firstRow.fits = true := by
  decide +kernel

abbrev firstPool : RollupPool Unit := rollupPool fun _ => .hourly

def smallTenantId : Uuid := ⟨"87654321-4321-4321-4321-210987654321", rfl⟩

def smallTenant : TenantContext := { helloTenant with tenantId := smallTenantId }

/-- Thirty prompt tokens of gpt-4o-mini, in the second hour. The double nearest to their price is above
it, so that it is rounded up. -/
def laterUse : StoredUsage where
  record := usageRecord ⟨helloRequest false, smallTenant, none, none⟩ "openai" "gpt-4o-mini" 30 0 false
    (4500001 / 10 ^ 12)
  createdAt := hour

def day : ℤ := 24 * hour

def dayGroup : Uuid × Totals := (smallTenantId, totalsOf [laterUse])

def dayRows : List UsageRollup :=
  [firstGroup, dayGroup].map (rollupRow .daily (PeriodType.daily.periodStart day))

theorem dayRows_fit : dayRows.all UsageRollup.fits = true := by
  decide +kernel

/-- One run of each job. -/
def bothJobs : Bool → PeriodType
  | false => .hourly
  | true => .daily

theorem rollups_conserve_usage_one_day :
    ∃ run : List (RollupLabel Bool × RollupPool Bool),
      IsRun (Step (rollupWorld Bool)) (rollupPool bothJobs) run ∧
      StepsMeet (CommittedInTime bothJobs) (rollupPool bothJobs) run ∧
      (final (rollupPool bothJobs) run).shared.usage = [firstUse, laterUse] ∧
      (final (rollupPool bothJobs) run).shared.rollups = firstRow :: dayRows ∧
      finishedAfter bothJobs (final (rollupPool bothJobs) run) .hourly firstUse.createdAt ∧
      finishedAfter bothJobs (final (rollupPool bothJobs) run) .daily laterUse.createdAt ∧
      ∀ p ∈ visited (rollupPool bothJobs) run, Conserved bothJobs p := by
  have fits := List.all_eq_true.mp dayRows_fit
  have isRun : IsRun (Step (rollupWorld Bool)) (rollupPool bothJobs)
      [(.env firstUse, _), (.call false ⟨.datetimeNow, .ok hour⟩, _),
        (.call false ⟨.setRlsContext none true, .ok ()⟩, _),
        (.call false ⟨.selectAggregates (PeriodType.hourly.periodStart hour)
          (PeriodType.hourly.periodStart hour + PeriodType.hourly.length), .ok [firstGroup]⟩, _),
        (.call false ⟨.upsertRollup firstRow, .ok ()⟩, _), (.call false ⟨.commit, .ok ()⟩, _),
        (.env laterUse, _), (.call true ⟨.datetimeNow, .ok day⟩, _),
        (.call true ⟨.setRlsContext none true, .ok ()⟩, _),
        (.call true ⟨.selectAggregates (PeriodType.daily.periodStart day)
          (PeriodType.daily.periodStart day + PeriodType.daily.length), .ok [firstGroup, dayGroup]⟩, _),
        (.call true ⟨.upsertRollup (rollupRow .daily (PeriodType.daily.periodStart day) firstGroup), .ok ()⟩, _),
        (.call true ⟨.upsertRollup (rollupRow .daily (PeriodType.daily.periodStart day) dayGroup), .ok ()⟩, _),
        (.call true ⟨.commit, .ok ()⟩, _)] :=
    ⟨.env ⟨⟨_, _, _, _, _, _, _, rfl⟩, rfl⟩, .call rfl rfl, .call rfl rfl,
      .call rfl ⟨by exact .refl _, rfl⟩, .call rfl ⟨rfl, firstRow_fits, rfl⟩, .call rfl rfl,
      .env ⟨⟨_, _, _, _, _, _, _, rfl⟩, rfl⟩, .call rfl rfl, .call rfl rfl,
      .call rfl ⟨by exact .refl _, rfl⟩, .call rfl ⟨rfl, fits _ (.head _), rfl⟩,
      .call rfl ⟨rfl, fits _ (.tail _ (.head _)), rfl⟩, .call rfl rfl, trivial⟩
  refine ⟨_, isRun, ?inTime, rfl, rfl, ⟨false, hour, 1, rfl, rfl, by decide, rfl⟩,
    ⟨true, day, 2, rfl, rfl, by decide, rfl⟩, rollups_conserve_usage _ _ isRun ?inTime⟩
  refine ⟨?early, trivial, trivial, trivial, trivial, trivial, ?later, trivial, trivial, trivial, trivial,
    trivial, trivial, trivial⟩
  case early =>
    rintro kind ⟨_, _, _, began, _⟩
    cases began
  case later =>
    rintro kind ⟨i, now, rfl, began, follows⟩
    cases i with
    | false =>
      cases began
      revert follows
      decide
    | true => cases began

end OneDay
end AegisGateway.UsageRollups
