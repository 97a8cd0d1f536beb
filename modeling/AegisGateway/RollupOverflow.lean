import AegisGateway.UsageBilling
import AegisGateway.UsageRollups

set_option autoImplicit false

/-!
# Rollups whose sums do not fit

`_rollup_period` on a database where nothing else goes wrong than an insert that is out of
range: it writes all rows of the period or, if the sums of a single tenant do not fit the
columns of `usage_rollups`, none.
-/
namespace AegisGateway.RollupOverflow
open EffectProgram ProgramPool KeyedRows UsageRollups
open UsageBilling (fits isInt32)
open BudgetScan (RlsContext)
open Accounts (bypassing bypassing_grants)

section Volumes

/-- What a tenant used in a period fits one row: the requests and the token counts 32 bits, the
cost six digits before the point. -/
structure VolumeFits (used : List StoredUsage) : Prop where
  requests : used.length < 2 ^ 31
  promptTokens : isInt32 (used.map fun u => u.record.promptTokens).sum = true
  completionTokens : isInt32 (used.map fun u => u.record.completionTokens).sum = true
  totalTokens : isInt32 (used.map fun u => u.record.totalTokens).sum = true
  costUsd : |(used.map fun u => u.record.costUsd.value).sum| < 10 ^ 6

variable (used : List StoredUsage)

theorem totalsOf_requestCount : totalsOf used .requestCount = used.length := by
  simp [totalsOf, Column.measure]

theorem totalsOf_cacheHitCount :
    0 ≤ totalsOf used .cacheHitCount ∧ totalsOf used .cacheHitCount ≤ used.length := by
  induction used with
  | nil => exact ⟨le_refl _, le_refl _⟩
  | cons u used ih =>
    have split : totalsOf (u :: used) .cacheHitCount =
        (if u.record.cacheHit then 1 else 0) + totalsOf used .cacheHitCount := List.sum_cons
    rw [split, List.length_cons]
    push_cast
    split_ifs
    · constructor <;> linarith
    · constructor <;> linarith

theorem sum_cast (count : StoredUsage → ℤ) :
    (used.map fun u => (count u : ℚ)).sum = ((used.map count).sum : ℤ) := by
  rw [Int.cast_list_sum, List.map_map]
  rfl

theorem takes_int (n : ℤ) {column : Column} (integer : column ≠ .costUsd) :
    column.takes (n : ℚ) = isInt32 n := by
  have bounds : ((-2 ^ 31 : ℚ) ≤ n ↔ (-2 ^ 31 : ℤ) ≤ n) ∧ ((n : ℚ) < 2 ^ 31 ↔ n < 2 ^ 31) := by
    constructor
    · rw [← Int.cast_le (R := ℚ)]
      norm_num
    · rw [← Int.cast_lt (R := ℚ)]
      norm_num
  cases column with
  | costUsd => exact absurd rfl integer
  | _ => simp only [Column.takes, isInt32, bounds.1, bounds.2]

theorem takes_length (n : ℕ) : Column.requestCount.takes (n : ℚ) = decide (n < 2 ^ 31) := by
  have cast : (n : ℚ) = ((n : ℤ) : ℚ) := (Int.cast_natCast n).symm
  rw [cast, takes_int _ (by decide), isInt32, Bool.eq_iff_iff, Bool.and_eq_true, decide_eq_true_eq,
    decide_eq_true_eq, decide_eq_true_eq]
  omega

theorem rollupRow_fits (kind : PeriodType) (start : ℤ) (tenantId : Uuid) :
    (rollupRow kind start (tenantId, totalsOf used)).fits = true ↔ VolumeFits used := by
  have prompt : totalsOf used .promptTokens =
      ((used.map fun u => u.record.promptTokens).sum : ℤ) := sum_cast used _
  have completion : totalsOf used .completionTokens =
      ((used.map fun u => u.record.completionTokens).sum : ℤ) := sum_cast used _
  have total : totalsOf used .totalTokens =
      ((used.map fun u => u.record.totalTokens).sum : ℤ) := sum_cast used _
  have cost : totalsOf used .costUsd = (used.map fun u => u.record.costUsd.value).sum := rfl
  have columns : (rollupRow kind start (tenantId, totalsOf used)).fits = true ↔
      used.length < 2 ^ 31 ∧ Column.cacheHitCount.takes (totalsOf used .cacheHitCount) = true ∧
        isInt32 (used.map fun u => u.record.promptTokens).sum = true ∧
        isInt32 (used.map fun u => u.record.completionTokens).sum = true ∧
        isInt32 (used.map fun u => u.record.totalTokens).sum = true ∧
        |(used.map fun u => u.record.costUsd.value).sum| < 10 ^ 6 := by
    simp only [UsageRollup.fits, rollupRow, List.all_cons, List.all_nil, Bool.and_true,
      Bool.and_eq_true, totalsOf_requestCount, takes_length, prompt, completion, total,
      takes_int _ (show Column.promptTokens ≠ .costUsd by decide),
      takes_int _ (show Column.completionTokens ≠ .costUsd by decide),
      takes_int _ (show Column.totalTokens ≠ .costUsd by decide), decide_eq_true_eq]
    rw [cost]
    simp only [Column.takes, decide_eq_true_eq]
  rw [columns]
  constructor
  · rintro ⟨requests, _, prompt, completion, total, cost⟩
    exact ⟨requests, prompt, completion, total, cost⟩
  · intro volume
    refine ⟨volume.requests, ?_, volume.promptTokens, volume.completionTokens, volume.totalTokens,
      volume.costUsd⟩
    -- there are no more hits than requests
    obtain ⟨low, high⟩ := totalsOf_cacheHitCount used
    have few : (used.length : ℚ) < 2 ^ 31 := by exact_mod_cast volume.requests
    simp only [Column.takes, Bool.and_eq_true, decide_eq_true_eq]
    exact ⟨by linarith, by linarith⟩

end Volumes

section Transactions

/-- How a statement that cannot be carried out ends, an insert that is out of range. -/
def rejected : Exn := .other "DBAPIError"

/-- Postgres, healthy: it carries out what it can. A statement that it cannot carry out raises
and aborts its transaction. -/
def postgres : World RollupOp RollupRet Exn Unit (RollupShared Unit) Empty where
  answer s i op o s' := match o with
    | .ok a => s.serves i op a s'
    | .error e => (∀ a after, ¬ s.serves i op a after) ∧ e = rejected ∧
        s' = { s with
          pending := Function.update s.pending i []
          contexts := Function.update s.contexts i .none }
  passes _ k _ := k.elim

/-- The tables before the job opens its session. -/
def idle (usage : List StoredUsage) (rollups : List UsageRollup) : RollupShared Unit :=
  ⟨usage, rollups, fun _ => none, fun _ => .none, fun _ => []⟩

variable {s after : RollupShared Unit} {kind : PeriodType} {start stop : ℤ}

theorem postgres_total (s : RollupShared Unit) (op : RollupOp) :
    ∃ o s', postgres.answer s () op o s' := by
  by_cases can : ∃ a s', s.serves () op a s'
  · obtain ⟨a, s', served⟩ := can
    exact ⟨.ok a, s', served⟩
  · exact ⟨.error rejected, _, fun a s' served => can ⟨a, s', served⟩, rfl, rfl⟩

/-- The rows in turn: all of them wait for the commit, or one that does not fit has ended the
transaction. -/
theorem upsertRows_ends {rows : List (Uuid × Totals)} {r : Except Exn Unit}
    (bypass : s.contexts () = bypassing)
    (ends : postgres.Ends () (upsertRows kind start rows) s r after) :
    ((∀ group ∈ rows, (rollupRow kind start group).fits = true) ∧ r = .ok () ∧
      after.rollups = s.rollups ∧
      after.pending () = s.pending () ++ rows.map (rollupRow kind start)) ∨
    ((∃ group ∈ rows, (rollupRow kind start group).fits = false) ∧ (∃ e, r = .error e) ∧
      after.rollups = s.rollups) := by
  induction rows generalizing s with
  | nil =>
    obtain ⟨rfl, rfl⟩ := World.ends_done.mp ends
    exact .inl ⟨List.forall_mem_nil _, rfl, rfl, (List.append_nil _).symm⟩
  | cons group rows ih =>
    rcases World.ends_bind.mp ends with ⟨e, call, rfl⟩ | ⟨_, mid, call, rest⟩
    · obtain ⟨refused, _, rfl⟩ := World.ends_perform.mp call
      have unfit : (rollupRow kind start group).fits = false := by
        by_contra fits
        refine refused () _ ⟨?_, Bool.eq_true_of_not_eq_false fits, rfl⟩
        rw [bypass]
        exact bypassing_grants _
      exact .inr ⟨⟨group, .head _, unfit⟩, ⟨e, rfl⟩, rfl⟩
    · obtain ⟨_, fits, rfl⟩ := World.ends_perform.mp call
      rcases ih (by exact bypass) rest with ⟨all, ok, kept, sent⟩ | ⟨⟨other, mem, unfit⟩, raised, kept⟩
      · refine .inl ⟨List.forall_mem_cons.mpr ⟨fits, all⟩, ok, kept, ?_⟩
        have sent : after.pending () = Function.update s.pending () (s.pending () ++
            [rollupRow kind start group]) () ++ rows.map (rollupRow kind start) := sent
        rw [sent, Function.update_self, List.append_assoc]
        rfl
      · exact .inr ⟨⟨other, .tail _ mem, unfit⟩, raised, kept⟩

theorem rollupPeriod_ends {usage : List StoredUsage} {rollups : List UsageRollup} {r : Except Exn ℕ}
    (ends : postgres.Ends () (rollupPeriod kind start stop) (idle usage rollups) r after) :
    ((∀ group ∈ aggregates usage start stop, (rollupRow kind start group).fits = true) ∧
      (∃ n, r = .ok n) ∧
      ∀ group ∈ aggregates usage start stop, rollupRow kind start group ∈ after.rollups) ∨
    ((∃ group ∈ aggregates usage start stop, (rollupRow kind start group).fits = false) ∧
      (∃ e, r = .error e) ∧ after.rollups = rollups) := by
  rcases World.ends_bind.mp ends with ⟨e, call, rfl⟩ | ⟨_, opened, call, ends⟩
  · exact absurd rfl ((World.ends_perform.mp call).1 () _)
  obtain rfl := World.ends_perform.mp call
  have context : Function.update (fun _ : Unit => RlsContext.none) () (rlsSettings none true) () =
      bypassing := Function.update_self _ _ _
  rcases World.ends_bind.mp ends with ⟨e, call, rfl⟩ | ⟨rows, selected, call, ends⟩
  · exact absurd ⟨.refl _, rfl⟩ ((World.ends_perform.mp call).1 _ _)
  obtain ⟨perm, rfl⟩ := World.ends_perform.mp call
  have all : usage.filter (fun u => Accounts.grants (Function.update
      (fun _ : Unit => RlsContext.none) () (rlsSettings none true) ()) (some u.record.tenantId)) =
      usage := by
    rw [context]
    exact List.filter_eq_self.mpr fun u _ => bypassing_grants _
  have perm : rows.Perm (aggregates usage start stop) := all ▸ perm
  rcases World.ends_bind.mp ends with ⟨e, upserts, rfl⟩ | ⟨_, waiting, upserts, ends⟩
  · rcases upsertRows_ends context upserts with ⟨_, ok, _⟩ | ⟨⟨group, mem, unfit⟩, _, kept⟩
    · cases ok
    · exact .inr ⟨⟨group, perm.mem_iff.mp mem, unfit⟩, ⟨e, rfl⟩, kept⟩
  rcases upsertRows_ends context upserts with ⟨fit, _, kept, sent⟩ | ⟨_, ⟨_, raised⟩, _⟩
  rotate_left
  · cases raised
  rcases World.ends_bind.mp ends with ⟨e, call, rfl⟩ | ⟨_, committed, call, ends⟩
  · exact absurd rfl ((World.ends_perform.mp call).1 () _)
  obtain rfl := World.ends_perform.mp call
  obtain ⟨rfl, rfl⟩ := World.ends_done.mp ends
  refine .inl ⟨fun group mem => fit group (perm.mem_iff.mpr mem), ⟨_, rfl⟩, fun group mem => ?_⟩
  change rollupRow kind start group ∈ upsertAll UsageRollup.key waiting.rollups (waiting.pending ())
  have sent : waiting.pending () = rows.map (rollupRow kind start) := sent
  rw [sent, mem_upsertAll (rows_distinct perm)]
  exact .inl (List.mem_map_of_mem (perm.mem_iff.mpr mem))

end Transactions

section Success
variable (kind : PeriodType) (start stop : ℤ) (usage : List StoredUsage) (rollups : List UsageRollup)

/-- However the database orders the groups, the job succeeds, and every tenant with usage in the
period has its row. -/
def RolledUp : Prop :=
  ∀ r after, postgres.Ends () (rollupPeriod kind start stop) (idle usage rollups) r after →
    (∃ n, r = .ok n) ∧
      ∀ tenantId, recordsOf usage tenantId start stop ≠ [] →
        rollupRow kind start (tenantId, totalsOf (recordsOf usage tenantId start stop)) ∈
          after.rollups

theorem groups_fit_iff :
    (∀ group ∈ aggregates usage start stop, (rollupRow kind start group).fits = true) ↔
      ∀ tenantId, VolumeFits (recordsOf usage tenantId start stop) := by
  constructor
  · intro fit tenantId
    by_cases used : recordsOf usage tenantId start stop = []
    · rw [used]
      exact ⟨by decide, rfl, rfl, rfl, by norm_num⟩
    · have group := mem_aggregates.mpr ⟨List.exists_mem_of_ne_nil _ used, rfl⟩
      exact (rollupRow_fits _ kind start tenantId).mp (fit _ group)
  · intro volumes group mem
    obtain ⟨tenantId, totals⟩ := group
    obtain ⟨_, rfl⟩ := mem_aggregates.mp mem
    exact (rollupRow_fits _ kind start tenantId).mpr (volumes tenantId)

/-- The rollup of a period succeeds exactly if what every single tenant used in it fits the
columns of one row. -/
theorem rolledUp_iff_volumes_fit :
    RolledUp kind start stop usage rollups ↔
      ∀ tenantId, VolumeFits (recordsOf usage tenantId start stop) := by
  rw [← groups_fit_iff kind]
  constructor
  · intro rolled
    obtain ⟨r, after, ends⟩ := World.exists_ends postgres_total (rollupPeriod kind start stop)
      (idle usage rollups)
    rcases rollupPeriod_ends ends with ⟨fit, _⟩ | ⟨_, ⟨e, raised⟩, _⟩
    · exact fit
    · obtain ⟨n, ok⟩ := (rolled r after ends).1
      cases raised.symm.trans ok
  · intro fit r after ends
    rcases rollupPeriod_ends ends with ⟨_, ok, rows⟩ | ⟨⟨group, mem, unfit⟩, _⟩
    · refine ⟨ok, fun tenantId used => rows _ ?_⟩
      exact mem_aggregates.mpr ⟨List.exists_mem_of_ne_nil _ used, rfl⟩
    · rw [fit group mem] at unfit
      cases unfit

end Success

section TwoLargeAnswers

/-- An answer with as many prompt tokens as a row can count. -/
def largeUse : StoredUsage :=
  ⟨usageRecord (helloChat false none) "ollama" "llama3" (2 ^ 31 - 1) 0 false 0, 0⟩

def smallUse : StoredUsage :=
  ⟨{ usageRecord (helloChat false none) "ollama" "llama3" 8 1 false 0 with tenantId := smallTenantId }, 0⟩

def largeUsage : List StoredUsage := [largeUse, largeUse, smallUse]

/-- Two answers of one tenant that each fit their row: the job fails, and the other tenant's row,
which fits, is not written. -/
theorem rollup_fails_two_large :
    (∀ u ∈ largeUsage, fits u.record = true) ∧
      recordsOf largeUsage smallTenantId 0 hour = [smallUse] ∧ VolumeFits [smallUse] ∧
      ¬ RolledUp .hourly 0 hour largeUsage [] ∧
      ∃ e after, postgres.Ends () (rollupPeriod .hourly 0 hour) (idle largeUsage []) (.error e) after ∧
        after.rollups = [] := by
  have used : recordsOf largeUsage helloTenantId 0 hour = [largeUse, largeUse] := by rfl
  have unfit : (rollupRow .hourly 0
      (helloTenantId, totalsOf (recordsOf largeUsage helloTenantId 0 hour))).fits = false := by
    rw [Bool.eq_false_iff, Ne, rollupRow_fits, used]
    intro volume
    exact absurd volume.promptTokens (by decide)
  have group : (helloTenantId, totalsOf (recordsOf largeUsage helloTenantId 0 hour)) ∈
      aggregates largeUsage 0 hour := by
    refine mem_aggregates.mpr ⟨⟨largeUse, ?_⟩, rfl⟩
    rw [used]
    exact .head _
  obtain ⟨r, after, ends⟩ := World.exists_ends postgres_total (rollupPeriod .hourly 0 hour)
    (idle largeUsage [])
  rcases rollupPeriod_ends ends with ⟨fit, _⟩ | ⟨_, ⟨e, rfl⟩, kept⟩
  · rw [fit _ group] at unfit
    cases unfit
  refine ⟨?_, by rfl, ⟨by decide, by decide, by decide, by decide, ?_⟩, ?_, e, after, ends, kept⟩
  · decide +kernel
  · decide +kernel
  · intro rolled
    obtain ⟨n, ok⟩ := (rolled _ after ends).1
    cases ok

end TwoLargeAnswers
end AegisGateway.RollupOverflow
