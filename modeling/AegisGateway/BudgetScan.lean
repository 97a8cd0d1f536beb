import AegisGateway.EffectProgram
import AegisGateway.Schemas
import AegisGateway.SignificantDigits
import Mathlib.Tactic.NormNum

set_option autoImplicit false

/-!
# The budget threshold scan

`budget_threshold_scan` of `workers/tasks.py`, over a database whose usage rows
are guarded by row-level security and over the alert markers in Redis. The
audit writer commits inside the loop, and a commit ends the transaction that
the scan's security context belongs to.
-/
namespace AegisGateway.BudgetScan
open EffectProgram SignificantDigits

structure UtcDateTime where
  year : ℕ
  month : ℕ
  day : ℕ
  hour : ℕ
  minute : ℕ
  second : ℕ
  microsecond : ℕ
  deriving DecidableEq, Repr

def UtcDateTime.fields (t : UtcDateTime) : List ℕ :=
  [t.year, t.month, t.day, t.hour, t.minute, t.second, t.microsecond]

def UtcDateTime.notBefore (t since : UtcDateTime) : Bool := since.fields ≤ t.fields

/-- `strftime("%Y-%m")`. -/
def UtcDateTime.monthKey (t : UtcDateTime) : String :=
  toString t.year ++ "-" ++ zeroPadded 2 t.month

/-- `replace(day=1, hour=0, minute=0, second=0, microsecond=0)`. -/
def UtcDateTime.monthStart (t : UtcDateTime) : UtcDateTime := ⟨t.year, t.month, 1, 0, 0, 0, 0⟩

structure TenantRow where
  id : Uuid
  isActive : Bool
  monthlyBudgetUsd : Numeric102

/-- A row of `usage_records`, its cost in millionths of a dollar. -/
structure UsageRow where
  tenantId : Uuid
  costMicros : ℤ
  createdAt : UtcDateTime

/-- The two settings that the row-level-security policies read. -/
structure RlsContext where
  tenantId : String
  bypass : String
  deriving DecidableEq, Repr

/-- `set_config(..., true)` lasts until the transaction ends. -/
def RlsContext.none : RlsContext := ⟨"", ""⟩

def RlsContext.shows (context : RlsContext) (row : UsageRow) : Bool :=
  context.bypass = "on" || row.tenantId.text = context.tenantId

/-- The tenants stand in the order in which the query returns them. -/
structure Database where
  tenants : List TenantRow
  distinctIds : (tenants.map TenantRow.id).Nodup
  usage : List UsageRow

structure ScanWorld where
  database : Database
  audit : List (AuditLog × UtcDateTime)
  markers : List String
  context : RlsContext
  now : UtcDateTime

inductive ScanOp where
  | datetimeNow
  | setRlsContext (tenantId : Option Uuid) (bypass : Bool)
  | selectActiveTenants
  | selectSpend (tenantId : Uuid) (since : UtcDateTime)
  | setMarkerNx (key : String)
  | commitAuditLog (row : AuditLog)

abbrev ScanRet : ScanOp → Type
  | .datetimeNow => UtcDateTime
  | .selectActiveTenants => List TenantRow
  | .selectSpend _ _ => Decimal
  | .setMarkerNx _ => Bool
  | .setRlsContext _ _ | .commitAuditLog _ => Unit

abbrev ScanProg := Prog ScanOp ScanRet Exn

abbrev call (op : ScanOp) : ScanProg (ScanRet op) := Prog.perform op

def scanSession : Session AuditLog ScanProg where
  setRlsContext tenantId bypass := call (.setRlsContext tenantId bypass)
  commitRow row := call (.commitAuditLog row)

inductive Threshold where
  | eighty
  | full
  deriving DecidableEq, Repr

def Threshold.value : Threshold → ℚ
  | .eighty => 4 / 5
  | .full => 1

def Threshold.str : Threshold → String
  | .eighty => "0.8"
  | .full => "1.0"

/-- The nearest double. -/
def toFloat (x : ℚ) : ℚ := roundSig 2 53 x

/-- `Decimal.__truediv__` in the default context. -/
def decimalDivide (x y : ℚ) : ℚ := roundSig 10 28 (x / y)

def budgetAlertThresholds : List Threshold := [.eighty, .full]

def markerKey (tenantId : Uuid) (monthKey : String) (threshold : Threshold) : String :=
  "budget_alert:" ++ tenantId.text ++ ":" ++ monthKey ++ ":" ++ threshold.str

def alertDetail (tenant : TenantRow) (spend : Decimal) (threshold : Threshold) : JsonObject :=
  [("threshold", .float threshold.str), ("spend_usd", .str spend.str),
    ("budget_usd", .str tenant.monthlyBudgetUsd.str)]

def alertThresholds (tenant : TenantRow) (monthKey : String) (spend : Decimal) (ratio : ℚ) :
    List Threshold → ScanProg Unit
  | [] => pure ()
  | threshold :: rest =>
    if ratio < toFloat threshold.value then alertThresholds tenant monthKey spend ratio rest
    else do
      let firstTime ← call (.setMarkerNx (markerKey tenant.id monthKey threshold))
      if firstTime then
        writeAuditEvent scanSession (some tenant.id) "budget.threshold_reached" none
          (alertDetail tenant spend threshold)
      alertThresholds tenant monthKey spend ratio rest

/-- The loop over the tenants, with the count that is logged at the end. -/
def scanTenants (monthKey : String) (monthStart : UtcDateTime) : List TenantRow → ℕ → ScanProg ℕ
  | [], checked => pure checked
  | tenant :: rest, checked =>
    if tenant.monthlyBudgetUsd.value ≤ 0 then scanTenants monthKey monthStart rest (checked + 1)
    else do
      let spend ← call (.selectSpend tenant.id monthStart)
      let ratio := toFloat (decimalDivide spend.value tenant.monthlyBudgetUsd.value)
      alertThresholds tenant monthKey spend ratio budgetAlertThresholds
      scanTenants monthKey monthStart rest (checked + 1)

def budgetThresholdScan : ScanProg ℕ := do
  let now ← call .datetimeNow
  scanSession.setRlsContext none true
  let tenants ← call .selectActiveTenants
  scanTenants now.monthKey now.monthStart tenants 0

/-- The rows of the tenant since then, as the context shows them, summed up. -/
def spendSince (rows : List UsageRow) (tenantId : Uuid) (since : UtcDateTime) : Decimal :=
  match rows.filter (fun row => row.tenantId = tenantId && row.createdAt.notBefore since) with
  | [] => ⟨0, 0⟩
  | matching => ⟨(matching.map UsageRow.costMicros).sum, 6⟩

def Database.activeTenants (database : Database) : List TenantRow :=
  database.tenants.filter TenantRow.isActive

/-- Every step succeeds. -/
def exec (w : ScanWorld) : (op : ScanOp) → Except Exn (ScanRet op) × ScanWorld
  | .datetimeNow => (.ok w.now, w)
  | .setRlsContext tenantId bypass =>
    (.ok (), { w with context := ⟨match tenantId with
      | none => ""
      | some id => id.text, if bypass then "on" else "off"⟩ })
  | .selectActiveTenants => (.ok w.database.activeTenants, w)
  | .selectSpend tenantId since =>
    (.ok (spendSince (w.database.usage.filter w.context.shows) tenantId since), w)
  | .setMarkerNx key =>
    if key ∈ w.markers then (.ok false, w)
    else (.ok true, { w with markers := w.markers ++ [key] })
  | .commitAuditLog row =>
    (.ok (), { w with audit := w.audit ++ [(row, w.now)], context := .none })

def ScanWorld.run {α : Type} (w : ScanWorld) (program : ScanProg α) : Except Exn α × ScanWorld :=
  program.runState exec w

theorem ScanWorld.run_bind {α β : Type} (w : ScanWorld) (p : ScanProg α) (f : α → ScanProg β)
    {a : α} {w' : ScanWorld} (h : w.run p = (.ok a, w')) : w.run (p >>= f) = w'.run (f a) := by
  have split_run := Prog.runState_andThen exec p (Prog.onValue f) w
  change w.run (p.andThen _) = (Prog.onValue f (w.run p).1).runState exec (w.run p).2 at split_run
  rw [Prog.bind_def, split_run, h]
  rfl

/-- The spend the scan would read with a context that shows every row. -/
def monthToDate (w : ScanWorld) (tenant : TenantRow) : Decimal :=
  spendSince w.database.usage tenant.id w.now.monthStart

def reaches (tenant : TenantRow) (spend : Decimal) (threshold : Threshold) : Bool :=
  !(toFloat (decimalDivide spend.value tenant.monthlyBudgetUsd.value) < toFloat threshold.value)

/-- The thresholds that are alerted for the tenant when the scan reads this spend. -/
def alerts (w : ScanWorld) (tenant : TenantRow) (spend : Decimal) (thresholds : List Threshold) :
    List Threshold :=
  thresholds.filter fun threshold => reaches tenant spend threshold &&
    markerKey tenant.id w.now.monthKey threshold ∉ w.markers

def alertRow (w : ScanWorld) (tenant : TenantRow) (spend : Decimal) (threshold : Threshold) :
    AuditLog × UtcDateTime :=
  (⟨some tenant.id, "budget.threshold_reached", none, alertDetail tenant spend threshold⟩, w.now)

/-- The world after these alerts. The first of them ends the scan's transaction. -/
def alerted (w : ScanWorld) (tenant : TenantRow) (spend : Decimal) (thresholds : List Threshold) :
    ScanWorld :=
  { w with
    audit := w.audit ++ thresholds.map (alertRow w tenant spend)
    markers := w.markers ++ thresholds.map (markerKey tenant.id w.now.monthKey)
    context := if thresholds.isEmpty then w.context else .none }

theorem alerted_nil (w : ScanWorld) (tenant : TenantRow) (spend : Decimal) :
    alerted w tenant spend [] = w := by
  simp [alerted]

theorem alerted_cons (w : ScanWorld) (tenant : TenantRow) (spend : Decimal) (threshold : Threshold)
    (rest : List Threshold) :
    alerted (alerted w tenant spend [threshold]) tenant spend rest =
      alerted w tenant spend (threshold :: rest) := by
  simp [alerted, alertRow]

theorem markerKey_inj {tenantId : Uuid} {monthKey : String} {a b : Threshold}
    (h : markerKey tenantId monthKey a = markerKey tenantId monthKey b) : a = b := by
  delta markerKey at h
  have str_eq : a.str = b.str := by simpa using h
  cases a <;> cases b <;> first | rfl | exact absurd str_eq (by decide)

theorem alerts_cons (w : ScanWorld) (tenant : TenantRow) (spend : Decimal) (threshold : Threshold)
    (rest : List Threshold) :
    alerts w tenant spend (threshold :: rest) =
      if reaches tenant spend threshold = true ∧ markerKey tenant.id w.now.monthKey threshold ∉ w.markers
      then threshold :: alerts w tenant spend rest else alerts w tenant spend rest := by
  simp [alerts, List.filter_cons]

/-- An alert does not use up the marker of another threshold. -/
theorem alerts_alerted (w : ScanWorld) (tenant : TenantRow) (spend : Decimal) (threshold : Threshold)
    (rest : List Threshold) (fresh : threshold ∉ rest) :
    alerts (alerted w tenant spend [threshold]) tenant spend rest = alerts w tenant spend rest := by
  apply List.filter_congr
  intro other mem
  have apart : markerKey tenant.id w.now.monthKey other ≠
      markerKey tenant.id w.now.monthKey threshold := by
    intro same
    exact fresh (markerKey_inj same ▸ mem)
  simp [alerted, apart]

theorem alertThresholds_run (tenant : TenantRow) (spend : Decimal) (thresholds : List Threshold)
    (distinct : thresholds.Nodup) (w : ScanWorld) :
    w.run (alertThresholds tenant w.now.monthKey spend
        (toFloat (decimalDivide spend.value tenant.monthlyBudgetUsd.value)) thresholds) =
      (.ok (), alerted w tenant spend (alerts w tenant spend thresholds)) := by
  induction thresholds generalizing w with
  | nil =>
    change (_, w) = (_, _)
    rw [alerts, List.filter_nil, alerted_nil]
  | cons threshold rest ih =>
    obtain ⟨fresh, distinct⟩ := List.nodup_cons.mp distinct
    rw [alertThresholds]
    by_cases below : toFloat (decimalDivide spend.value tenant.monthlyBudgetUsd.value) <
        toFloat threshold.value
    · have short : ¬ reaches tenant spend threshold = true := by simpa [reaches] using below
      rw [if_pos below, alerts_cons, if_neg (fun h => short h.1)]
      exact ih distinct w
    · have reached : reaches tenant spend threshold = true := by simpa [reaches] using below
      rw [if_neg below]
      by_cases marked : markerKey tenant.id w.now.monthKey threshold ∈ w.markers
      · have nx : w.run (call (.setMarkerNx (markerKey tenant.id w.now.monthKey threshold))) =
            (.ok false, w) := if_pos marked
        rw [alerts_cons, if_neg (fun h => h.2 marked), ScanWorld.run_bind w _ _ nx]
        exact ih distinct w
      · have nx : w.run (call (.setMarkerNx (markerKey tenant.id w.now.monthKey threshold))) =
            (.ok true, { w with
              markers := w.markers ++ [markerKey tenant.id w.now.monthKey threshold] }) :=
          if_neg marked
        rw [alerts_cons, if_pos ⟨reached, marked⟩, ← alerted_cons,
          ← alerts_alerted w tenant spend threshold rest fresh, ScanWorld.run_bind w _ _ nx]
        exact ih distinct (alerted w tenant spend [threshold])

theorem shows_none (row : UsageRow) : RlsContext.none.shows row = false := by
  have named : row.tenantId.text ≠ "" := by
    intro empty
    have length := row.tenantId.length
    rw [empty] at length
    cases length
  simp [RlsContext.shows, RlsContext.none, named]

theorem shows_bypass (tenantId : String) (row : UsageRow) :
    RlsContext.shows ⟨tenantId, "on"⟩ row = true := by
  simp [RlsContext.shows]

theorem toFloat_threshold (threshold : Threshold) : 0 < toFloat threshold.value := by
  cases threshold <;> decide +kernel

theorem reaches_zero (tenant : TenantRow) (threshold : Threshold) :
    reaches tenant ⟨0, 0⟩ threshold = false := by
  have zero : toFloat (decimalDivide (Decimal.value ⟨0, 0⟩) tenant.monthlyBudgetUsd.value) = 0 := by
    simp [Decimal.value, decimalDivide, toFloat]
  simp [reaches, zero, toFloat_threshold]

theorem selectSpend_run (w : ScanWorld) (tenantId : Uuid) (since : UtcDateTime) :
    w.run (call (.selectSpend tenantId since)) =
      (.ok (spendSince (w.database.usage.filter w.context.shows) tenantId since), w) := rfl

theorem scanTenants_lost (w : ScanWorld) (lost : w.context = .none) (tenants : List TenantRow)
    (checked : ℕ) :
    w.run (scanTenants w.now.monthKey w.now.monthStart tenants checked) =
      (.ok (checked + tenants.length), w) := by
  induction tenants generalizing checked with
  | nil => rfl
  | cons tenant rest ih =>
    have count : checked + (tenant :: rest).length = checked + 1 + rest.length := by
      rw [List.length_cons]
      omega
    rw [scanTenants, count]
    split
    · exact ih (checked + 1)
    · have unseen : spendSince (w.database.usage.filter w.context.shows) tenant.id
          w.now.monthStart = ⟨0, 0⟩ := by
        simp [lost, shows_none, spendSince]
      have spend := selectSpend_run w tenant.id w.now.monthStart
      rw [unseen] at spend
      have quiet : alerts w tenant ⟨0, 0⟩ budgetAlertThresholds = [] := by
        simp [alerts, reaches_zero]
      have alerting := alertThresholds_run tenant ⟨0, 0⟩ budgetAlertThresholds (by decide) w
      rw [quiet, alerted_nil] at alerting
      rw [ScanWorld.run_bind w _ _ spend, ScanWorld.run_bind w _ _ alerting]
      exact ih (checked + 1)

/-- What the scan does: it alerts the first tenant that has something to alert, and
then sees no more usage. -/
def scanned (w : ScanWorld) : List TenantRow → ScanWorld
  | [] => w
  | tenant :: rest =>
    if tenant.monthlyBudgetUsd.value ≤ 0 then scanned w rest
    else if (alerts w tenant (monthToDate w tenant) budgetAlertThresholds).isEmpty then
      scanned w rest
    else alerted w tenant (monthToDate w tenant)
      (alerts w tenant (monthToDate w tenant) budgetAlertThresholds)

theorem scanTenants_run (w : ScanWorld) (tenantId : String) (bypass : w.context = ⟨tenantId, "on"⟩)
    (tenants : List TenantRow) (checked : ℕ) :
    w.run (scanTenants w.now.monthKey w.now.monthStart tenants checked) =
      (.ok (checked + tenants.length), scanned w tenants) := by
  induction tenants generalizing checked with
  | nil => rfl
  | cons tenant rest ih =>
    have count : checked + (tenant :: rest).length = checked + 1 + rest.length := by
      rw [List.length_cons]
      omega
    rw [scanTenants, scanned, count]
    split
    · exact ih (checked + 1)
    · have seen : spendSince (w.database.usage.filter w.context.shows) tenant.id
          w.now.monthStart = monthToDate w tenant := by
        have all_seen : w.database.usage.filter w.context.shows = w.database.usage := by
          rw [bypass]
          exact List.filter_eq_self.mpr fun row _ => shows_bypass tenantId row
        rw [all_seen, monthToDate]
      have spend := selectSpend_run w tenant.id w.now.monthStart
      rw [seen] at spend
      have alerting := alertThresholds_run tenant (monthToDate w tenant) budgetAlertThresholds
        (by decide) w
      rw [ScanWorld.run_bind w _ _ spend, ScanWorld.run_bind w _ _ alerting]
      split
      · rename_i none_left
        rw [List.isEmpty_iff.mp none_left, alerted_nil]
        exact ih (checked + 1)
      · rename_i some_left
        have lost : (alerted w tenant (monthToDate w tenant)
            (alerts w tenant (monthToDate w tenant) budgetAlertThresholds)).context = .none :=
          if_neg some_left
        exact scanTenants_lost _ lost rest (checked + 1)

/-- One scan, from outside any transaction. -/
def ScanWorld.afterScan (w : ScanWorld) : ScanWorld := (w.run budgetThresholdScan).2

theorem afterScan_eq (w : ScanWorld) :
    w.afterScan = scanned { w with context := ⟨"", "on"⟩ } w.database.activeTenants := by
  have scan : w.run budgetThresholdScan =
      ScanWorld.run { w with context := ⟨"", "on"⟩ }
        (scanTenants w.now.monthKey w.now.monthStart w.database.activeTenants 0) := rfl
  rw [ScanWorld.afterScan, scan]
  exact congrArg Prod.snd
    (scanTenants_run { w with context := ⟨"", "on"⟩ } "" rfl w.database.activeTenants 0)

theorem monthToDate_grid (w : ScanWorld) (tenant : TenantRow) :
    ∃ n : ℤ, (monthToDate w tenant).value = n / 10 ^ 6 := by
  rw [monthToDate, spendSince]
  split
  · exact ⟨0, by simp [Decimal.value]⟩
  · exact ⟨_, rfl⟩

theorem rounded_below {x : ℚ} {threshold : Threshold} (nonneg : 0 ≤ x)
    (apart : x ≤ threshold.value - 1 / 10 ^ 14) :
    toFloat (roundSig 10 28 x) < toFloat threshold.value := by
  have below_one : x ≤ 1 - 1 / 10 ^ 14 := by
    cases threshold <;> norm_num [Threshold.value] at apart ⊢ <;> linarith
  have first_error := abs_le.mp (roundSig_error_below_one (b := 10) (p := 28) (by norm_num) nonneg
    (by linarith [show (0 : ℚ) < 1 / 10 ^ 14 by norm_num]))
  have divided_nonneg : 0 ≤ roundSig 10 28 x := roundSig_nonneg (by norm_num) (by norm_num) nonneg
  have divided_below : roundSig 10 28 x < 1 := by
    norm_num at first_error below_one ⊢
    linarith [first_error.2]
  have second_error := abs_le.mp (roundSig_error_below_one (b := 2) (p := 53) (by norm_num)
    divided_nonneg divided_below)
  have threshold_float : threshold.value - 1 / 10 ^ 16 ≤ toFloat threshold.value := by
    cases threshold <;> decide +kernel
  simp only [toFloat] at threshold_float ⊢
  norm_num at first_error second_error apart threshold_float ⊢
  linarith [first_error.2, second_error.2]

theorem threshold_grid (threshold : Threshold) (budget : Numeric102) :
    ∃ k : ℤ, threshold.value * budget.value = k / 10 ^ 6 := by
  cases threshold with
  | eighty =>
    refine ⟨8000 * budget.cents, ?_⟩
    rw [Threshold.value, Numeric102.value]
    push_cast
    ring
  | full =>
    refine ⟨10000 * budget.cents, ?_⟩
    rw [Threshold.value, Numeric102.value]
    push_cast
    ring

theorem budget_lt (budget : Numeric102) : budget.value < 10 ^ 8 := by
  have fits : (budget.cents : ℚ) < 10 ^ 10 := by exact_mod_cast (abs_lt.mp budget.fits).2
  rw [Numeric102.value]
  linarith

theorem reaches_iff (tenant : TenantRow) (spend : Decimal) (threshold : Threshold)
    (grid : ∃ n : ℤ, spend.value = n / 10 ^ 6) (positive : 0 < tenant.monthlyBudgetUsd.value) :
    reaches tenant spend threshold = true ↔
      threshold.value * tenant.monthlyBudgetUsd.value ≤ spend.value := by
  obtain ⟨n, spent⟩ := grid
  obtain ⟨k, share⟩ := threshold_grid threshold tenant.monthlyBudgetUsd
  have below_max := budget_lt tenant.monthlyBudgetUsd
  rw [reaches, Bool.not_eq_true', decide_eq_false_iff_not, not_lt]
  constructor
  · contrapose!
    intro short
    rw [decimalDivide]
    rcases lt_or_ge spend.value 0 with negative | nonneg
    · have ratio_neg : spend.value / tenant.monthlyBudgetUsd.value ≤ 0 :=
        (div_neg_of_neg_of_pos negative positive).le
      have divided := roundSig_nonpos (b := 10) (p := 28) (by norm_num) ratio_neg
      exact (roundSig_nonpos (by norm_num) divided).trans_lt (toFloat_threshold threshold)
    · apply rounded_below (div_nonneg nonneg positive.le)
      have step : n ≤ k - 1 := by
        rw [spent, share] at short
        have lt : (n : ℚ) < k := by linarith
        have lt' : n < k := by exact_mod_cast lt
        omega
      have gap : spend.value ≤ threshold.value * tenant.monthlyBudgetUsd.value - 1 / 10 ^ 6 := by
        have step' : (n : ℚ) ≤ k - 1 := by exact_mod_cast step
        rw [spent, share]
        linarith
      rw [div_le_iff₀ positive]
      nlinarith
  · intro reached
    have exact_ratio : threshold.value ≤ spend.value / tenant.monthlyBudgetUsd.value :=
      (le_div_iff₀ positive).mpr reached
    have threshold_pos : 0 ≤ threshold.value := by cases threshold <;> norm_num [Threshold.value]
    have fixed : roundSig 10 28 threshold.value = threshold.value := by
      cases threshold <;> decide +kernel
    have divided := roundSig_mono (b := 10) (p := 28) (by norm_num) (by norm_num) threshold_pos
      exact_ratio
    rw [fixed] at divided
    exact roundSig_mono (by norm_num) (by norm_num) threshold_pos divided

/-- The tenant has reached the threshold this month. -/
def Due (w : ScanWorld) (tenant : TenantRow) (threshold : Threshold) : Prop :=
  tenant ∈ w.database.activeTenants ∧ 0 < tenant.monthlyBudgetUsd.value ∧
    threshold.value * tenant.monthlyBudgetUsd.value ≤ (monthToDate w tenant).value

def HasAlert (w : ScanWorld) (tenant : TenantRow) (threshold : Threshold) : Prop :=
  ∃ row ∈ w.audit, row.1.tenantId = some tenant.id ∧ row.1.eventType = "budget.threshold_reached" ∧
    Json.get row.1.detail "threshold" = .float threshold.str ∧
    row.2.year = w.now.year ∧ row.2.month = w.now.month

def Unmarked (w : ScanWorld) (tenant : TenantRow) (threshold : Threshold) : Prop :=
  markerKey tenant.id w.now.monthKey threshold ∉ w.markers

/-- The threshold is reached and its alert has not been claimed yet. -/
def pending (w : ScanWorld) (tenant : TenantRow) (threshold : Threshold) : Bool :=
  0 < tenant.monthlyBudgetUsd.value &&
  threshold.value * tenant.monthlyBudgetUsd.value ≤ (monthToDate w tenant).value &&
  markerKey tenant.id w.now.monthKey threshold ∉ w.markers

/-- The first tenant, in the query's order, with a pending threshold. -/
def firstPending (w : ScanWorld) (tenants : List TenantRow) : Option TenantRow :=
  tenants.find? fun tenant => budgetAlertThresholds.any (pending w tenant)

theorem pending_iff (w : ScanWorld) (tenant : TenantRow) (threshold : Threshold)
    (active : tenant ∈ w.database.activeTenants) :
    pending w tenant threshold = true ↔ Due w tenant threshold ∧ Unmarked w tenant threshold := by
  simp [pending, Due, Unmarked, active, and_assoc]

theorem alerts_eq_pending (w : ScanWorld) (tenant : TenantRow)
    (positive : 0 < tenant.monthlyBudgetUsd.value) :
    alerts w tenant (monthToDate w tenant) budgetAlertThresholds =
      budgetAlertThresholds.filter (pending w tenant) := by
  apply List.filter_congr
  intro threshold _
  rw [Bool.eq_iff_iff]
  simp [pending, positive, reaches_iff tenant _ threshold (monthToDate_grid w tenant) positive]

theorem scanned_eq (w : ScanWorld) (tenants : List TenantRow) :
    scanned w tenants = match firstPending w tenants with
      | none => w
      | some tenant => alerted w tenant (monthToDate w tenant)
          (budgetAlertThresholds.filter (pending w tenant)) := by
  induction tenants with
  | nil => rfl
  | cons tenant rest ih =>
    rw [scanned, firstPending, List.find?_cons]
    by_cases positive : 0 < tenant.monthlyBudgetUsd.value
    · rw [if_neg (not_le.mpr positive), alerts_eq_pending w tenant positive]
      cases found : budgetAlertThresholds.any (pending w tenant) with
      | true =>
        obtain ⟨threshold, mem, due⟩ := List.any_eq_true.mp found
        have some_left : (budgetAlertThresholds.filter (pending w tenant)).isEmpty ≠ true := by
          rw [ne_eq, List.isEmpty_iff, List.filter_eq_nil_iff]
          exact fun none_left => none_left threshold mem due
        rw [if_neg some_left]
      | false =>
        have none_left : (budgetAlertThresholds.filter (pending w tenant)).isEmpty = true := by
          rw [List.isEmpty_iff, List.filter_eq_nil_iff]
          exact fun threshold mem due =>
            Bool.false_ne_true (found.symm.trans (List.any_eq_true.mpr ⟨threshold, mem, due⟩))
        rw [if_pos none_left]
        exact ih
    · have quiet : budgetAlertThresholds.any (pending w tenant) = false := by
        simp [pending, positive]
      rw [if_pos (not_lt.mp positive), quiet]
      exact ih

theorem mem_thresholds (threshold : Threshold) : threshold ∈ budgetAlertThresholds := by
  cases threshold <;> decide

theorem str_inj {a b : Threshold} (h : Json.float a.str = Json.float b.str) : a = b := by
  have str_eq : a.str = b.str := by injection h
  cases a <;> cases b <;> first | rfl | exact absurd str_eq (by decide)

theorem active_ext {database : Database} {a b : TenantRow} (ha : a ∈ database.activeTenants)
    (hb : b ∈ database.activeTenants) (same : a.id = b.id) : a = b :=
  List.inj_on_of_nodup_map database.distinctIds (List.mem_of_mem_filter ha)
    (List.mem_of_mem_filter hb) same

theorem hasAlert_alerted (w : ScanWorld) (alertedTenant tenant : TenantRow) (spend : Decimal)
    (thresholds : List Threshold) (threshold : Threshold) :
    HasAlert (alerted w alertedTenant spend thresholds) tenant threshold ↔
      HasAlert w tenant threshold ∨ alertedTenant.id = tenant.id ∧ threshold ∈ thresholds := by
  constructor
  · rintro ⟨row, mem, tenantId, event, detail, month⟩
    rcases List.mem_append.mp mem with mem | mem
    · exact .inl ⟨row, mem, tenantId, event, detail, month⟩
    · obtain ⟨other, among, rfl⟩ := List.mem_map.mp mem
      refine .inr ⟨Option.some.inj tenantId, ?_⟩
      rw [← str_inj detail]
      exact among
  · rintro (⟨row, mem, found⟩ | ⟨same, mem⟩)
    · exact ⟨row, List.mem_append_left _ mem, found⟩
    · refine ⟨alertRow w alertedTenant spend threshold,
        List.mem_append_right _ (List.mem_map.mpr ⟨threshold, mem, rfl⟩), ?_, rfl, rfl, rfl, rfl⟩
      exact congrArg some same

theorem hasAlert_afterScan (w : ScanWorld) (tenant : TenantRow) (threshold : Threshold)
    (active : tenant ∈ w.database.activeTenants) :
    HasAlert w.afterScan tenant threshold ↔ HasAlert w tenant threshold ∨
      (pending w tenant threshold = true ∧
        firstPending w w.database.activeTenants = some tenant) := by
  rw [afterScan_eq, scanned_eq]
  change HasAlert (match firstPending w w.database.activeTenants with
    | none => _
    | some first => alerted _ first (monthToDate w first)
        (budgetAlertThresholds.filter (pending w first))) tenant threshold ↔ _
  cases found : firstPending w w.database.activeTenants with
  | none =>
    change HasAlert w tenant threshold ↔ _
    simp
  | some first =>
    have first_active : first ∈ w.database.activeTenants := List.mem_of_find?_eq_some found
    refine (hasAlert_alerted _ first tenant _ _ threshold).trans (or_congr Iff.rfl ?_)
    rw [List.mem_filter, Option.some.injEq]
    constructor
    · rintro ⟨same, _, due⟩
      have eq := active_ext first_active active same
      rw [eq] at due
      exact ⟨due, eq⟩
    · rintro ⟨due, rfl⟩
      exact ⟨rfl, mem_thresholds threshold, due⟩

theorem scan_misses_nobody_iff (w : ScanWorld) :
    (∀ tenant threshold, Due w tenant threshold → HasAlert w.afterScan tenant threshold) ↔
    ∀ tenant threshold, Due w tenant threshold →
      HasAlert w tenant threshold ∨
        (Unmarked w tenant threshold ∧ firstPending w w.database.activeTenants = some tenant) := by
  refine forall_congr' fun tenant => forall_congr' fun threshold => imp_congr_right fun due => ?_
  rw [hasAlert_afterScan w tenant threshold due.1, pending_iff w tenant threshold due.1]
  simp only [due, true_and]

def tenantWithBudget (id : Uuid) : TenantRow := ⟨id, true, hundredDollars⟩

def secondId : Uuid := ⟨"00000000-0000-4000-8000-000000000002", by decide⟩

def noon : UtcDateTime := ⟨2025, 6, 15, 12, 0, 0, 0⟩

/-- Two tenants with a budget of 100 dollars have spent 90 dollars each, and nobody
has been alerted. -/
def twoTenantsOver : ScanWorld where
  database :=
    { tenants := [tenantWithBudget helloTenantId, tenantWithBudget secondId]
      distinctIds := by decide
      usage := [⟨helloTenantId, 90000000, noon⟩, ⟨secondId, 90000000, noon⟩] }
  audit := []
  markers := []
  context := .none
  now := noon

theorem scan_misses_second_tenant :
    ¬ ∀ tenant threshold, Due twoTenantsOver tenant threshold →
      HasAlert twoTenantsOver.afterScan tenant threshold := by
  intro misses_nobody
  have active : tenantWithBudget secondId ∈ twoTenantsOver.database.activeTenants :=
    .tail _ (.head _)
  have due : Due twoTenantsOver (tenantWithBudget secondId) .eighty :=
    ⟨active, by decide +kernel, by decide +kernel⟩
  have first : firstPending twoTenantsOver twoTenantsOver.database.activeTenants =
      some (tenantWithBudget helloTenantId) := List.find?_cons_of_pos (by decide +kernel)
  rcases (hasAlert_afterScan _ _ _ active).mp (misses_nobody _ _ due) with ⟨_, mem, _⟩ | ⟨_, second⟩
  · cases mem
  · rw [first] at second
    have ids : helloTenantId = secondId := congrArg TenantRow.id (Option.some.inj second)
    exact absurd ids (by decide)

end AegisGateway.BudgetScan
