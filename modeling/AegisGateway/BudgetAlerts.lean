import AegisGateway.TenantIsolation

set_option autoImplicit false

/-!
# Budget alerts over many scans

Any number of `budget_threshold_scan` runs over one Redis and one database, side by side or
one after the other, with any tenants and any spend read at any time. A call may fail
before or after it took effect, and a worker that crashes is one whose next call fails. The
marker of an alert is set in Redis before its row is committed to the audit log.
-/
namespace AegisGateway.BudgetAlerts
open EffectProgram TransitionRuns ProgramPool BudgetScan
open TenantIsolation (RedisKey text_parts)

section Worlds
variable {ι : Type}

/-- The markers, which outlive their month; the alerts, each with the month that its scan
was for; and the month that each scan is for. -/
structure ScanShared (ι : Type) where
  markers : List String
  audit : List (String × AuditLog)
  months : ι → String

variable [DecidableEq ι]

/-- A call that is carried out. The cost column has six decimals, and so has a sum of it. -/
def ScanShared.serves (s : ScanShared ι) (i : ι) : (op : ScanOp) → ScanRet op → ScanShared ι → Prop
  | .datetimeNow, now, s' => s' = { s with months := Function.update s.months i now.monthKey }
  | .setRlsContext _ _, _, s' => s' = s
  | .selectActiveTenants, _, s' => s' = s
  | .selectSpend _ _, spend, s' => (∃ n : ℤ, spend.value = n / 10 ^ 6) ∧ s' = s
  | .setMarkerNx key, firstTime, s' =>
    if key ∈ s.markers then firstTime = false ∧ s' = s
    else firstTime = true ∧ s' = { s with markers := s.markers ++ [key] }
  | .commitAuditLog row, _, s' => s' = { s with audit := s.audit ++ [(s.months i, row)] }

def scanWorld (ι : Type) [DecidableEq ι] : World ScanOp ScanRet Exn ι (ScanShared ι) Empty where
  answer s i op o s' := match o with
    | .ok a => s.serves i op a s'
    | .error _ => s' = s ∨ ∃ a, s.serves i op a s'
  passes _ k _ := k.elim

abbrev ScanPool (ι : Type) := Pool ScanOp ScanRet Exn ℕ ι (ScanShared ι)
abbrev ScanLabel (ι : Type) := Label ScanOp ScanRet Exn ι Empty

def scanPool (ι : Type) : ScanPool ι :=
  Pool.start ⟨[], [], fun _ => ""⟩ fun _ => budgetThresholdScan

end Worlds

section Alerts

def alertEvent : String := "budget.threshold_reached"

def isAlert (tenantId : Uuid) (month : String) (threshold : Threshold) (entry : String × AuditLog) :
    Bool :=
  entry.1 = month && entry.2.tenantId = some tenantId && entry.2.eventType = alertEvent &&
    match Json.get entry.2.detail "threshold" with
    | .float text => text = threshold.str
    | _ => false

/-- The alerts of the tenant for the month and the threshold. -/
def alertCount (tenantId : Uuid) (month : String) (threshold : Threshold)
    (audit : List (String × AuditLog)) : ℕ :=
  audit.countP (isAlert tenantId month threshold)

def alertOf (tenant : TenantRow) (spend : Decimal) (threshold : Threshold) : AuditLog :=
  ⟨some tenant.id, alertEvent, none, alertDetail tenant spend threshold⟩

/-- The recorded spend is at least the threshold's share of the recorded budget. -/
def RecordsReached (row : AuditLog) : Prop :=
  ∃ tenant spend threshold, row = alertOf tenant spend threshold ∧
    threshold.value * tenant.monthlyBudgetUsd.value ≤ spend.value

variable {tenantId : Uuid} {month : String} {threshold : Threshold}

theorem isAlert_iff (tenantId : Uuid) (month : String) (threshold : Threshold) (month' : String)
    (tenant : TenantRow) (spend : Decimal) (threshold' : Threshold) :
    isAlert tenantId month threshold (month', alertOf tenant spend threshold') = true ↔
      month' = month ∧ tenant.id = tenantId ∧ threshold' = threshold := by
  have texts : threshold'.str = threshold.str ↔ threshold' = threshold := by
    refine ⟨fun same => str_inj (congrArg Json.float same), ?_⟩
    rintro rfl
    rfl
  have recorded : Json.get (alertDetail tenant spend threshold') "threshold" =
      .float threshold'.str := rfl
  simp only [isAlert, alertOf, recorded, Bool.and_eq_true, decide_eq_true_eq, Option.some.injEq,
    texts, and_true, and_assoc]

theorem alertCount_append (tenantId : Uuid) (month : String) (threshold : Threshold)
    (audit : List (String × AuditLog)) (entry : String × AuditLog) :
    alertCount tenantId month threshold (audit ++ [entry]) =
      alertCount tenantId month threshold audit +
        if isAlert tenantId month threshold entry then 1 else 0 := by
  rw [alertCount, alertCount, List.countP_append, List.countP_singleton]

/-- An entry under another marker does not count. -/
theorem alertCount_other {month' : String} {tenant : TenantRow} {spend : Decimal}
    {threshold' : Threshold} (audit : List (String × AuditLog))
    (apart : markerKey tenantId month threshold ≠ markerKey tenant.id month' threshold') :
    alertCount tenantId month threshold (audit ++ [(month', alertOf tenant spend threshold')]) =
      alertCount tenantId month threshold audit := by
  rw [alertCount_append, if_neg, Nat.add_zero]
  intro isAlert
  obtain ⟨rfl, rfl, rfl⟩ := (isAlert_iff ..).mp isAlert
  exact apart rfl

theorem markerKey_parts {tenantId' : Uuid} {month' : String} {threshold' : Threshold}
    (h : markerKey tenantId month threshold = markerKey tenantId' month' threshold') :
    tenantId = tenantId' ∧ month = month' ∧ threshold = threshold' := by
  obtain ⟨_, tenants, rests⟩ := @text_parts silentLibraries tenantId tenantId'
    (.budgetAlert month threshold) (.budgetAlert month' threshold') h
  have chars : (":" ++ month ++ ":").toList ++ threshold.str.toList =
      (":" ++ month' ++ ":").toList ++ threshold'.str.toList := by
    rw [← String.toList_append, ← String.toList_append]
    exact congrArg String.toList rests
  have sizes : threshold.str.toList.length = threshold'.str.toList.length := by
    cases threshold <;> cases threshold' <;> rfl
  obtain ⟨fronts, texts⟩ := List.append_inj' chars sizes
  have months : month = month' := by
    have front := String.toList_inj.mp fronts
    rw [String.append_left_inj, String.append_right_inj] at front
    exact front
  exact ⟨tenants, months, str_inj (congrArg Json.float (String.toList_inj.mp texts))⟩

end Alerts

section Markers
variable {ι : Type} {markers : List String} {audit : List (String × AuditLog)}
  {armed : ι → Option String}

/-- A scan is armed with a key from the moment it has set the marker until its commit is
answered. No alert has been written under a key that is not set or that a scan is armed with. -/
structure Deduplicated (markers : List String) (audit : List (String × AuditLog))
    (armed : ι → Option String) : Prop where
  unmarked : ∀ tenantId month threshold, markerKey tenantId month threshold ∉ markers →
    alertCount tenantId month threshold audit = 0
  marked : ∀ i key, armed i = some key → key ∈ markers
  unwritten : ∀ i tenantId month threshold, armed i = some (markerKey tenantId month threshold) →
    alertCount tenantId month threshold audit = 0
  alone : ∀ i j key, armed i = some key → armed j = some key → i = j
  once : ∀ tenantId month threshold, alertCount tenantId month threshold audit ≤ 1
  reached : ∀ entry ∈ audit, RecordsReached entry.2

theorem Deduplicated.start : Deduplicated [] [] fun _ : ι => none where
  unmarked _ _ _ _ := rfl
  marked _ _ no := by cases no
  unwritten _ _ _ _ no := by cases no
  alone _ _ _ no := by cases no
  once _ _ _ := Nat.zero_le _
  reached _ mem := by cases mem

variable [DecidableEq ι]

theorem armed_of_disarmed {i j : ι} {key : String}
    (h : Function.update armed i none j = some key) : j ≠ i ∧ armed j = some key := by
  rcases update_cases (Q := (· = some key)) h with ⟨_, no⟩ | other
  · cases no
  · exact other

theorem Deduplicated.disarm (h : Deduplicated markers audit armed) (i : ι) :
    Deduplicated markers audit (Function.update armed i none) where
  unmarked := h.unmarked
  marked j key isArmed := h.marked j key (armed_of_disarmed isArmed).2
  unwritten j _ _ _ isArmed := h.unwritten j _ _ _ (armed_of_disarmed isArmed).2
  alone j k key isArmed isArmed' :=
    h.alone j k key (armed_of_disarmed isArmed).2 (armed_of_disarmed isArmed').2
  once := h.once
  reached := h.reached

theorem Deduplicated.mark (h : Deduplicated markers audit armed) (i : ι) {key : String}
    (fresh : key ∉ markers) :
    Deduplicated (markers ++ [key]) audit (Function.update armed i (some key)) := by
  constructor
  case unmarked =>
    intro tenantId month threshold unset
    exact h.unmarked _ _ _ fun set => unset (List.mem_append_left _ set)
  case marked =>
    intro j other isArmed
    rcases update_cases (Q := (· = some other)) isArmed with ⟨_, same⟩ | ⟨_, isArmed⟩
    · cases same
      exact List.mem_append_right _ (.head _)
    · exact List.mem_append_left _ (h.marked j other isArmed)
  case unwritten =>
    intro j tenantId month threshold isArmed
    rcases update_cases (Q := (· = some (markerKey tenantId month threshold))) isArmed with
      ⟨_, same⟩ | ⟨_, isArmed⟩
    · rw [Option.some.inj same] at fresh
      exact h.unmarked _ _ _ fresh
    · exact h.unwritten j _ _ _ isArmed
  case alone =>
    intro j k other
    refine unique_update (Q := (· = some other)) (fun j k => h.alone j k other) ?_ j k
    intro same j _ isArmed
    cases same
    exact fresh (h.marked j key isArmed)
  case once => exact h.once
  case reached => exact h.reached

theorem Deduplicated.write (h : Deduplicated markers audit armed) {i : ι} {month : String}
    {tenant : TenantRow} {spend : Decimal} {threshold : Threshold}
    (isArmed : armed i = some (markerKey tenant.id month threshold))
    (reached : threshold.value * tenant.monthlyBudgetUsd.value ≤ spend.value) :
    Deduplicated markers (audit ++ [(month, alertOf tenant spend threshold)])
      (Function.update armed i none) := by
  constructor
  case unmarked =>
    intro tenantId month' threshold' unset
    have apart : markerKey tenantId month' threshold' ≠ markerKey tenant.id month threshold := by
      intro same
      rw [same] at unset
      exact unset (h.marked i _ isArmed)
    rw [alertCount_other _ apart]
    exact h.unmarked _ _ _ unset
  case marked => exact fun j key other => h.marked j key (armed_of_disarmed other).2
  case unwritten =>
    intro j tenantId month' threshold' other
    obtain ⟨apart, other⟩ := armed_of_disarmed other
    have keys : markerKey tenantId month' threshold' ≠ markerKey tenant.id month threshold := by
      intro same
      rw [same] at other
      exact apart (h.alone j i _ other isArmed)
    rw [alertCount_other _ keys]
    exact h.unwritten j _ _ _ other
  case alone =>
    exact fun j k key first second =>
      h.alone j k key (armed_of_disarmed first).2 (armed_of_disarmed second).2
  case once =>
    intro tenantId month' threshold'
    by_cases same : markerKey tenantId month' threshold' = markerKey tenant.id month threshold
    · have none := h.unwritten i tenantId month' threshold' (by rw [isArmed, same])
      rw [alertCount_append, none]
      split <;> omega
    · rw [alertCount_other _ same]
      exact h.once _ _ _
  case reached =>
    intro entry mem
    rcases List.mem_append.mp mem with mem | mem
    · exact h.reached entry mem
    · rw [List.mem_singleton.mp mem]
      exact ⟨tenant, spend, threshold, rfl, reached⟩

end Markers

section Scans

/-- Where a scan is: the month it is for, and the key it is armed with. -/
structure ScanView where
  month : String
  armed : Option String
  failed : Bool

def scanMonitor : Monitor ScanOp ScanRet Exn ScanView where
  permits view
    | .datetimeNow | .setMarkerNx _ => view.armed = none
    | .commitAuditLog row => view.failed = false ∧ ∃ tenant spend threshold,
        view.armed = some (markerKey tenant.id view.month threshold) ∧
          row = alertOf tenant spend threshold ∧
          threshold.value * tenant.monthlyBudgetUsd.value ≤ spend.value
    | _ => True
  answers
    | _, .selectSpend _ _, .ok spend => ∃ n : ℤ, spend.value = n / 10 ^ 6
    | _, _, _ => True
  advance
    | view, _, .error _ => ⟨view.month, none, true⟩
    | view, .datetimeNow, .ok now => { view with month := now.monthKey }
    | view, .setMarkerNx key, .ok true => { view with armed := some key }
    | view, .commitAuditLog _, .ok _ => { view with armed := none }
    | view, _, .ok _ => view

/-- The scan goes on for the same month, or has failed. -/
def goesOn {α : Type} (month : String) (r : Except Exn α) (view : ScanView) : Prop :=
  match r with
  | .ok _ => view = ⟨month, none, false⟩
  | .error _ => view.armed = none ∧ view.failed = true

theorem writeAlert_holds {month : String} {tenant : TenantRow} {spend : Decimal} {threshold : Threshold}
    (reached : threshold.value * tenant.monthlyBudgetUsd.value ≤ spend.value) :
    Holds scanMonitor (writeAuditEvent scanSession (some tenant.id) "budget.threshold_reached" none
      (alertDetail tenant spend threshold)) (goesOn month)
      ⟨month, some (markerKey tenant.id month threshold), false⟩ := by
  refine ⟨trivial, fun o _ => ?_⟩
  rcases o with e | _
  · exact ⟨rfl, rfl⟩
  refine ⟨⟨rfl, tenant, spend, threshold, rfl, rfl, reached⟩, fun o _ => ?_⟩
  rcases o with e | _
  · exact ⟨rfl, rfl⟩
  · exact rfl

theorem alertThresholds_holds {month : String} {tenant : TenantRow} {spend : Decimal}
    (grid : ∃ n : ℤ, spend.value = n / 10 ^ 6) (positive : 0 < tenant.monthlyBudgetUsd.value)
    (thresholds : List Threshold) :
    Holds scanMonitor (alertThresholds tenant month spend
      (toFloat (decimalDivide spend.value tenant.monthlyBudgetUsd.value)) thresholds) (goesOn month)
      ⟨month, none, false⟩ := by
  induction thresholds with
  | nil => exact rfl
  | cons threshold rest ih =>
    rw [alertThresholds]
    split
    case isTrue => exact ih
    case isFalse enough =>
      have reached : threshold.value * tenant.monthlyBudgetUsd.value ≤ spend.value :=
        (reaches_iff tenant spend threshold grid positive).mp (by simpa [reaches] using enough)
      refine ⟨rfl, fun o _ => ?_⟩
      rcases o with e | firstTime
      · exact ⟨rfl, rfl⟩
      cases firstTime with
      | false => exact ih
      | true =>
        change Holds scanMonitor (writeAuditEvent scanSession (some tenant.id)
          "budget.threshold_reached" none (alertDetail tenant spend threshold) >>= fun _ =>
            alertThresholds tenant month spend _ rest) (goesOn month) _
        refine Holds.bind ((writeAlert_holds reached).mono fun r view ended => ?_)
        cases r with
        | error e => exact ended
        | ok _ =>
          cases ended
          exact ih

theorem scanTenants_holds (month : String) (monthStart : UtcDateTime) (tenants : List TenantRow)
    (checked : ℕ) :
    Holds scanMonitor (scanTenants month monthStart tenants checked) (goesOn month)
      ⟨month, none, false⟩ := by
  induction tenants generalizing checked with
  | nil => exact rfl
  | cons tenant rest ih =>
    rw [scanTenants]
    split
    case isTrue => exact ih _
    case isFalse positive =>
      refine ⟨trivial, fun o granted => ?_⟩
      rcases o with e | spend
      · exact ⟨rfl, rfl⟩
      change Holds scanMonitor (alertThresholds tenant month spend _ budgetAlertThresholds >>=
        fun _ => scanTenants month monthStart rest (checked + 1)) (goesOn month) _
      refine Holds.bind ((alertThresholds_holds granted (not_le.mp positive) _).mono
        fun r view ended => ?_)
      cases r with
      | error e => exact ended
      | ok _ =>
        cases ended
        exact ih _

/-- A scan that is over is not armed. -/
def disarmed (_ : Except Exn ℕ) (view : ScanView) : Prop := view.armed = none

theorem budgetThresholdScan_holds :
    Holds scanMonitor budgetThresholdScan disarmed ⟨"", none, false⟩ := by
  refine ⟨rfl, fun o _ => ?_⟩
  rcases o with e | now
  · exact rfl
  refine ⟨trivial, fun o _ => ?_⟩
  rcases o with e | _
  · exact rfl
  refine ⟨trivial, fun o _ => ?_⟩
  rcases o with e | tenants
  · exact rfl
  refine (scanTenants_holds now.monthKey now.monthStart tenants 0).mono fun r view ended => ?_
  cases r with
  | error e => exact ended.1
  | ok checked =>
    cases ended
    exact rfl

end Scans

section Runs
variable {ι : Type} [DecidableEq ι] {s s' : ScanShared ι} {i : ι} {p p' : ScanPool ι}

abbrev freshView : ScanView := ⟨"", none, false⟩

abbrev ScanPool.view (p : ScanPool ι) : ι → ScanView := p.monitored scanMonitor fun _ => freshView

abbrev ScanPool.armed (p : ScanPool ι) (i : ι) : Option String := (p.view i).armed

abbrev ScanPool.Tracked (p : ScanPool ι) : Prop :=
  Pool.Tracked scanMonitor (fun _ => disarmed) (fun _ => freshView) p

theorem scanWorld_granted (s : ScanShared ι) (i : ι) (op : ScanOp) (o : Except Exn (ScanRet op))
    (s' : ScanShared ι) (view : ScanView) (answered : (scanWorld ι).answer s i op o s') :
    scanMonitor.answers view op o := by
  cases op with
  | selectSpend tenantId since =>
    cases o with
    | error e => trivial
    | ok spend => exact answered.1
  | _ => trivial

/-- What a call that is carried out changes of the markers and the alerts, and what the scan
learns of it. -/
theorem serves_cases {op : ScanOp} {a : ScanRet op} {view : ScanView}
    (permitted : scanMonitor.permits view op) (served : s.serves i op a s') :
    (s'.markers = s.markers ∧ s'.audit = s.audit ∧
        (scanMonitor.advance view op (.ok a)).armed = view.armed) ∨
    (∃ key, key ∉ s.markers ∧ view.armed = none ∧ s'.markers = s.markers ++ [key] ∧
        s'.audit = s.audit ∧ (scanMonitor.advance view op (.ok a)).armed = some key) ∨
    ∃ tenant spend threshold, view.failed = false ∧
        view.armed = some (markerKey tenant.id view.month threshold) ∧
        threshold.value * tenant.monthlyBudgetUsd.value ≤ spend.value ∧ s'.markers = s.markers ∧
        s'.audit = s.audit ++ [(s.months i, alertOf tenant spend threshold)] ∧
        (scanMonitor.advance view op (.ok a)).armed = none := by
  cases op with
  | setMarkerNx key =>
    rw [ScanShared.serves] at served
    split at served
    · obtain ⟨rfl, rfl⟩ := served
      exact .inl ⟨rfl, rfl, rfl⟩
    · rename_i fresh
      obtain ⟨rfl, rfl⟩ := served
      exact .inr (.inl ⟨key, fresh, permitted, rfl, rfl, rfl⟩)
  | commitAuditLog row =>
    obtain ⟨going, tenant, spend, threshold, isArmed, rfl, reached⟩ := permitted
    cases served
    exact .inr (.inr ⟨tenant, spend, threshold, going, isArmed, reached, rfl, rfl, rfl⟩)
  | selectSpend tenantId since =>
    obtain ⟨_, rfl⟩ := served
    exact .inl ⟨rfl, rfl, rfl⟩
  | _ =>
    cases served
    exact .inl ⟨rfl, rfl, rfl⟩

theorem serves_deduplicated {armed : ι → Option String} {op : ScanOp} {a : ScanRet op} {view : ScanView}
    (h : Deduplicated s.markers s.audit armed) (own : armed i = view.armed)
    (month : view.failed = false → s.months i = view.month) (permitted : scanMonitor.permits view op)
    (served : s.serves i op a s') :
    Deduplicated s'.markers s'.audit
      (Function.update armed i (scanMonitor.advance view op (.ok a)).armed) := by
  rcases serves_cases permitted served with ⟨markers, audit, same⟩ |
    ⟨key, fresh, _, markers, audit, same⟩ |
    ⟨tenant, spend, threshold, going, isArmed, reached, markers, audit, same⟩
  · rw [markers, audit, same, ← own, Function.update_eq_self]
    exact h
  · rw [markers, audit, same]
    exact h.mark i fresh
  · rw [markers, audit, same, month going]
    exact h.write (own.trans isArmed) reached

theorem serves_months {op : ScanOp} {a : ScanRet op} (view : ScanView) (served : s.serves i op a s') :
    (∀ j, j ≠ i → s'.months j = s.months j) ∧
      (s.months i = view.month → s'.months i = (scanMonitor.advance view op (.ok a)).month) := by
  cases op with
  | datetimeNow =>
    cases served
    exact ⟨fun j apart => Function.update_of_ne apart _ _, fun _ => Function.update_self _ _ _⟩
  | setMarkerNx key =>
    rw [ScanShared.serves] at served
    split at served
    · obtain ⟨rfl, rfl⟩ := served
      exact ⟨fun _ _ => rfl, id⟩
    · obtain ⟨rfl, rfl⟩ := served
      exact ⟨fun _ _ => rfl, id⟩
  | selectSpend tenantId since =>
    obtain ⟨_, rfl⟩ := served
    exact ⟨fun _ _ => rfl, id⟩
  | _ =>
    cases served
    exact ⟨fun _ _ => rfl, id⟩

/-- A scan that is not over knows the month it is for, and no alert was written twice. -/
structure Alerted (p : ScanPool ι) : Prop where
  tracked : p.Tracked
  months : ∀ i, (p.view i).failed = false → p.shared.months i = (p.view i).month
  deduplicated : Deduplicated p.shared.markers p.shared.audit p.armed

theorem armed_update {view : ScanView} (views : p'.view = Function.update p.view i view) :
    p'.armed = Function.update p.armed i view.armed := by
  funext j
  change (p'.view j).armed = _
  rw [views]
  exact Function.apply_update (fun _ => ScanView.armed) p.view i view j

theorem advance_failed (view : ScanView) (op : ScanOp) (a : ScanRet op) :
    (scanMonitor.advance view op (.ok a)).failed = view.failed := by
  cases op with
  | setMarkerNx key => cases a <;> rfl
  | _ => rfl

theorem alerted_step (p : ScanPool ι) (l : ScanLabel ι) (p' : ScanPool ι) (h : Alerted p)
    (step : Step (scanWorld ι) p l p') : Alerted p' := by
  obtain ⟨tracked, moved⟩ := step_cases scanWorld_granted h.tracked step
  rcases moved with ⟨i, op, o, rfl, permitted, answered, views⟩ | ⟨k, _⟩
  · have views : p'.view = Function.update p.view i (scanMonitor.advance (p.view i) op o) := views
    have armed := armed_update views
    have others (view : ScanView) (j : ι) (apart : j ≠ i) : Function.update p.view i view j = p.view j :=
      Function.update_of_ne apart _ _
    cases o with
    | ok a =>
      obtain ⟨kept, own⟩ := serves_months (p.view i) answered
      refine ⟨tracked, fun j going => ?_, ?_⟩
      · by_cases same : j = i
        · rw [same, views, Function.update_self] at going ⊢
          rw [advance_failed] at going
          exact own (h.months i going)
        · rw [views, others _ j same] at going ⊢
          rw [kept j same]
          exact h.months j going
      · rw [armed]
        exact serves_deduplicated h.deduplicated rfl (h.months i) permitted answered
    | error e =>
      have kept : ∀ j, j ≠ i → p'.shared.months j = p.shared.months j := by
        rcases answered with same | ⟨a, served⟩
        · rw [same]
          exact fun _ _ => rfl
        · exact (serves_months (p.view i) served).1
      refine ⟨tracked, fun j going => ?_, ?_⟩
      · by_cases same : j = i
        · rw [same, views, Function.update_self] at going
          cases going
        · rw [views, others _ j same] at going ⊢
          rw [kept j same]
          exact h.months j going
      · rw [armed]
        rcases answered with same | ⟨a, served⟩
        · rw [same]
          exact h.deduplicated.disarm i
        · have effect := serves_deduplicated h.deduplicated rfl (h.months i) permitted served
          have after := effect.disarm i
          rw [Function.update_idem] at after
          exact after
  · exact k.elim

omit [DecidableEq ι] in
theorem Alerted.start : Alerted (scanPool ι) where
  tracked := Pool.start_tracked fun _ => budgetThresholdScan_holds
  months _ _ := rfl
  deduplicated := .start

/-- In every run: at most one alert for each tenant, month and threshold, and every alert
records a spend of at least the threshold's share of the budget. -/
theorem budget_alert_at_most_once (run : List (ScanLabel ι × ScanPool ι))
    (isRun : IsRun (Step (scanWorld ι)) (scanPool ι) run) :
    ∀ p ∈ visited (scanPool ι) run,
      (∀ tenantId month threshold, alertCount tenantId month threshold p.shared.audit ≤ 1) ∧
      ∀ entry ∈ p.shared.audit, RecordsReached entry.2 := by
  intro p mem
  have h := isRun.always alerted_step .start p mem
  exact ⟨h.deduplicated.once, h.deduplicated.reached⟩

/-- No scan is going on: each has not begun or is over. -/
def AtRest (p : ScanPool ι) : Prop := ∀ i, p.history i = [] ∨ ∃ r, p.threads i = .done r

/-- A call fails after it has set a marker, or after the scan has set one and before the
alert's row is committed. -/
def losesAlert (p : ScanPool ι) (l : ScanLabel ι) (p' : ScanPool ι) : Prop :=
  ∃ i op e, l = .call i ⟨op, .error e⟩ ∧
    (p'.shared.markers ≠ p.shared.markers ∨
      p.armed i ≠ none ∧ p'.shared.audit = p.shared.audit)

/-- Every marker has its alert, or a scan that is about to write it. -/
def Backed (markers : List String) (audit : List (String × AuditLog)) (armed : ι → Option String) :
    Prop :=
  ∀ tenantId month threshold, markerKey tenantId month threshold ∈ markers →
    1 ≤ alertCount tenantId month threshold audit ∨
      ∃ i, armed i = some (markerKey tenantId month threshold)

theorem alertCount_mono (tenantId : Uuid) (month : String) (threshold : Threshold)
    (audit : List (String × AuditLog)) (entry : String × AuditLog) :
    alertCount tenantId month threshold audit ≤
      alertCount tenantId month threshold (audit ++ [entry]) := by
  rw [alertCount_append]
  omega

theorem serves_backed {armed : ι → Option String} {op : ScanOp} {a : ScanRet op} {view : ScanView}
    (h : Backed s.markers s.audit armed) (own : armed i = view.armed)
    (month : view.failed = false → s.months i = view.month) (permitted : scanMonitor.permits view op)
    (served : s.serves i op a s') :
    Backed s'.markers s'.audit
      (Function.update armed i (scanMonitor.advance view op (.ok a)).armed) := by
  rcases serves_cases permitted served with ⟨markers, audit, same⟩ |
    ⟨key, _, idle, markers, audit, same⟩ |
    ⟨tenant, spend, threshold, going, isArmed, _, markers, audit, same⟩
  · rw [markers, audit, same, ← own, Function.update_eq_self]
    exact h
  · rw [markers, audit, same]
    intro tenantId month threshold set
    rcases List.mem_append.mp set with set | set
    · rcases h _ _ _ set with written | ⟨j, isArmed⟩
      · exact .inl written
      · have apart : j ≠ i := by
          rintro rfl
          rw [own, idle] at isArmed
          cases isArmed
        refine .inr ⟨j, ?_⟩
        rw [Function.update_of_ne apart]
        exact isArmed
    · refine .inr ⟨i, ?_⟩
      rw [Function.update_self, List.mem_singleton.mp set]
  · rw [markers, audit, same, month going]
    intro tenantId month' threshold' set
    rcases h _ _ _ set with written | ⟨j, other⟩
    · exact .inl (written.trans (alertCount_mono _ _ _ _ _))
    · by_cases mover : j = i
      · rw [mover, own, isArmed] at other
        obtain ⟨rfl, rfl, rfl⟩ := markerKey_parts (Option.some.inj other)
        rw [alertCount_append, if_pos ((isAlert_iff ..).mpr ⟨rfl, rfl, rfl⟩)]
        exact .inl (Nat.le_add_left _ _)
      · refine .inr ⟨j, ?_⟩
        rw [Function.update_of_ne mover]
        exact other

theorem backed_step (p : ScanPool ι) (l : ScanLabel ι) (p' : ScanPool ι)
    (h : Alerted p ∧ Backed p.shared.markers p.shared.audit p.armed)
    (step : Step (scanWorld ι) p l p' ∧ ¬ losesAlert p l p') :
    Alerted p' ∧ Backed p'.shared.markers p'.shared.audit p'.armed := by
  obtain ⟨h, backed⟩ := h
  obtain ⟨step, keeps⟩ := step
  refine ⟨alerted_step p l p' h step, ?_⟩
  obtain ⟨_, moved⟩ := step_cases scanWorld_granted h.tracked step
  rcases moved with ⟨i, op, o, rfl, permitted, answered, views⟩ | ⟨k, _⟩
  · rw [armed_update views]
    cases o with
    | ok a => exact serves_backed backed rfl (h.months i) permitted answered
    | error e =>
      have kept : ¬ (p'.shared.markers ≠ p.shared.markers ∨
          p.armed i ≠ none ∧ p'.shared.audit = p.shared.audit) :=
        fun loses => keeps ⟨i, op, e, rfl, loses⟩
      obtain ⟨markers, audit⟩ := not_or.mp kept
      -- Where no row was written the scan was not armed, so nothing was lost.
      have unchanged (marks : p'.shared.markers = p.shared.markers)
          (rows : p'.shared.audit = p.shared.audit) :
          Backed p'.shared.markers p'.shared.audit (Function.update p.armed i none) := by
        have idle : p.armed i = none := by
          by_contra isArmed
          exact audit ⟨isArmed, rows⟩
        rw [marks, rows, ← idle, Function.update_eq_self]
        exact backed
      rcases answered with same | ⟨a, served⟩
      · exact unchanged (by rw [same]) (by rw [same])
      · have effect := serves_backed backed rfl (h.months i) permitted served
        rcases serves_cases permitted served with ⟨marks, rows, _⟩ | ⟨key, _, _, marks, _⟩ |
          ⟨tenant, spend, threshold, _, _, _, _, _, same⟩
        · exact unchanged marks rows
        · refine absurd (fun same => ?_) markers
          rw [same] at marks
          simp at marks
        · rw [same] at effect
          exact effect
  · exact k.elim

/-- In every run in which no failure comes between a marker and its row: where no scan is
going on, every marker that is set has its alert. -/
theorem alert_kept_unless_failure_between (run : List (ScanLabel ι × ScanPool ι))
    (isRun : IsRun (fun p l p' => Step (scanWorld ι) p l p' ∧ ¬ losesAlert p l p') (scanPool ι) run) :
    ∀ p ∈ visited (scanPool ι) run, AtRest p → ∀ tenantId month threshold,
      markerKey tenantId month threshold ∈ p.shared.markers →
        1 ≤ alertCount tenantId month threshold p.shared.audit := by
  intro p mem quiet tenantId month threshold set
  have start : Backed (scanPool ι).shared.markers (scanPool ι).shared.audit (scanPool ι).armed :=
    fun _ _ _ set => (by cases set)
  obtain ⟨h, backed⟩ := isRun.always backed_step ⟨.start, start⟩ p mem
  rcases backed tenantId month threshold set with written | ⟨i, isArmed⟩
  · exact written
  · rcases quiet i with unbegun | ⟨r, finished⟩
    · have fresh : p.armed i = none := by
        rw [ScanPool.armed, ScanPool.view, Pool.monitored, unbegun]
        rfl
      rw [fresh] at isArmed
      cases isArmed
    · have ended := (h.tracked i).2
      rw [finished] at ended
      have idle : p.armed i = none := ended
      rw [idle] at isArmed
      cases isArmed

end Runs

section OneScan

def ninety : Decimal := ⟨90000000, 6⟩

abbrev juneKey : String := markerKey helloTenantId noon.monthKey .eighty

/-- A tenant with a budget of 100 dollars has spent 90. -/
def oneScan (committed : Except Exn Unit) : List (Event ScanOp ScanRet Exn) :=
  [⟨.datetimeNow, .ok noon⟩, ⟨.setRlsContext none true, .ok ()⟩,
    ⟨.selectActiveTenants, .ok [tenantWithBudget helloTenantId]⟩,
    ⟨.selectSpend helloTenantId noon.monthStart, .ok ninety⟩, ⟨.setMarkerNx juneKey, .ok true⟩,
    ⟨.setRlsContext none true, .ok ()⟩,
    ⟨.commitAuditLog (alertOf (tenantWithBudget helloTenantId) ninety .eighty), committed⟩]

def oneScanEnd (committed : Except Exn Unit) : Except Exn ℕ := committed.map fun _ => 1

theorem oneScan_runs (committed : Except Exn Unit) :
    Runs budgetThresholdScan (oneScan committed) (oneScanEnd committed) := by
  have positive : ¬ (tenantWithBudget helloTenantId).monthlyBudgetUsd.value ≤ 0 := by decide +kernel
  have eighty : ¬ toFloat (decimalDivide ninety.value
      (tenantWithBudget helloTenantId).monthlyBudgetUsd.value) < toFloat Threshold.eighty.value := by
    decide +kernel
  have full : toFloat (decimalDivide ninety.value
      (tenantWithBudget helloTenantId).monthlyBudgetUsd.value) < toFloat Threshold.full.value := by
    decide +kernel
  refine .call (.call (.call ?_))
  change Runs (scanTenants noon.monthKey noon.monthStart [tenantWithBudget helloTenantId] 0) _ _
  rw [scanTenants, if_neg positive]
  refine .call ?_
  change Runs (alertThresholds (tenantWithBudget helloTenantId) noon.monthKey ninety
    (toFloat (decimalDivide ninety.value (tenantWithBudget helloTenantId).monthlyBudgetUsd.value))
    [.eighty, .full] >>= fun _ => scanTenants noon.monthKey noon.monthStart [] (0 + 1)) _ _
  rw [alertThresholds, if_neg eighty, alertThresholds, if_pos full]
  cases committed with
  | error e => exact .call (.call (.call (.done _)))
  | ok _ => exact .call (.call (.call (.done _)))

def alertedShared (audit : List (String × AuditLog)) : ScanShared Unit :=
  ⟨[juneKey], audit, Function.update (fun _ => "") () noon.monthKey⟩

def juneAlert : String × AuditLog :=
  (noon.monthKey, alertOf (tenantWithBudget helloTenantId) ninety .eighty)

theorem ninety_grid : ∃ n : ℤ, ninety.value = n / 10 ^ 6 := ⟨90000000, rfl⟩

/-- The calls of the scan meet `C`, and its marker was not set. -/
theorem oneScan_served {C : ScanShared Unit → Event ScanOp ScanRet Exn → Prop}
    (committed : Except Exn Unit) (meets : ∀ s, ∀ e ∈ oneScan committed, C s e) (s' : ScanShared Unit)
    (ended : (scanWorld Unit).answer (alertedShared []) ()
      (.commitAuditLog (alertOf (tenantWithBudget helloTenantId) ninety .eighty)) committed s') :
    (scanWorld Unit).Serves C () (scanPool Unit).shared (oneScan committed) s' := by
  simp only [oneScan, List.forall_mem_cons] at meets
  exact ⟨(meets _).1, _, rfl, (meets _).2.1, _, rfl, (meets _).2.2.1, _, rfl,
    (meets _).2.2.2.1, _, ⟨ninety_grid, rfl⟩, (meets _).2.2.2.2.1, _, ⟨rfl, rfl⟩,
    (meets _).2.2.2.2.2.1, _, rfl, (meets _).2.2.2.2.2.2.1, s', ended, rfl⟩

theorem budget_alert_at_most_once_june :
    ∃ run : List (ScanLabel Unit × ScanPool Unit), IsRun (Step (scanWorld Unit)) (scanPool Unit) run ∧
      (final (scanPool Unit) run).shared.audit = [juneAlert] ∧
      ∀ p ∈ visited (scanPool Unit) run,
        (∀ tenantId month threshold, alertCount tenantId month threshold p.shared.audit ≤ 1) ∧
        ∀ entry ∈ p.shared.audit, RecordsReached entry.2 := by
  obtain ⟨run, isRun, _, ends, -⟩ := solo_run (p := scanPool Unit) (i := ()) (C := fun _ _ => True)
    (oneScan_runs (.ok ())).reaches
    (oneScan_served (.ok ()) (fun _ _ _ => trivial) (alertedShared [juneAlert]) rfl)
  refine ⟨run, isRun, ?_, budget_alert_at_most_once run isRun⟩
  rw [ends]
  rfl

theorem oneScan_quiet {run : List (ScanLabel Unit × ScanPool Unit)} {committed : Except Exn Unit}
    {s : ScanShared Unit} (ends : final (scanPool Unit) run =
      ⟨s, Function.update (scanPool Unit).threads () (.done (oneScanEnd committed)),
        Function.update (scanPool Unit).history () ((scanPool Unit).history () ++ oneScan committed)⟩) :
    AtRest (final (scanPool Unit) run) := by
  rw [ends]
  exact fun _ => .inr ⟨oneScanEnd committed, rfl⟩

theorem alert_kept_unless_failure_between_june :
    ∃ run : List (ScanLabel Unit × ScanPool Unit),
      IsRun (fun p l p' => Step (scanWorld Unit) p l p' ∧ ¬ losesAlert p l p') (scanPool Unit) run ∧
      juneKey ∈ (final (scanPool Unit) run).shared.markers ∧
      1 ≤ alertCount helloTenantId noon.monthKey .eighty (final (scanPool Unit) run).shared.audit := by
  have succeeds : ∀ s : ScanShared Unit, ∀ e ∈ oneScan (.ok ()), ∃ a, e.2 = .ok a := by
    intro _
    simp [oneScan]
  obtain ⟨run, isRun, meets, ends, -⟩ := solo_run (p := scanPool Unit) (i := ())
    (C := fun _ e => ∃ a, e.2 = .ok a) (oneScan_runs (.ok ())).reaches
    (oneScan_served (.ok ()) succeeds (alertedShared [juneAlert]) rfl)
  have kept : IsRun (fun p l p' => Step (scanWorld Unit) p l p' ∧ ¬ losesAlert p l p')
      (scanPool Unit) run := by
    refine isRun.meeting (fun p l p' step ok => ⟨step, ?_⟩) meets
    rintro ⟨i, op, e, rfl, _⟩
    obtain ⟨a, same⟩ := ok
    cases same
  have set : juneKey ∈ (final (scanPool Unit) run).shared.markers := by
    rw [ends]
    exact .head _
  exact ⟨run, kept, set, alert_kept_unless_failure_between run kept _ (final_mem_visited _ run)
    (oneScan_quiet ends) _ _ _ set⟩

/-- The commit of the row fails, and the marker stays. -/
theorem failed_commit_loses_alert :
    ¬ ∀ run : List (ScanLabel Unit × ScanPool Unit),
      IsRun (Step (scanWorld Unit)) (scanPool Unit) run →
      ∀ p ∈ visited (scanPool Unit) run, AtRest p → ∀ tenantId month threshold,
        markerKey tenantId month threshold ∈ p.shared.markers →
          1 ≤ alertCount tenantId month threshold p.shared.audit := by
  intro kept
  obtain ⟨run, isRun, _, ends, -⟩ := solo_run (p := scanPool Unit) (i := ()) (C := fun _ _ => True)
    (oneScan_runs (.error (.other "OperationalError"))).reaches
    (oneScan_served (.error (.other "OperationalError")) (fun _ _ _ => trivial) (alertedShared []) (.inl rfl))
  have set : juneKey ∈ (final (scanPool Unit) run).shared.markers := by
    rw [ends]
    exact .head _
  have written := kept run isRun _ (final_mem_visited _ run) (oneScan_quiet ends) _ _ _ set
  rw [ends] at written
  cases written

end OneScan
end AegisGateway.BudgetAlerts
