import AegisGateway.BudgetAlerts

set_option autoImplicit false

/-!
# How late a budget alert can be

A scan that alerts a tenant sees no other tenant's usage afterwards. So one scan alerts one
tenant. The scans of a month catch up: each one that leaves an alert waiting has taken
another one off the list.
-/
namespace AegisGateway.AlertDelays
open BudgetScan BudgetAlerts

/-- What a scan finds: the database of its time. -/
structure Round where
  database : Database
  now : UtcDateTime

section Scans

/-- The world at the beginning of a scan. -/
def opened (w : ScanWorld) (round : Round) : ScanWorld :=
  { w with database := round.database, now := round.now }

def afterScans (w : ScanWorld) (rounds : List Round) : ScanWorld :=
  rounds.foldl (fun w round => (opened w round).afterScan) w

/-- The audit log has the alert of the month. -/
def AlertedIn (audit : List (AuditLog × UtcDateTime)) (year month : ℕ) (tenantId : Uuid)
    (threshold : Threshold) : Prop :=
  ∃ row ∈ audit, row.1.tenantId = some tenantId ∧ row.1.eventType = "budget.threshold_reached" ∧
    Json.get row.1.detail "threshold" = .float threshold.str ∧
    row.2.year = year ∧ row.2.month = month

/-- Those of the alerts whose markers are not set. -/
def waiting (alerts : Finset (Uuid × Threshold)) (monthKey : String) (markers : List String) :
    Finset (Uuid × Threshold) :=
  alerts.filter fun alert => markerKey alert.1 monthKey alert.2 ∉ markers

/-- A scan does nothing, or alerts what is pending for one tenant. -/
theorem afterScan_cases (w : ScanWorld) :
    (firstPending w w.database.activeTenants = none ∧ w.afterScan.markers = w.markers ∧
        w.afterScan.audit = w.audit) ∨
      ∃ tenant, firstPending w w.database.activeTenants = some tenant ∧
        w.afterScan.markers = w.markers ++
          (budgetAlertThresholds.filter (pending w tenant)).map (markerKey tenant.id w.now.monthKey) ∧
        w.afterScan.audit = w.audit ++ (budgetAlertThresholds.filter (pending w tenant)).map
          (alertRow w tenant (monthToDate w tenant)) := by
  rw [afterScan_eq, scanned_eq]
  have same : firstPending { w with context := ⟨"", "on"⟩ } w.database.activeTenants =
      firstPending w w.database.activeTenants := rfl
  rw [same]
  cases firstPending w w.database.activeTenants with
  | none => exact .inl ⟨rfl, rfl, rfl⟩
  | some tenant => exact .inr ⟨tenant, rfl, rfl, rfl⟩

theorem afterScan_audit (w : ScanWorld) : ∃ new, w.afterScan.audit = w.audit ++ new := by
  rcases afterScan_cases w with ⟨-, -, audit⟩ | ⟨tenant, -, -, audit⟩
  · exact ⟨[], audit.trans (List.append_nil _).symm⟩
  · exact ⟨_, audit⟩

theorem AlertedIn.grow {audit new : List (AuditLog × UtcDateTime)} {year month : ℕ} {id : Uuid}
    {threshold : Threshold} (h : AlertedIn audit year month id threshold) :
    AlertedIn (audit ++ new) year month id threshold := by
  obtain ⟨row, mem, found⟩ := h
  exact ⟨row, List.mem_append_left _ mem, found⟩

theorem alerted_kept {w : ScanWorld} {year month : ℕ} {id : Uuid} {threshold : Threshold}
    (rounds : List Round) (h : AlertedIn w.audit year month id threshold) :
    AlertedIn (afterScans w rounds).audit year month id threshold := by
  induction rounds generalizing w with
  | nil => exact h
  | cons round rest ih =>
    obtain ⟨new, audit⟩ := afterScan_audit (opened w round)
    apply ih
    rw [audit]
    exact h.grow

end Scans

section Progress
variable {alerts : Finset (Uuid × Threshold)} {w : ScanWorld} {id : Uuid} {threshold : Threshold}

/-- A marker of the month is set only with its alert. -/
def MarkerAlerted (w : ScanWorld) (year month : ℕ) (monthKey : String) (id : Uuid) (threshold : Threshold) :
    Prop :=
  markerKey id monthKey threshold ∈ w.markers → AlertedIn w.audit year month id threshold

theorem alertRow_alerted (w : ScanWorld) (tenant : TenantRow) (spend : Decimal)
    {thresholds : List Threshold} (mem : threshold ∈ thresholds) :
    AlertedIn (w.audit ++ thresholds.map (alertRow w tenant spend)) w.now.year w.now.month tenant.id
      threshold :=
  ⟨alertRow w tenant spend threshold,
    List.mem_append_right _ (List.mem_map_of_mem mem), rfl, rfl, rfl, rfl, rfl⟩

theorem backed_afterScan (backed : MarkerAlerted w w.now.year w.now.month w.now.monthKey id threshold) :
    MarkerAlerted w.afterScan w.now.year w.now.month w.now.monthKey id threshold := by
  intro marked
  rcases afterScan_cases w with ⟨-, markers, audit⟩ | ⟨tenant, -, markers, audit⟩
  · rw [markers] at marked
    rw [audit]
    exact backed marked
  · rw [markers] at marked
    rw [audit]
    rcases List.mem_append.mp marked with old | new
    · exact (backed old).grow
    · obtain ⟨other, among, key⟩ := List.mem_map.mp new
      obtain ⟨rfl, -, rfl⟩ := markerKey_parts key
      exact alertRow_alerted w tenant _ among

theorem waiting_afterScan
    (within : ∀ tenant threshold, Due w tenant threshold → (tenant.id, threshold) ∈ alerts)
    {tenant : TenantRow} (due : Due w tenant threshold)
    (unmarked : markerKey tenant.id w.now.monthKey threshold ∉ w.markers) :
    (waiting alerts w.now.monthKey w.afterScan.markers).card <
      (waiting alerts w.now.monthKey w.markers).card := by
  rcases afterScan_cases w with ⟨none_pending, -, -⟩ | ⟨first, found, markers, -⟩
  · have quiet := List.find?_eq_none.mp none_pending tenant due.1
    have isPending := (pending_iff w tenant threshold due.1).mpr ⟨due, unmarked⟩
    exact absurd (List.any_eq_true.mpr ⟨threshold, mem_thresholds threshold, isPending⟩) quiet
  · have active : first ∈ w.database.activeTenants := List.mem_of_find?_eq_some found
    have some_pending : budgetAlertThresholds.any (pending w first) = true :=
      List.find?_some (p := fun tenant => budgetAlertThresholds.any (pending w tenant)) found
    obtain ⟨taken, among, isPending⟩ := List.any_eq_true.mp some_pending
    obtain ⟨reached, claimed⟩ := (pending_iff w first taken active).mp isPending
    refine Finset.card_lt_card ⟨?_, fun back => ?_⟩
    · intro alert mem
      obtain ⟨known, unset⟩ := Finset.mem_filter.mp mem
      rw [markers] at unset
      exact Finset.mem_filter.mpr ⟨known, fun marked => unset (List.mem_append_left _ marked)⟩
    · have listed : (first.id, taken) ∈ waiting alerts w.now.monthKey w.markers :=
        Finset.mem_filter.mpr ⟨within first taken reached, claimed⟩
      have gone := (Finset.mem_filter.mp (back listed)).2
      rw [markers] at gone
      exact gone (List.mem_append_right _
        (List.mem_map_of_mem (List.mem_filter.mpr ⟨among, isPending⟩)))

theorem afterScan_oneTenant (w : ScanWorld) :
    ∃ new, w.afterScan.audit = w.audit ++ new ∧
      ∀ row ∈ new, ∀ row' ∈ new, row.1.tenantId = row'.1.tenantId := by
  rcases afterScan_cases w with ⟨-, -, audit⟩ | ⟨tenant, -, -, audit⟩
  · exact ⟨[], audit.trans (List.append_nil _).symm, by simp⟩
  · refine ⟨_, audit, fun row mem row' mem' => ?_⟩
    obtain ⟨threshold, -, rfl⟩ := List.mem_map.mp mem
    obtain ⟨threshold', -, rfl⟩ := List.mem_map.mp mem'
    rfl

end Progress

section Months

theorem monthKey_of_start {t start : UtcDateTime} (month : t.monthStart = start) :
    t.monthKey = start.monthKey ∧ t.year = start.year ∧ t.month = start.month := by
  subst month
  exact ⟨rfl, rfl, rfl⟩

/-- Each scan of the list alerts one tenant at most. -/
def OneTenantEach (w : ScanWorld) (rounds : List Round) : Prop :=
  ∀ before round after, rounds = before ++ round :: after →
    ∃ new, (afterScans w (before ++ [round])).audit = (afterScans w before).audit ++ new ∧
      ∀ row ∈ new, ∀ row' ∈ new, row.1.tenantId = row'.1.tenantId

theorem scans_oneTenantEach (w : ScanWorld) (rounds : List Round) : OneTenantEach w rounds := by
  rintro before round after -
  have last : afterScans w (before ++ [round]) = (opened (afterScans w before) round).afterScan := by
    rw [afterScans, List.foldl_append]
    rfl
  rw [last]
  exact afterScan_oneTenant (opened (afterScans w before) round)

theorem alerted_in_time {start : UtcDateTime} {alerts : Finset (Uuid × Threshold)} {id : Uuid}
    {threshold : Threshold} (rounds : List Round) (w : ScanWorld)
    (sameMonth : ∀ round ∈ rounds, round.now.monthStart = start)
    (within : ∀ round ∈ rounds, ∀ tenant threshold, Due (opened w round) tenant threshold →
      (tenant.id, threshold) ∈ alerts)
    (known : (id, threshold) ∈ alerts)
    (backed : MarkerAlerted w start.year start.month start.monthKey id threshold)
    (due : ∀ round ∈ rounds, ∃ tenant, tenant.id = id ∧ Due (opened w round) tenant threshold)
    (enough : (waiting alerts start.monthKey w.markers).card ≤ rounds.length) :
    AlertedIn (afterScans w rounds).audit start.year start.month id threshold := by
  induction rounds generalizing w with
  | nil =>
    apply backed
    by_contra unmarked
    have listed : (id, threshold) ∈ waiting alerts start.monthKey w.markers :=
      Finset.mem_filter.mpr ⟨known, unmarked⟩
    have positive := Finset.card_pos.mpr ⟨_, listed⟩
    exact absurd enough (by simpa using positive.ne')
  | cons round rest ih =>
    obtain ⟨key, year, month⟩ := monthKey_of_start (sameMonth round (.head _))
    by_cases marked : markerKey id start.monthKey threshold ∈ w.markers
    · exact alerted_kept _ (backed marked)
    · obtain ⟨tenant, rfl, isDue⟩ := due round (.head _)
      have fewer := waiting_afterScan (within round (.head _)) isDue (by rw [← key] at marked; exact marked)
      have kept : MarkerAlerted (opened w round).afterScan start.year start.month start.monthKey
          tenant.id threshold := by
        rw [← key, ← year, ← month] at backed ⊢
        exact backed_afterScan backed
      change (waiting alerts round.now.monthKey _).card <
        (waiting alerts round.now.monthKey w.markers).card at fewer
      rw [key] at fewer
      rw [List.length_cons] at enough
      exact ih (opened w round).afterScan (fun r mem => sameMonth r (.tail _ mem))
        (fun r mem => within r (.tail _ mem)) kept (fun r mem => due r (.tail _ mem)) (by omega)

/-- In a month's scans that do not fail, each scan alerts one tenant at most, and an alert that stays
due is written as soon as there have been as many scans as alerts that were waiting. -/
theorem scans_catch_up (w : ScanWorld) (start : UtcDateTime) (rounds : List Round)
    (sameMonth : ∀ round ∈ rounds, round.now.monthStart = start) :
    OneTenantEach w rounds ∧
    ∀ (alerts : Finset (Uuid × Threshold)) (id : Uuid) (threshold : Threshold),
      (∀ round ∈ rounds, ∀ tenant threshold, Due (opened w round) tenant threshold →
        (tenant.id, threshold) ∈ alerts) →
      (id, threshold) ∈ alerts →
      MarkerAlerted w start.year start.month start.monthKey id threshold →
      (∀ round ∈ rounds, ∃ tenant, tenant.id = id ∧
        Due (opened w round) tenant threshold) →
      (waiting alerts start.monthKey w.markers).card ≤ rounds.length →
      AlertedIn (afterScans w rounds).audit start.year start.month id threshold :=
  ⟨scans_oneTenantEach w rounds, fun _ _ _ within known backed due enough =>
    alerted_in_time rounds w sameMonth within known backed due enough⟩

/-- Twice the same scan, with two tenants over eighty per cent. -/
def twoRounds : List Round :=
  [⟨twoTenantsOver.database, noon⟩, ⟨twoTenantsOver.database, noon⟩]

def bothEighty : Finset (Uuid × Threshold) := {(helloTenantId, .eighty), (secondId, .eighty)}

theorem twoTenants_due {round : Round} (mem : round ∈ twoRounds) :
    (∀ tenant threshold, Due (opened twoTenantsOver round) tenant threshold →
      (tenant.id, threshold) ∈ bothEighty) ∧
    Due (opened twoTenantsOver round) (tenantWithBudget secondId) .eighty := by
  have same : round = ⟨twoTenantsOver.database, noon⟩ := by simpa [twoRounds] using mem
  subst same
  have active : twoTenantsOver.database.activeTenants =
      [tenantWithBudget helloTenantId, tenantWithBudget secondId] := rfl
  refine ⟨?_, ?_⟩
  · rintro tenant threshold ⟨isActive, -, reached⟩
    change tenant ∈ twoTenantsOver.database.activeTenants at isActive
    rw [active, List.mem_cons, List.mem_singleton] at isActive
    rcases isActive with rfl | rfl
    · cases threshold with
      | eighty => decide
      | full => exact absurd reached (by decide +kernel)
    · cases threshold with
      | eighty => decide
      | full => exact absurd reached (by decide +kernel)
  · refine ⟨?_, by decide +kernel, by decide +kernel⟩
    change _ ∈ twoTenantsOver.database.activeTenants
    rw [active]
    exact .tail _ (.head _)

theorem scans_catch_up_second :
    AlertedIn (afterScans twoTenantsOver twoRounds).audit 2025 6 secondId .eighty := by
  have sameMonth : ∀ round ∈ twoRounds, round.now.monthStart = noon.monthStart := by
    simp [twoRounds]
  refine (scans_catch_up twoTenantsOver noon.monthStart twoRounds sameMonth).2 bothEighty secondId
    .eighty (fun round mem => (twoTenants_due mem).1) (by decide) (fun marked => by cases marked)
    (fun round mem => ⟨tenantWithBudget secondId, rfl, (twoTenants_due mem).2⟩) ?_
  exact (Finset.card_filter_le _ _).trans (by decide)

end Months
end AegisGateway.AlertDelays
