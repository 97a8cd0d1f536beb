import AegisGateway.Pricing
import AegisGateway.Schemas
import AegisGateway.SignificantDigits
import AegisGateway.TokenBucket

set_option autoImplicit false

/-!
# The monthly budget counter

`budgetLua` is `_BUDGET_LUA` of `services/rate_limiter.py`: one atomic
check-and-reserve on a tenant-month key. The addition is exact, but the counter
is stored as the text of Lua's `tostring`, which prints `%.14g`. So the counter
loses what lies beyond its fourteenth digit, and `budget_counter_exact_iff`
says for which sequences of calls that never happens.
-/
namespace AegisGateway.BudgetCounter
open Pricing SignificantDigits
open TokenBucket (LimitResult)

/-- The number that the text `tostring(x)` denotes. -/
def tostring (x : ℚ) : ℚ := roundSig 10 14 x

def budgetLua (stored : Option ℚ) (increment limit : ℚ) : LimitResult × Option ℚ :=
  let current := stored.getD 0
  let newValue := current + increment
  if newValue > limit then (⟨false, tostring current⟩, stored)
  else (⟨true, tostring newValue⟩, some (tostring newValue))

/-- One call of `check_and_reserve_budget` with the arguments of its increment. -/
structure BudgetCall where
  model : String
  providerName : String
  promptTokens : ℕ
  monthlyBudgetUsd : Numeric102

def BudgetCall.increment (call : BudgetCall) : ℚ :=
  estimatePromptCostUsd call.model call.promptTokens call.providerName

def BudgetCall.limit (call : BudgetCall) : ℚ := call.monthlyBudgetUsd.value

structure BudgetRun where
  call : BudgetCall
  result : LimitResult
  stored : Option ℚ

def budgetRuns : Option ℚ → List BudgetCall → List BudgetRun
  | _, [] => []
  | stored, call :: calls =>
    let reply := budgetLua stored call.increment call.limit
    ⟨call, reply.1, reply.2⟩ :: budgetRuns reply.2 calls

/-- After each call the counter is the sum of the increments allowed so far, it
is at most the limit of the last allowed call, and a denied call left it alone.
`total`, `lastLimit` and `counter` are these three before the first run. -/
def LedgerKept (total : ℚ) (lastLimit : Option ℚ) (counter : Option ℚ) : List BudgetRun → Prop
  | [] => True
  | run :: runs =>
    let total' := if run.result.allowed then total + run.call.increment else total
    let lastLimit' := if run.result.allowed then some run.call.limit else lastLimit
    (run.stored.getD 0 = total' ∧ (∀ limit ∈ lastLimit', run.stored.getD 0 ≤ limit) ∧
      (run.result.allowed = false → run.stored = counter)) ∧
    LedgerKept total' lastLimit' run.stored runs

/-- Every total that the calls would reserve exactly has at most fourteen digits. -/
def TotalsFit (total : ℚ) : List BudgetCall → Prop
  | [] => True
  | call :: calls =>
    if total + call.increment > call.limit then TotalsFit total calls
    else Representable 10 14 (total + call.increment) ∧ TotalsFit (total + call.increment) calls

theorem BudgetCall.increment_nonneg (call : BudgetCall) : 0 ≤ call.increment :=
  estimatePromptCostUsd_nonneg _ _ _

theorem budgetLua_denied {stored : Option ℚ} {increment limit : ℚ}
    (h : stored.getD 0 + increment > limit) :
    budgetLua stored increment limit = (⟨false, tostring (stored.getD 0)⟩, stored) := by
  unfold budgetLua
  exact if_pos h

theorem budgetLua_allowed {stored : Option ℚ} {increment limit : ℚ}
    (h : ¬ stored.getD 0 + increment > limit) :
    budgetLua stored increment limit =
      (⟨true, tostring (stored.getD 0 + increment)⟩,
        some (tostring (stored.getD 0 + increment))) := by
  unfold budgetLua
  exact if_neg h

theorem limit_representable (limit : Numeric102) (h : 0 ≤ limit.value) :
    Representable 10 14 limit.value := by
  have hc : 0 ≤ limit.cents := by
    have : (0 : ℚ) ≤ limit.cents := by
      have := mul_nonneg h (by norm_num : (0 : ℚ) ≤ 100)
      rwa [Numeric102.value, div_mul_cancel₀ _ (by norm_num)] at this
    exact_mod_cast this
  have hf := limit.fits
  rw [abs_of_nonneg hc] at hf
  refine ⟨limit.cents.toNat, -2, by omega, ?_⟩
  have hn : ((limit.cents.toNat : ℕ) : ℚ) = limit.cents := by
    exact_mod_cast congrArg (fun n : ℤ => (n : ℚ)) (Int.toNat_of_nonneg hc)
  rw [hn, Numeric102.value]
  norm_num
  ring

theorem tostring_le_limit {x : ℚ} (hx : 0 ≤ x) (limit : Numeric102) (h : x ≤ limit.value) :
    tostring x ≤ limit.value := by
  have hl := limit_representable limit (hx.trans h)
  calc tostring x ≤ roundSig 10 14 limit.value :=
        roundSig_mono (by norm_num) (by norm_num) hx h
    _ = limit.value := roundSig_of_representable (by norm_num) (hx.trans h) hl

/-- Whatever digits it loses, the counter never passes the limit of an allowed call. -/
theorem budgetRuns_le_limit (calls : List BudgetCall) (counter : Option ℚ)
    (h : 0 ≤ counter.getD 0) :
    ∀ run ∈ budgetRuns counter calls, run.result.allowed = true →
      run.stored.getD 0 ≤ run.call.limit := by
  induction calls generalizing counter with
  | nil => simp [budgetRuns]
  | cons call calls ih =>
    have hsum := add_nonneg h call.increment_nonneg
    by_cases denied : counter.getD 0 + call.increment > call.limit
    · simp only [budgetRuns, budgetLua_denied denied, List.forall_mem_cons, Bool.false_eq_true,
        false_implies, true_and]
      exact ih counter h
    · simp only [budgetRuns, budgetLua_allowed denied, List.forall_mem_cons, Option.getD_some,
        true_implies]
      refine ⟨tostring_le_limit hsum _ (le_of_not_gt denied), ih _ ?_⟩
      exact roundSig_nonneg (b := 10) (p := 14) (by norm_num) (by norm_num) hsum

/-- The induction: `counter` holds `total`, which no limit passed so far exceeds. -/
theorem ledgerKept_iff (calls : List BudgetCall) (total : ℚ) (lastLimit counter : Option ℚ)
    (hcounter : counter.getD 0 = total) (htotal : 0 ≤ total)
    (hlimit : ∀ limit ∈ lastLimit, total ≤ limit) :
    LedgerKept total lastLimit counter (budgetRuns counter calls) ↔ TotalsFit total calls := by
  induction calls generalizing total lastLimit counter with
  | nil => exact Iff.rfl
  | cons call calls ih =>
    subst hcounter
    by_cases h : counter.getD 0 + call.increment > call.limit
    · simp only [budgetRuns, LedgerKept, TotalsFit, budgetLua_denied h, h, if_true,
        Bool.false_eq_true, if_false]
      rw [ih _ lastLimit counter rfl htotal hlimit]
      exact ⟨fun hk => hk.2, fun hk => ⟨⟨trivial, hlimit, fun _ => trivial⟩, hk⟩⟩
    · have hsum := add_nonneg htotal call.increment_nonneg
      have hle : counter.getD 0 + call.increment ≤ call.limit := le_of_not_gt h
      have hround := roundSig_eq_self_iff (b := 10) (p := 14) (by norm_num) hsum
      simp only [budgetRuns, LedgerKept, TotalsFit, budgetLua_allowed h, h, if_true, if_false,
        Option.getD_some]
      constructor
      · rintro ⟨⟨heq, _, _⟩, hrest⟩
        refine ⟨hround.mp heq, ?_⟩
        rw [heq] at hrest
        refine (ih _ (some call.limit) (some _) rfl hsum ?_).mp hrest
        simpa using hle
      · rintro ⟨hfit, hrest⟩
        have heq := hround.mpr hfit
        change tostring _ = _ at heq
        rw [heq]
        refine ⟨⟨rfl, by simpa using hle, by simp⟩, ?_⟩
        refine (ih _ (some call.limit) (some _) rfl hsum ?_).mpr hrest
        simpa using hle

/-- The budget counter is exact on a sequence of calls if and only if none of
the totals it reserves needs a fifteenth digit. -/
theorem budget_counter_exact_iff (calls : List BudgetCall) :
    LedgerKept 0 none none (budgetRuns none calls) ↔ TotalsFit 0 calls :=
  ledgerKept_iff calls 0 none none rfl le_rfl (by simp)

theorem representable_below_million {n : ℕ} (h : (n : ℚ) / 10 ^ 8 < 10 ^ 6) :
    Representable 10 14 ((n : ℚ) / 10 ^ 8) := by
  refine ⟨n, -8, ?_, ?_⟩
  · have hn : (n : ℚ) < 10 ^ 14 := by
      rw [div_lt_iff₀ (by norm_num)] at h
      calc (n : ℚ) < 10 ^ 6 * 10 ^ 8 := h
        _ = 10 ^ 14 := by norm_num
    exact_mod_cast hn
  · norm_num
    ring

/-- So the counter is exact for every tenant whose budget stays below a million. -/
theorem totalsFit_below_million (calls : List BudgetCall) (n : ℕ)
    (hl : ∀ call ∈ calls, call.limit < 10 ^ 6) : TotalsFit ((n : ℚ) / 10 ^ 8) calls := by
  induction calls generalizing n with
  | nil => trivial
  | cons call calls ih =>
    have hrest := fun c hc => hl c (List.mem_cons_of_mem call hc)
    obtain ⟨m, hm⟩ := estimatePromptCostUsd_grid call.model call.promptTokens call.providerName
    have hsum : (n : ℚ) / 10 ^ 8 + call.increment = ((n + m : ℕ) : ℚ) / 10 ^ 8 := by
      rw [BudgetCall.increment, hm]
      push_cast
      ring
    rw [TotalsFit]
    split_ifs with h
    · exact ih n hrest
    · rw [hsum] at h ⊢
      have hlt := (le_of_not_gt h).trans_lt (hl call List.mem_cons_self)
      exact ⟨representable_below_million hlt, ih (n + m) hrest⟩

def largestBudget : Numeric102 := ⟨9999999999, by decide⟩

/-- A hundred-million-dollar budget: ten million dollars are reserved, and the
one-token reservation after them vanishes in the text of the counter. -/
theorem budget_counter_loses_reservation :
    ¬ LedgerKept 0 none none (budgetRuns none
      [⟨"gpt-4-turbo", "openai", 10 ^ 12, largestBudget⟩,
        ⟨"gpt-4o-mini", "openai", 1, largestBudget⟩]) := by
  intro h
  have lost := h.2.1.1
  revert lost
  decide +kernel

end AegisGateway.BudgetCounter
