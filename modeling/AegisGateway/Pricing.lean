import AegisGateway.PrefixCodes
import Mathlib.Algebra.Order.Field.Rat
import Mathlib.Tactic.FieldSimp
import Mathlib.Tactic.Linarith
import Mathlib.Tactic.NormNum
import Mathlib.Tactic.Ring

set_option autoImplicit false

/-!
# Static pricing

`services/pricing.py` with exact numbers: US dollars for a million tokens, the
prompt and the completion priced apart.
-/
namespace AegisGateway.Pricing
open PrefixCodes

/-- Python's `str.startswith`. -/
def startsWith (text start : String) : Bool := start.toList.isPrefixOf text.toList

structure Price where
  prompt : ℚ
  completion : ℚ
  deriving DecidableEq, Repr

/-- `_PRICE_PER_1M_TOKENS_USD`, in the table's order. -/
def pricePer1MTokensUsd : List (String × Price) :=
  [("gpt-4o-mini", ⟨15 / 100, 60 / 100⟩),
   ("gpt-4o", ⟨250 / 100, 1000 / 100⟩),
   ("gpt-4-turbo", ⟨1000 / 100, 3000 / 100⟩),
   ("gpt-4", ⟨3000 / 100, 6000 / 100⟩),
   ("gpt-3.5-turbo", ⟨50 / 100, 150 / 100⟩)]

def defaultPricePer1MUsd : Price := ⟨100 / 100, 300 / 100⟩

def ollamaPricePer1MUsd : Price := ⟨0, 0⟩

def priceFor (model providerName : String) : Price :=
  if providerName = "ollama" then ollamaPricePer1MUsd
  else match pricePer1MTokensUsd.find? (fun entry => startsWith model entry.1) with
    | some entry => entry.2
    | none => defaultPricePer1MUsd

def estimatePromptCostUsd (model : String) (promptTokens : ℤ) (providerName : String) : ℚ :=
  promptTokens / 1000000 * (priceFor model providerName).prompt

def calculateCostUsd (model : String) (promptTokens completionTokens : ℤ)
    (providerName : String) : ℚ :=
  promptTokens / 1000000 * (priceFor model providerName).prompt +
    completionTokens / 1000000 * (priceFor model providerName).completion

/-- A price is a whole number of cents. -/
def InCents (price : Price) : Prop :=
  ∃ prompt completion : ℕ, price.prompt = prompt / 100 ∧ price.completion = completion / 100

theorem priceFor_inCents (model providerName : String) : InCents (priceFor model providerName) := by
  have table : ∀ entry ∈ pricePer1MTokensUsd, InCents entry.2 := by
    intro entry h
    simp only [pricePer1MTokensUsd, List.mem_cons, List.not_mem_nil, or_false] at h
    rcases h with rfl | rfl | rfl | rfl | rfl
    · exact ⟨15, 60, rfl, rfl⟩
    · exact ⟨250, 1000, rfl, rfl⟩
    · exact ⟨1000, 3000, rfl, rfl⟩
    · exact ⟨3000, 6000, rfl, rfl⟩
    · exact ⟨50, 150, rfl, rfl⟩
  unfold priceFor
  split_ifs
  · exact ⟨0, 0, by norm_num [ollamaPricePer1MUsd], by norm_num [ollamaPricePer1MUsd]⟩
  · split
    · rename_i entry h
      exact table entry (List.mem_of_find?_eq_some h)
    · exact ⟨100, 300, rfl, rfl⟩

theorem estimatePromptCostUsd_grid (model : String) (promptTokens : ℕ) (providerName : String) :
    ∃ n : ℕ, estimatePromptCostUsd model promptTokens providerName = n / 10 ^ 8 := by
  obtain ⟨cents, _, hc, _⟩ := priceFor_inCents model providerName
  refine ⟨promptTokens * cents, ?_⟩
  rw [estimatePromptCostUsd, hc]
  push_cast
  ring

theorem estimatePromptCostUsd_nonneg (model : String) (promptTokens : ℕ) (providerName : String) :
    0 ≤ estimatePromptCostUsd model promptTokens providerName := by
  obtain ⟨n, hn⟩ := estimatePromptCostUsd_grid model promptTokens providerName
  rw [hn]
  exact div_nonneg (Nat.cast_nonneg n) (by norm_num)

section Lookup

def key (entry : String × Price) : List Char := entry.1.toList

theorem pricePer1MTokensUsd_longestFirst : LongestFirst key pricePer1MTokensUsd := by
  unfold LongestFirst
  decide

/-- The price of the longest key that starts the model, the default price without such a key. -/
def PricedByLongest (model : String) (price : Price) : Prop :=
  (∃ entry, Longest key pricePer1MTokensUsd model.toList entry ∧ entry.2 = price) ∨
    (∀ entry ∈ pricePer1MTokensUsd, ¬ key entry <+: model.toList) ∧ defaultPricePer1MUsd = price

theorem priceFor_eq_iff (model : String) {providerName : String} (hosted : providerName ≠ "ollama")
    (price : Price) : priceFor model providerName = price ↔ PricedByLongest model price := by
  have lookup : ∀ entry, pricePer1MTokensUsd.find? (fun e => startsWith model e.1) = some entry ↔
      Longest key pricePer1MTokensUsd model.toList entry :=
    fun _ => pricePer1MTokensUsd_longestFirst.find?_eq_some_iff
  unfold priceFor PricedByLongest
  rw [if_neg hosted]
  cases found : pricePer1MTokensUsd.find? (fun entry => startsWith model entry.1) with
  | some entry =>
    have best := (lookup entry).mp found
    constructor
    · intro same
      exact .inl ⟨entry, best, same⟩
    · rintro (⟨other, otherBest, same⟩ | ⟨none, _⟩)
      · cases found.symm.trans ((lookup other).mpr otherBest)
        exact same
      · exact absurd best.starts (none entry best.listed)
  | none =>
    have misses : ∀ entry ∈ pricePer1MTokensUsd, ¬ key entry <+: model.toList := by
      intro entry mem matching
      have miss := List.find?_eq_none.mp found entry mem
      exact miss (List.isPrefixOf_iff_prefix.mpr matching)
    constructor
    · intro same
      exact .inr ⟨misses, same⟩
    · rintro (⟨other, best, _⟩ | ⟨_, same⟩)
      · exact absurd best.starts (misses other best.listed)
      · exact same

end Lookup

section Costs
variable (model providerName : String)

theorem priceFor_nonneg :
    0 ≤ (priceFor model providerName).prompt ∧ 0 ≤ (priceFor model providerName).completion := by
  obtain ⟨prompt, completion, hp, hc⟩ := priceFor_inCents model providerName
  rw [hp, hc]
  exact ⟨div_nonneg (Nat.cast_nonneg prompt) (by norm_num),
    div_nonneg (Nat.cast_nonneg completion) (by norm_num)⟩

theorem cost_mono {tokens tokens' : ℤ} {price : ℚ} (nonneg : 0 ≤ price) (le : tokens ≤ tokens') :
    (tokens : ℚ) / 1000000 * price ≤ (tokens' : ℚ) / 1000000 * price := by
  have le' : (tokens : ℚ) ≤ tokens' := by exact_mod_cast le
  gcongr

theorem estimatePromptCostUsd_mono {p p' : ℤ} (le : p ≤ p') :
    estimatePromptCostUsd model p providerName ≤ estimatePromptCostUsd model p' providerName :=
  cost_mono (priceFor_nonneg model providerName).1 le

theorem calculateCostUsd_mono {p p' c c' : ℤ} (prompt : p ≤ p') (completion : c ≤ c') :
    calculateCostUsd model p c providerName ≤ calculateCostUsd model p' c' providerName :=
  add_le_add (cost_mono (priceFor_nonneg model providerName).1 prompt)
    (cost_mono (priceFor_nonneg model providerName).2 completion)

theorem calculateCostUsd_zero (p : ℤ) :
    calculateCostUsd model p 0 providerName = estimatePromptCostUsd model p providerName := by
  simp [calculateCostUsd, estimatePromptCostUsd]

theorem estimate_le_calculate (p : ℤ) {c : ℤ} (nonneg : 0 ≤ c) :
    estimatePromptCostUsd model p providerName ≤ calculateCostUsd model p c providerName := by
  rw [← calculateCostUsd_zero]
  exact calculateCostUsd_mono model providerName (le_refl p) nonneg

end Costs

/-- The first match is the longest, so estimate and bill go by one price: the estimate is the
part of the bill that the prompt makes. -/
theorem priced_by_longest_match (model providerName : String) :
    (providerName ≠ "ollama" →
      ∀ price, priceFor model providerName = price ↔ PricedByLongest model price) ∧
    (∀ p c : ℤ, 0 ≤ c →
      estimatePromptCostUsd model p providerName ≤ calculateCostUsd model p c providerName) ∧
    (∀ p p' : ℤ, p ≤ p' →
      estimatePromptCostUsd model p providerName ≤ estimatePromptCostUsd model p' providerName) ∧
    ∀ p p' c c' : ℤ, p ≤ p' → c ≤ c' →
      calculateCostUsd model p c providerName ≤ calculateCostUsd model p' c' providerName := by
  refine ⟨fun hosted price => priceFor_eq_iff model hosted price, ?_, ?_, ?_⟩
  · intro p c nonneg
    exact estimate_le_calculate model providerName p nonneg
  · intro p p' le
    exact estimatePromptCostUsd_mono model providerName le
  · intro p p' c c' prompt completion
    exact calculateCostUsd_mono model providerName prompt completion

theorem priced_by_longest_match_mini :
    priceFor "gpt-4o-mini-2024-07-18" "openai" = ⟨15 / 100, 60 / 100⟩ ∧
      PricedByLongest "gpt-4o-mini-2024-07-18" ⟨15 / 100, 60 / 100⟩ ∧
      estimatePromptCostUsd "gpt-4o-mini-2024-07-18" 8 "openai" ≤
        calculateCostUsd "gpt-4o-mini-2024-07-18" 8 2 "openai" ∧
      estimatePromptCostUsd "gpt-4o-mini-2024-07-18" 8 "openai" ≤
        estimatePromptCostUsd "gpt-4o-mini-2024-07-18" 9 "openai" ∧
      calculateCostUsd "gpt-4o-mini-2024-07-18" 8 2 "openai" ≤
        calculateCostUsd "gpt-4o-mini-2024-07-18" 9 2 "openai" := by
  have price : priceFor "gpt-4o-mini-2024-07-18" "openai" = ⟨15 / 100, 60 / 100⟩ := rfl
  obtain ⟨longest, estimate, mono, mono'⟩ :=
    priced_by_longest_match "gpt-4o-mini-2024-07-18" "openai"
  exact ⟨price, (longest (by decide) _).mp price, estimate 8 2 (by decide), mono 8 9 (by decide),
    mono' 8 9 2 2 (by decide) (by decide)⟩

end AegisGateway.Pricing
