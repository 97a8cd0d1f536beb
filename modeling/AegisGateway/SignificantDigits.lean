import Mathlib.Data.Int.Log
import Mathlib.Algebra.Order.Floor.Semiring
import Mathlib.Data.Rat.Floor
import Mathlib.Algebra.Order.Round
import Mathlib.Tactic.Linarith
import Mathlib.Tactic.Positivity
import Mathlib.Tactic.FieldSimp
import Mathlib.Tactic.Ring

set_option autoImplicit false

/-!
# Rounding to significant digits

`roundSig b p x` is `x` rounded to `p` significant digits in base `b`, ties to
the even digit. It is the number a correctly rounding printer or converter
keeps: `b = 10` for decimal text and decimal contexts, `b = 2` for binary
floating point. The exponent range is unbounded. Statements are for
non-negative arguments.
-/
namespace AegisGateway.SignificantDigits

def roundHalfEven (x : ℚ) : ℤ :=
  let below := ⌊x⌋
  let rest := x - below
  if rest < 1 / 2 then below
  else if 1 / 2 < rest then below + 1
  else if Even below then below
  else below + 1

theorem floor_le_roundHalfEven (x : ℚ) : ⌊x⌋ ≤ roundHalfEven x := by
  unfold roundHalfEven
  dsimp only
  split_ifs <;> omega

theorem roundHalfEven_le_floor_succ (x : ℚ) : roundHalfEven x ≤ ⌊x⌋ + 1 := by
  unfold roundHalfEven
  dsimp only
  split_ifs <;> omega

@[simp] theorem roundHalfEven_intCast (n : ℤ) : roundHalfEven (n : ℚ) = n := by
  simp [roundHalfEven]

theorem roundHalfEven_mono {x y : ℚ} (h : x ≤ y) : roundHalfEven x ≤ roundHalfEven y := by
  have hf : ⌊x⌋ ≤ ⌊y⌋ := Int.floor_mono h
  rcases lt_or_eq_of_le hf with hlt | heq
  · have hx := roundHalfEven_le_floor_succ x
    have hy := floor_le_roundHalfEven y
    omega
  · -- Equal floors: the fractional parts are ordered, so the branches are too.
    unfold roundHalfEven
    dsimp only
    rw [heq]
    split_ifs <;> first | omega | (exfalso; linarith)

theorem roundHalfEven_error (x : ℚ) : |(roundHalfEven x : ℚ) - x| ≤ 1 / 2 := by
  have h0 := Int.floor_le x
  have h1 := Int.lt_floor_add_one x
  unfold roundHalfEven
  dsimp only
  split_ifs <;> rw [abs_le] <;> constructor <;> push_cast <;> linarith

theorem roundHalfEven_le_of_lt {x : ℚ} {n : ℤ} (h : x < n) : roundHalfEven x ≤ n := by
  simpa using roundHalfEven_mono h.le

theorem le_roundHalfEven_of_le {x : ℚ} {n : ℤ} (h : (n : ℚ) ≤ x) : n ≤ roundHalfEven x := by
  simpa using roundHalfEven_mono h

/-- The place of the last digit that is kept. -/
def lastPlace (b p : ℕ) (x : ℚ) : ℤ := Int.log b |x| - (p - 1)

/-- The digits kept, as an integer. -/
def digits (b p : ℕ) (x : ℚ) : ℤ := roundHalfEven (x / (b : ℚ) ^ lastPlace b p x)

def roundSig (b p : ℕ) (x : ℚ) : ℚ := digits b p x * (b : ℚ) ^ lastPlace b p x

/-- A non-negative number with at most `p` significant digits in base `b`. -/
def Representable (b p : ℕ) (x : ℚ) : Prop := ∃ (m : ℕ) (k : ℤ), m < b ^ p ∧ x = m * (b : ℚ) ^ k

@[simp] theorem roundSig_zero (b p : ℕ) : roundSig b p 0 = 0 := by
  simp [roundSig, digits, roundHalfEven]

section Bounds
variable {b p : ℕ} {x y : ℚ} (hb : 1 < b) (hp : 1 ≤ p)
include hb

theorem base_zpow_pos (k : ℤ) : (0 : ℚ) < (b : ℚ) ^ k :=
  zpow_pos (by exact_mod_cast Nat.zero_lt_of_lt hb) k

theorem base_zpow_add (k l : ℤ) : (b : ℚ) ^ (k + l) = (b : ℚ) ^ k * (b : ℚ) ^ l :=
  zpow_add₀ (by exact_mod_cast (Nat.zero_lt_of_lt hb).ne') k l

theorem base_zpow_le {k l : ℤ} (h : k ≤ l) : (b : ℚ) ^ k ≤ (b : ℚ) ^ l :=
  zpow_le_zpow_right₀ (by exact_mod_cast hb.le) h

theorem scaled_bounds (hx : 0 < x) :
    (b : ℚ) ^ ((p : ℤ) - 1) ≤ x / (b : ℚ) ^ lastPlace b p x ∧
      x / (b : ℚ) ^ lastPlace b p x < (b : ℚ) ^ (p : ℤ) := by
  have hpos := base_zpow_pos hb (lastPlace b p x)
  have hlow := Int.zpow_log_le_self hb hx
  have hhigh := Int.lt_zpow_succ_log_self hb x
  rw [le_div_iff₀ hpos, div_lt_iff₀ hpos, ← base_zpow_add hb, ← base_zpow_add hb, lastPlace,
    abs_of_pos hx]
  constructor
  · convert hlow using 2
    ring
  · convert hhigh using 2
    ring

theorem digits_le (hx : 0 < x) : digits b p x ≤ (b : ℤ) ^ p := by
  apply roundHalfEven_le_of_lt
  have h := (scaled_bounds (p := p) hb hx).2
  rw [zpow_natCast] at h
  exact_mod_cast h

theorem roundSig_le_next (hx : 0 < x) : roundSig b p x ≤ (b : ℚ) ^ (Int.log b x + 1) := by
  have hd : (digits b p x : ℚ) ≤ (b : ℚ) ^ (p : ℤ) := by
    rw [zpow_natCast]
    exact_mod_cast digits_le hb hx
  calc roundSig b p x ≤ (b : ℚ) ^ (p : ℤ) * (b : ℚ) ^ lastPlace b p x :=
        mul_le_mul_of_nonneg_right hd (base_zpow_pos hb _).le
    _ = (b : ℚ) ^ (Int.log b x + 1) := by
      rw [← base_zpow_add hb, lastPlace, abs_of_pos hx]
      congr 1
      ring

theorem roundSig_error (x : ℚ) :
    |roundSig b p x - x| ≤ (b : ℚ) ^ lastPlace b p x / 2 := by
  have hpos := base_zpow_pos hb (lastPlace b p x)
  have he := roundHalfEven_error (x / (b : ℚ) ^ lastPlace b p x)
  have hsplit : roundSig b p x - x =
      (digits b p x - x / (b : ℚ) ^ lastPlace b p x) * (b : ℚ) ^ lastPlace b p x := by
    rw [sub_mul, div_mul_cancel₀ _ hpos.ne']
    rfl
  rw [hsplit, abs_mul, abs_of_pos hpos]
  calc _ ≤ 1 / 2 * (b : ℚ) ^ lastPlace b p x := mul_le_mul_of_nonneg_right he hpos.le
    _ = _ := by ring

theorem representable_on_grid (hx : Representable b p x) {e : ℤ}
    (hpos : 0 < x) (he : e ≤ Int.log b x - (p - 1)) : ∃ n : ℤ, x = n * (b : ℚ) ^ e := by
  obtain ⟨m, k, hm, rfl⟩ := hx
  have hlt : (m : ℚ) * (b : ℚ) ^ k < (b : ℚ) ^ ((p : ℤ) + k) := by
    rw [base_zpow_add hb, zpow_natCast]
    exact mul_lt_mul_of_pos_right (by exact_mod_cast hm) (base_zpow_pos hb k)
  have hlog := (Int.lt_zpow_iff_log_lt hb hpos).mp hlt
  have hek : 0 ≤ k - e := by omega
  refine ⟨m * (b : ℤ) ^ (k - e).toNat, ?_⟩
  have hk : (b : ℚ) ^ k = (b : ℚ) ^ (k - e).toNat * (b : ℚ) ^ e := by
    rw [← zpow_natCast, Int.toNat_of_nonneg hek, ← base_zpow_add hb]
    congr 1
    ring
  rw [hk]
  push_cast
  ring

theorem roundSig_of_representable (hx : 0 ≤ x) (h : Representable b p x) : roundSig b p x = x := by
  rcases hx.eq_or_lt with rfl | hpos
  · exact roundSig_zero b p
  · obtain ⟨n, hn⟩ := representable_on_grid hb h hpos (le_refl _)
    have hlp : lastPlace b p x = Int.log b x - (p - 1) := by rw [lastPlace, abs_of_pos hpos]
    have hscaled : x / (b : ℚ) ^ lastPlace b p x = n := by
      rw [hlp, div_eq_iff (base_zpow_pos hb _).ne']
      exact hn
    rw [roundSig, digits, hscaled, roundHalfEven_intCast, hlp]
    exact hn.symm

theorem representable_of_roundSig (hx : 0 ≤ x) (h : roundSig b p x = x) : Representable b p x := by
  rcases hx.eq_or_lt with rfl | hpos
  · exact ⟨0, 0, pow_pos (Nat.zero_lt_of_lt hb) p, by simp⟩
  · have hz := base_zpow_pos hb (lastPlace b p x)
    obtain ⟨hlow, hhigh⟩ := scaled_bounds (p := p) hb hpos
    have hd : x / (b : ℚ) ^ lastPlace b p x = digits b p x := by
      rw [div_eq_iff hz.ne']
      exact h.symm
    rw [hd] at hlow hhigh
    have hnn : 0 ≤ digits b p x := by
      have := (base_zpow_pos hb ((p : ℤ) - 1)).trans_le hlow
      exact_mod_cast this.le
    refine ⟨(digits b p x).toNat, lastPlace b p x, ?_, ?_⟩
    · rw [zpow_natCast] at hhigh
      have hlt : digits b p x < (b : ℤ) ^ p := by exact_mod_cast hhigh
      zify
      rwa [Int.toNat_of_nonneg hnn]
    · have hc : (((digits b p x).toNat : ℕ) : ℚ) = digits b p x := by
        exact_mod_cast congrArg (fun n : ℤ => (n : ℚ)) (Int.toNat_of_nonneg hnn)
      rw [hc]
      exact h.symm

/-- The rounding keeps exactly the numbers that have at most `p` digits. -/
theorem roundSig_eq_self_iff (hx : 0 ≤ x) : roundSig b p x = x ↔ Representable b p x :=
  ⟨representable_of_roundSig hb hx, roundSig_of_representable hb hx⟩

include hp in
theorem zpow_log_le_roundSig (hx : 0 < x) : (b : ℚ) ^ Int.log b x ≤ roundSig b p x := by
  have hlow := (scaled_bounds (p := p) hb hx).1
  have hcast : (b : ℚ) ^ ((p : ℤ) - 1) = (((b : ℤ) ^ (p - 1) : ℤ) : ℚ) := by
    rw [← Nat.cast_pred hp, zpow_natCast]
    push_cast
    rfl
  rw [hcast] at hlow
  have hd := le_roundHalfEven_of_le hlow
  have hdq : (b : ℚ) ^ ((p : ℤ) - 1) ≤ digits b p x := by
    rw [hcast]
    exact_mod_cast hd
  calc (b : ℚ) ^ Int.log b x = (b : ℚ) ^ ((p : ℤ) - 1) * (b : ℚ) ^ lastPlace b p x := by
        rw [← base_zpow_add hb, lastPlace, abs_of_pos hx]
        congr 1
        ring
    _ ≤ roundSig b p x := mul_le_mul_of_nonneg_right hdq (base_zpow_pos hb _).le

include hp in
theorem roundSig_nonneg (hx : 0 ≤ x) : 0 ≤ roundSig b p x := by
  rcases hx.eq_or_lt with rfl | hpos
  · rw [roundSig_zero]
  · exact (base_zpow_pos hb _).le.trans (zpow_log_le_roundSig hb hp hpos)

include hp in
theorem roundSig_mono (hx : 0 ≤ x) (h : x ≤ y) : roundSig b p x ≤ roundSig b p y := by
  rcases hx.eq_or_lt with rfl | hpos
  · rw [roundSig_zero]
    exact roundSig_nonneg hb hp h
  · have hy : 0 < y := hpos.trans_le h
    have hlog := Int.log_mono_right (b := b) hpos h
    rcases lt_or_eq_of_le hlog with hlt | heq
    · calc roundSig b p x ≤ (b : ℚ) ^ (Int.log b x + 1) := roundSig_le_next hb hpos
        _ ≤ (b : ℚ) ^ Int.log b y := base_zpow_le hb hlt
        _ ≤ roundSig b p y := zpow_log_le_roundSig hb hp hy
    · have hlp : lastPlace b p x = lastPlace b p y := by
        rw [lastPlace, lastPlace, abs_of_pos hpos, abs_of_pos hy, heq]
      have hz := base_zpow_pos hb (lastPlace b p y)
      rw [roundSig, roundSig, digits, digits, hlp]
      apply mul_le_mul_of_nonneg_right _ hz.le
      exact_mod_cast roundHalfEven_mono (div_le_div_of_nonneg_right h hz.le)

theorem roundSig_nonpos (hx : x ≤ 0) : roundSig b p x ≤ 0 := by
  have hz := base_zpow_pos hb (lastPlace b p x)
  have hscaled : x / (b : ℚ) ^ lastPlace b p x ≤ ((0 : ℤ) : ℚ) := by
    rw [Int.cast_zero]
    exact div_nonpos_of_nonpos_of_nonneg hx hz.le
  have hd : digits b p x ≤ 0 := by
    have h := roundHalfEven_mono hscaled
    rwa [roundHalfEven_intCast] at h
  exact mul_nonpos_of_nonpos_of_nonneg (by exact_mod_cast hd) hz.le

/-- Below one the error is at most half a unit of the `p`-th place. -/
theorem roundSig_error_below_one (hx : 0 ≤ x) (h1 : x < 1) :
    |roundSig b p x - x| ≤ (b : ℚ) ^ (-(p : ℤ)) / 2 := by
  rcases hx.eq_or_lt with rfl | hpos
  · rw [roundSig_zero, sub_zero, abs_zero]
    exact div_nonneg (base_zpow_pos hb _).le (by norm_num)
  · have hlog : Int.log b x < 0 := by
      by_contra hneg
      have hone : (1 : ℚ) ≤ (b : ℚ) ^ Int.log b x := by
        simpa using base_zpow_le hb (not_lt.mp hneg)
      linarith [Int.zpow_log_le_self hb hpos]
    have hplace : lastPlace b p x ≤ -(p : ℤ) := by
      rw [lastPlace, abs_of_pos hpos]
      omega
    exact (roundSig_error hb x).trans
      (div_le_div_of_nonneg_right (base_zpow_le hb hplace) (by norm_num))

end Bounds
end AegisGateway.SignificantDigits
