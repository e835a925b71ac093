import HttpContract.Proofs.Number.Binary64
import Mathlib.Algebra.Order.Field.Power
import Mathlib.Data.Rat.Cast.Order
import Mathlib.Tactic.FieldSimp
import Mathlib.Tactic.Linarith
import Mathlib.Tactic.NormNum
import Mathlib.Tactic.Positivity

/-! How far a rounded ratio lies from the ratio, and which ratios are rounded to a finite value. -/
namespace HttpContract
namespace Binary64

def toRat (x : Binary64) : ℚ := x.significand * 2 ^ x.exponent

/-- Half a unit in the last of 53 digits, for a significand of one. -/
def unit : ℚ := 1 / 2 ^ 53

theorem natCast_pow2_toNat {exponent : ℤ} (h : 0 ≤ exponent) :
    ((pow2 exponent.toNat : ℕ) : ℚ) = 2 ^ exponent := by
  rw [pow2_eq, Nat.cast_pow, Nat.cast_ofNat, ← zpow_natCast, Int.toNat_of_nonneg h]

@[simp] theorem ratio_div (x : Binary64) : (x.ratio.1 : ℚ) / x.ratio.2 = x.toRat := by
  rw [ratio, toRat]
  split
  next whole => rw [Nat.cast_mul, natCast_pow2_toNat whole, Nat.cast_one, div_one]
  next below =>
    have positive : 0 ≤ -x.exponent := by omega
    rw [natCast_pow2_toNat positive, zpow_neg, div_inv_eq_mul]

theorem scale_div (num den : ℕ) (exponent : ℤ) :
    ((scale num den exponent).1 : ℚ) / (scale num den exponent).2 = num / den / 2 ^ exponent := by
  rw [scale]
  split
  next whole => rw [Nat.cast_mul, natCast_pow2_toNat whole, div_mul_eq_div_div]
  next below =>
    have positive : 0 ≤ -exponent := by omega
    rw [Nat.cast_mul, natCast_pow2_toNat positive, zpow_neg, div_eq_mul_inv _ (2 ^ exponent : ℚ)]
    ring

@[simp] theorem scale_snd_pos (num : ℕ) {den : ℕ} (hd : 0 < den) (exponent : ℤ) :
    0 < (scale num den exponent).2 := by
  rw [scale]
  split
  · exact Nat.mul_pos hd (Nat.two_pow_pos _)
  · exact hd

/-- The rounding moves a numerator by no more than half the denominator. -/
theorem two_mul_roundRatio_bounds (num : ℕ) {den : ℕ} (hd : 0 < den) :
    2 * num ≤ 2 * (den * roundRatio num den) + den ∧
      2 * (den * roundRatio num den) ≤ 2 * num + den := by
  have whole := Nat.div_add_mod num den
  have small := Nat.mod_lt num hd
  unfold roundRatio
  dsimp only
  split_ifs with below above
  · omega
  · rw [Nat.mul_add]
    omega
  · obtain even | odd := Nat.mod_two_eq_zero_or_one (num / den)
    · rw [even, Nat.add_zero]
      omega
    · rw [odd, Nat.mul_add]
      omega

theorem abs_roundRatio_sub_le (num : ℕ) {den : ℕ} (hd : 0 < den) :
    |(roundRatio num den : ℚ) - num / den| ≤ 1 / 2 := by
  have positive : (0 : ℚ) < den := by exact_mod_cast hd
  obtain ⟨lower, upper⟩ := two_mul_roundRatio_bounds num hd
  have lower : (2 * num : ℚ) ≤ 2 * (den * roundRatio num den) + den := by exact_mod_cast lower
  have upper : (2 * (den * roundRatio num den) : ℚ) ≤ 2 * num + den := by exact_mod_cast upper
  have quotient : (num : ℚ) = den * (num / den) := by field_simp
  rw [quotient] at lower upper
  rw [abs_le]
  constructor <;> nlinarith

theorem zpow_log2_bounds {n : ℕ} (hn : n ≠ 0) :
    (2 : ℚ) ^ (n.log2 : ℤ) ≤ n ∧ (n : ℚ) < 2 ^ ((n.log2 : ℤ) + 1) := by
  constructor
  · rw [zpow_natCast]
    exact_mod_cast Nat.log2_self_le hn
  · rw [← Nat.cast_succ, zpow_natCast]
    exact_mod_cast Nat.lt_log2_self

section

variable {num den : ℕ}

/-- In units of a power of two that is 52 digits below the first one, a ratio is as great as a
number of 52 or 53 digits. -/
theorem div_zpow_bounds (hn : num ≠ 0) (hd : den ≠ 0) :
    2 ^ 51 < (num / den / 2 ^ ((num.log2 : ℤ) - den.log2 - 52) : ℚ) ∧
      (num / den / 2 ^ ((num.log2 : ℤ) - den.log2 - 52) : ℚ) < 2 ^ 53 := by
  obtain ⟨numLower, numUpper⟩ := zpow_log2_bounds hn
  obtain ⟨denLower, denUpper⟩ := zpow_log2_bounds hd
  have two : (2 : ℚ) ≠ 0 := two_ne_zero
  have positive : (0 : ℚ) < den := by exact_mod_cast Nat.pos_of_ne_zero hd
  rw [lt_div_iff₀ (by positivity), div_lt_iff₀ (by positivity), lt_div_iff₀ positive,
    div_lt_iff₀ positive]
  constructor
  · calc (2 ^ 51 * 2 ^ ((num.log2 : ℤ) - den.log2 - 52) * den : ℚ)
        < 2 ^ 51 * 2 ^ ((num.log2 : ℤ) - den.log2 - 52) * 2 ^ ((den.log2 : ℤ) + 1) :=
          mul_lt_mul_of_pos_left denUpper (by positivity)
      _ = 2 ^ (num.log2 : ℤ) := by
        rw [← zpow_natCast, ← zpow_add₀ two, ← zpow_add₀ two]
        congr 1
        push_cast
        ring
      _ ≤ num := numLower
  · calc (num : ℚ) < 2 ^ ((num.log2 : ℤ) + 1) := numUpper
      _ = 2 ^ 53 * 2 ^ ((num.log2 : ℤ) - den.log2 - 52) * 2 ^ (den.log2 : ℤ) := by
        rw [← zpow_natCast, ← zpow_add₀ two, ← zpow_add₀ two]
        congr 1
        push_cast
        ring
      _ ≤ 2 ^ 53 * 2 ^ ((num.log2 : ℤ) - den.log2 - 52) * den :=
          mul_le_mul_of_nonneg_left denLower (by positivity)

/-- The fitting exponent gives a ratio of no less than one half a significand of 53 digits. -/
theorem div_zpow_fittingExponent (hd : den ≠ 0) (h : den ≤ 2 * num) :
    2 ^ 52 ≤ (num / den / 2 ^ fittingExponent num den : ℚ) ∧
      (num / den / 2 ^ fittingExponent num den : ℚ) < 2 ^ 53 := by
  have hn : num ≠ 0 := by omega
  obtain ⟨lower, upper⟩ := div_zpow_bounds hn hd
  have logs : den.log2 ≤ num.log2 + 1 := by
    rw [← Nat.log2_two_mul hn, Nat.le_log2 (Nat.mul_ne_zero two_ne_zero hn)]
    exact (Nat.log2_self_le hd).trans h
  unfold fittingExponent
  dsimp only
  generalize guess : (num.log2 : ℤ) - den.log2 - 52 = exponent at lower upper ⊢
  have positive := scale_snd_pos num (Nat.pos_of_ne_zero hd) exponent
  have below : (scale num den exponent).1 < leastSignificand * (scale num den exponent).2 ↔
      (num / den / 2 ^ exponent : ℚ) < 2 ^ 52 := by
    have least : (leastSignificand : ℚ) = 2 ^ 52 := by norm_num [leastSignificand]
    rw [← scale_div, div_lt_iff₀ (by exact_mod_cast positive), ← least]
    exact_mod_cast Iff.rfl
  rw [minExponent]
  split
  next few =>
    have double : (num / den / 2 ^ (exponent - 1) : ℚ) = 2 * (num / den / 2 ^ exponent) := by
      rw [zpow_sub_one₀ two_ne_zero]
      field_simp
    have small := below.1 few
    rw [max_eq_right (by omega), double]
    constructor <;> linarith
  next enough =>
    rw [max_eq_right (by omega)]
    exact ⟨not_lt.1 (mt below.2 enough), upper⟩

/-- A ratio of no less than one half is rounded to the nearest multiple of a power of two of which
it has 53 digits; one exponent further if the digits are rounded up to a power of two. -/
theorem exists_rounding (hd : den ≠ 0) (h : den ≤ 2 * num) : ∃ (significand : ℕ) (exponent : ℤ),
    (ofRatio num den = ⟨significand, exponent⟩ ∨
      significand = 2 * leastSignificand ∧ ofRatio num den = ⟨leastSignificand, exponent + 1⟩) ∧
    2 ^ 52 * 2 ^ exponent ≤ (num / den : ℚ) ∧ (num / den : ℚ) < 2 ^ 53 * 2 ^ exponent ∧
    |(significand * 2 ^ exponent : ℚ) - num / den| ≤ 1 / 2 * 2 ^ exponent := by
  have hn : num ≠ 0 := by omega
  obtain ⟨significand, rounded, result⟩ := ofRatio_cases hn den
  obtain ⟨lower, upper⟩ := div_zpow_fittingExponent hd h
  have near := abs_roundRatio_sub_le (scale num den (fittingExponent num den)).1
    (scale_snd_pos num (Nat.pos_of_ne_zero hd) (fittingExponent num den))
  rw [← rounded, scale_div] at near
  generalize fittingExponent num den = exponent at *
  have power : (0 : ℚ) < 2 ^ exponent := by positivity
  rw [le_div_iff₀ power] at lower
  rw [div_lt_iff₀ power] at upper
  refine ⟨significand, exponent, result, lower, upper, ?_⟩
  calc |(significand * 2 ^ exponent : ℚ) - num / den|
      = |(significand : ℚ) - num / den / 2 ^ exponent| * 2 ^ exponent := by
        rw [← abs_of_pos power, ← abs_mul, abs_of_pos power, sub_mul,
          div_mul_cancel₀ _ power.ne']
    _ ≤ 1 / 2 * 2 ^ exponent := mul_le_mul_of_nonneg_right near power.le

/-- A rounded ratio has 53 right digits. -/
theorem abs_toRat_ofRatio_sub_le (hd : den ≠ 0) (h : den ≤ 2 * num) :
    |(ofRatio num den).toRat - num / den| ≤ unit * (num / den) := by
  obtain ⟨significand, exponent, result, lower, -, near⟩ := exists_rounding hd h
  have value : (ofRatio num den).toRat = significand * 2 ^ exponent := by
    obtain same | ⟨full, same⟩ := result
    · rw [same, toRat]
    · rw [same, toRat, full, zpow_add_one₀ two_ne_zero]
      push_cast
      ring
  rw [value, unit]
  linarith

/-- The first power of two beyond the finite values. -/
def limit : ℚ := 2 ^ 1024

@[simp] theorem limit_pos : 0 < limit := by
  rw [limit]
  positivity

theorem limit_eq (few many : ℕ) (h : few + many = 1024) : limit = 2 ^ few * 2 ^ (many : ℤ) := by
  rw [limit, zpow_natCast, ← pow_add, h]

/-- What lies below the middle between the greatest finite value and the limit is rounded to a
finite value. -/
theorem isFinite_of_div_lt (hd : den ≠ 0) (h : den ≤ 2 * num)
    (few : (num / den : ℚ) < (1 - unit / 2) * limit) : (ofRatio num den).isFinite = true := by
  obtain ⟨significand, exponent, result, lower, -, near⟩ := exists_rounding hd h
  have inside : (num / den : ℚ) < limit :=
    few.trans_le (mul_le_of_le_one_left limit_pos.le (by norm_num [unit]))
  have below : exponent < 972 := by
    rw [limit_eq 52 972 rfl] at inside
    exact (zpow_lt_zpow_iff_right₀ one_lt_two).1
      (lt_of_mul_lt_mul_left (lower.trans_lt inside) (by positivity))
  rw [isFinite, maxExponent, decide_eq_true_eq]
  obtain same | ⟨full, same⟩ := result
  · rw [same]
    exact Int.lt_add_one_iff.1 below
  · rw [same]
    -- Were the digits rounded up at the greatest exponent, the ratio would lie beyond the middle.
    refine Int.lt_iff_add_one_le.1 (lt_of_le_of_ne (Int.lt_add_one_iff.1 below) fun top => ?_)
    have whole : limit = 2 ^ 53 * 2 ^ exponent := top ▸ limit_eq 53 971 rfl
    have up := (abs_le.1 near).2
    rw [full, leastSignificand] at up
    push_cast at up
    rw [whole, unit] at few
    linarith

/-- What reaches the limit is not rounded to a finite value. -/
theorem isFinite_of_limit_le (hd : den ≠ 0) (h : den ≤ 2 * num) (many : limit ≤ (num / den : ℚ)) :
    (ofRatio num den).isFinite = false := by
  obtain ⟨significand, exponent, result, -, upper, -⟩ := exists_rounding hd h
  have above : 971 < exponent := by
    rw [limit_eq 53 971 rfl] at many
    exact (zpow_lt_zpow_iff_right₀ one_lt_two).1
      (lt_of_mul_lt_mul_left (many.trans_lt upper) (by positivity))
  rw [isFinite, maxExponent, decide_eq_false_iff_not, not_le]
  obtain same | ⟨-, same⟩ := result <;> rw [same]
  · exact above
  · exact above.trans (Int.lt_succ exponent)

end

/-! Products of rounded whole numbers. -/

section

variable {a b : ℕ}

theorem abs_toRat_ofNat_sub_le (ha : a ≠ 0) : |(ofNat a).toRat - a| ≤ unit * a := by
  have bound := abs_toRat_ofRatio_sub_le one_ne_zero (show 1 ≤ 2 * a by omega)
  rwa [Nat.cast_one, div_one] at bound

theorem mul_ratio_div (x y : Binary64) :
    ((x.ratio.1 * y.ratio.1 : ℕ) : ℚ) / (x.ratio.2 * y.ratio.2 : ℕ) = x.toRat * y.toRat := by
  rw [Nat.cast_mul, Nat.cast_mul, mul_div_mul_comm, ratio_div, ratio_div]

theorem toRat_mul_toRat_bounds (ha : a ≠ 0) (hb : b ≠ 0) :
    (1 - unit) ^ 2 * (a * b) ≤ (ofNat a).toRat * (ofNat b).toRat ∧
      (ofNat a).toRat * (ofNat b).toRat ≤ (1 + unit) ^ 2 * (a * b) := by
  obtain ⟨lowerA, upperA⟩ := abs_le.1 (abs_toRat_ofNat_sub_le ha)
  obtain ⟨lowerB, upperB⟩ := abs_le.1 (abs_toRat_ofNat_sub_le hb)
  have small : (0 : ℚ) ≤ 1 - unit := by norm_num [unit]
  have lowerA : (1 - unit) * a ≤ (ofNat a).toRat := by linarith
  have upperA : (ofNat a).toRat ≤ (1 + unit) * a := by linarith
  have lowerB : (1 - unit) * b ≤ (ofNat b).toRat := by linarith
  have upperB : (ofNat b).toRat ≤ (1 + unit) * b := by linarith
  have positiveA : (0 : ℚ) ≤ (1 - unit) * a := by positivity
  have positiveB : (0 : ℚ) ≤ (1 - unit) * b := by positivity
  constructor
  · calc (1 - unit) ^ 2 * (a * b : ℚ) = (1 - unit) * a * ((1 - unit) * b) := by ring
      _ ≤ (ofNat a).toRat * (ofNat b).toRat :=
        mul_le_mul lowerA lowerB positiveB (positiveA.trans lowerA)
  · calc (ofNat a).toRat * (ofNat b).toRat ≤ (1 + unit) * a * ((1 + unit) * b) :=
        mul_le_mul upperA upperB (positiveB.trans lowerB) ((positiveA.trans lowerA).trans upperA)
      _ = (1 + unit) ^ 2 * (a * b) := by ring

theorem ratio_mul_le (ha : a ≠ 0) (hb : b ≠ 0) :
    (ofNat a).ratio.2 * (ofNat b).ratio.2 ≤ 2 * ((ofNat a).ratio.1 * (ofNat b).ratio.1) := by
  have den := Nat.pos_of_ne_zero (Nat.mul_ne_zero (ratio_snd_ne_zero (ofNat a))
    (ratio_snd_ne_zero (ofNat b)))
  have product : (1 : ℚ) ≤ a * b := by
    exact_mod_cast Nat.pos_of_ne_zero (Nat.mul_ne_zero ha hb)
  have half : (1 / 2 : ℚ) ≤ (ofNat a).toRat * (ofNat b).toRat := calc
    (1 / 2 : ℚ) ≤ (1 - unit) ^ 2 * 1 := by norm_num [unit]
    _ ≤ (1 - unit) ^ 2 * (a * b) := mul_le_mul_of_nonneg_left product (sq_nonneg _)
    _ ≤ _ := (toRat_mul_toRat_bounds ha hb).1
  rw [← mul_ratio_div, div_le_div_iff₀ two_pos (by exact_mod_cast den), one_mul] at half
  rw [Nat.mul_comm 2]
  exact_mod_cast half

theorem isFinite_mul_of_lt (ha : a ≠ 0) (hb : b ≠ 0)
    (few : (1 + unit) ^ 2 * (a * b : ℚ) < (1 - unit / 2) * limit) :
    ((ofNat a).mul (ofNat b)).isFinite = true := by
  refine isFinite_of_div_lt (Nat.mul_ne_zero (ratio_snd_ne_zero _) (ratio_snd_ne_zero _))
    (ratio_mul_le ha hb) ?_
  rw [mul_ratio_div]
  exact (toRat_mul_toRat_bounds ha hb).2.trans_lt few

theorem isFinite_mul_of_le (ha : a ≠ 0) (hb : b ≠ 0)
    (many : limit ≤ (1 - unit) ^ 2 * (a * b : ℚ)) :
    ((ofNat a).mul (ofNat b)).isFinite = false := by
  refine isFinite_of_limit_le (Nat.mul_ne_zero (ratio_snd_ne_zero _) (ratio_snd_ne_zero _))
    (ratio_mul_le ha hb) ?_
  rw [mul_ratio_div]
  exact many.trans (toRat_mul_toRat_bounds ha hb).1

end

end Binary64
end HttpContract
