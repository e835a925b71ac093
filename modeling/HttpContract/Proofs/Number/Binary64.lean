import HttpContract.Number.Binary64
import Mathlib.Data.Nat.Init
import Mathlib.Tactic.Ring

/-! Bounds for rounded ratios: what a ratio is rounded to is not much greater than its numerator,
and it is finite unless the numerator lies beyond the greatest finite value. -/
namespace HttpContract

theorem pow2_eq (n : Nat) : pow2 n = 2 ^ n := rfl

theorem pow10_eq (n : Nat) : pow10 n = 10 ^ n := rfl

theorem pow10_lt (n : Nat) : pow10 n < 2 ^ (4 * n + 1) := calc
  pow10 n = 10 ^ n := rfl
  _ ≤ (2 ^ 4) ^ n := Nat.pow_le_pow_left (by decide) n
  _ = 2 ^ (4 * n) := (Nat.pow_mul ..).symm
  _ < 2 ^ (4 * n + 1) := Nat.pow_lt_pow_right (by decide) (Nat.lt_succ_self _)

namespace Binary64

theorem roundRatio_le (num den : Nat) : roundRatio num den ≤ num / den + 1 := by
  unfold roundRatio
  dsimp only
  split_ifs <;> omega

theorem fittingExponent_bounds (num den : Nat) :
    (num.log2 : Int) - den.log2 - 53 ≤ fittingExponent num den ∧
      fittingExponent num den ≤ max minExponent ((num.log2 : Int) - den.log2 - 52) := by
  unfold fittingExponent
  dsimp only
  split <;> omega

/-- With an exponent below zero the fitting significand has few digits. -/
theorem scaled_lt {num den : Nat} (hd : den ≠ 0) (h : fittingExponent num den < 0) :
    num * pow2 (-fittingExponent num den).toNat / den < 2 ^ 54 := by
  have lower := (fittingExponent_bounds num den).1
  rw [Nat.div_lt_iff_lt_mul (Nat.pos_of_ne_zero hd), pow2_eq]
  calc num * 2 ^ (-fittingExponent num den).toNat
      < 2 ^ (num.log2 + 1) * 2 ^ (-fittingExponent num den).toNat :=
        Nat.mul_lt_mul_of_pos_right Nat.lt_log2_self (Nat.two_pow_pos _)
    _ = 2 ^ (num.log2 + 1 + (-fittingExponent num den).toNat) := (Nat.pow_add ..).symm
    _ ≤ 2 ^ (54 + den.log2) := Nat.pow_le_pow_right (by decide) (by omega)
    _ = 2 ^ 54 * 2 ^ den.log2 := Nat.pow_add ..
    _ ≤ 2 ^ 54 * den := Nat.mul_le_mul_left _ (Nat.log2_self_le hd)

/-- With another exponent the numerator is as great as the power of two. -/
theorem scaled_le {num den : Nat} (hn : num ≠ 0) (hd : den ≠ 0) :
    (num / (den * pow2 (fittingExponent num den).toNat) + 1) *
      pow2 (fittingExponent num den).toNat ≤ 2 * num := by
  have upper := (fittingExponent_bounds num den).2
  rw [minExponent] at upper
  rw [pow2_eq]
  generalize power : (fittingExponent num den).toNat = exponent
  have small : 2 ^ exponent ≤ num := calc
    2 ^ exponent ≤ 2 ^ num.log2 := Nat.pow_le_pow_right (by decide) (by omega)
    _ ≤ num := Nat.log2_self_le hn
  have quotient : num / (den * 2 ^ exponent) * 2 ^ exponent ≤ num := calc
    num / (den * 2 ^ exponent) * 2 ^ exponent
      ≤ num / (den * 2 ^ exponent) * (den * 2 ^ exponent) :=
        Nat.mul_le_mul_left _ (Nat.le_mul_of_pos_left _ (Nat.pos_of_ne_zero hd))
    _ ≤ num := Nat.div_mul_le_self ..
  rw [Nat.add_mul, Nat.one_mul]
  omega

theorem ofRatio_cases {num : Nat} (hn : num ≠ 0) (den : Nat) :
    ∃ significand, significand = roundRatio (scale num den (fittingExponent num den)).1
        (scale num den (fittingExponent num den)).2 ∧
      (ofRatio num den = ⟨significand, fittingExponent num den⟩ ∨
        significand = 2 * leastSignificand ∧
          ofRatio num den = ⟨leastSignificand, fittingExponent num den + 1⟩) := by
  refine ⟨_, rfl, ?_⟩
  rw [ofRatio, if_neg hn]
  dsimp only
  split
  next full => exact .inr ⟨full, rfl⟩
  next => exact .inl rfl

/-- The rounding may take one bit more, and the format has room for it. -/
theorem isFinite_ofRatio {num bits : Nat} (den : Nat) (h : num < 2 ^ bits) (few : bits ≤ 1023) :
    (ofRatio num den).isFinite = true := by
  by_cases zero : num = 0
  · rw [ofRatio, if_pos zero]
    rfl
  have upper := (fittingExponent_bounds num den).2
  have log : num.log2 < bits := (Nat.log2_lt zero).2 h
  rw [minExponent] at upper
  rw [isFinite, maxExponent, decide_eq_true_eq]
  obtain ⟨significand, -, same | ⟨-, same⟩⟩ := ofRatio_cases zero den <;> rw [same] <;>
    dsimp only <;> omega

theorem ratio_ofRatio_le_of_nonneg {num den : Nat} (hn : num ≠ 0) (hd : den ≠ 0)
    (whole : 0 ≤ fittingExponent num den) : (ofRatio num den).ratio.1 ≤ 2 * num := by
  obtain ⟨significand, rounded, result⟩ := ofRatio_cases hn den
  simp only [scale, whole, if_true] at rounded
  -- A significand that is rounded up to a power of two has the same value one exponent further.
  have value : (ofRatio num den).ratio.1 =
      significand * pow2 (fittingExponent num den).toNat := by
    obtain same | ⟨full, same⟩ := result
    · simp [same, ratio, whole]
    · have next : (fittingExponent num den + 1).toNat = (fittingExponent num den).toNat + 1 := by
        omega
      have above : 0 ≤ fittingExponent num den + 1 := by omega
      simp only [same, ratio, above, if_true, full, next, pow2_eq, pow_succ]
      ring
  calc (ofRatio num den).ratio.1 = significand * pow2 (fittingExponent num den).toNat := value
    _ ≤ (num / (den * pow2 (fittingExponent num den).toNat) + 1) *
        pow2 (fittingExponent num den).toNat :=
      Nat.mul_le_mul_right _ (rounded ▸ roundRatio_le ..)
    _ ≤ 2 * num := scaled_le hn hd

theorem ratio_ofRatio_le_of_neg {num den : Nat} (hn : num ≠ 0) (hd : den ≠ 0)
    (below : fittingExponent num den < 0) : (ofRatio num den).ratio.1 ≤ 2 ^ 54 := by
  have whole : ¬ 0 ≤ fittingExponent num den := Int.not_le.2 below
  obtain ⟨significand, rounded, same | ⟨-, same⟩⟩ := ofRatio_cases hn den
  · simp only [scale, whole, if_false] at rounded
    have few : significand ≤ 2 ^ 54 := (rounded ▸ roundRatio_le ..).trans (scaled_lt hd below)
    simpa [same, ratio, whole] using few
  · rw [same, ratio]
    dsimp only
    split
    next edge =>
      have zero : (fittingExponent num den + 1).toNat = 0 := by omega
      rw [zero]
      decide
    next => exact (by decide : leastSignificand ≤ 2 ^ 54)

theorem ratio_ofRatio_le (num : Nat) {den : Nat} (hd : den ≠ 0) :
    (ofRatio num den).ratio.1 ≤ 2 ^ 54 * num := by
  by_cases hn : num = 0
  · rw [ofRatio, if_pos hn]
    exact Nat.zero_le _
  by_cases whole : 0 ≤ fittingExponent num den
  · exact (ratio_ofRatio_le_of_nonneg hn hd whole).trans (Nat.mul_le_mul_right _ (by decide))
  · exact (ratio_ofRatio_le_of_neg hn hd (Int.not_le.1 whole)).trans
      (Nat.le_mul_of_pos_right _ (Nat.pos_of_ne_zero hn))

@[simp] theorem ratio_snd_ne_zero (x : Binary64) : x.ratio.2 ≠ 0 := by
  rw [ratio]
  split
  · exact Nat.one_ne_zero
  · exact (Nat.two_pow_pos _).ne'

section

variable {x y : Binary64} {bits more : Nat}

theorem ratio_ofRatio_lt {num den : Nat} (hd : den ≠ 0) (h : num < 2 ^ bits) :
    (ofRatio num den).ratio.1 < 2 ^ (54 + bits) := by
  rw [Nat.pow_add]
  exact (ratio_ofRatio_le num hd).trans_lt (Nat.mul_lt_mul_of_pos_left h (Nat.two_pow_pos 54))

theorem mul_lt_pow {a b : Nat} (ha : a < 2 ^ bits) (hb : b < 2 ^ more) :
    a * b < 2 ^ (bits + more) := by
  rw [Nat.pow_add]
  exact Nat.mul_lt_mul'' ha hb

theorem isFinite_mul (hx : x.ratio.1 < 2 ^ bits) (hy : y.ratio.1 < 2 ^ more)
    (few : bits + more ≤ 1023) : (x.mul y).isFinite = true :=
  isFinite_ofRatio _ (mul_lt_pow hx hy) few

theorem ratio_div_lt (hx : x.ratio.1 < 2 ^ bits) (hy : y.ratio.2 < 2 ^ more)
    (some_y : y.ratio.1 ≠ 0) : (x.div y).ratio.1 < 2 ^ (54 + (bits + more)) :=
  ratio_ofRatio_lt (Nat.mul_ne_zero (ratio_snd_ne_zero x) some_y) (mul_lt_pow hx hy)

end

end Binary64
end HttpContract
