import HttpContract.Proofs.Json.Number
import HttpContract.Proofs.Json.Numeral
import HttpContract.Proofs.Number.Rounding

/-! Which written numbers are too great: only the first digits count, and they are rounded, as is
the power of ten. A number that lies far enough below the limit of the binary values is read, and
one that lies far enough beyond it is not. -/
namespace HttpContract
namespace Json

def Exponent.toInt (power : Exponent) : ℤ :=
  if power.isNegative then -(digitsValue power.digits : ℤ) else digitsValue power.digits

def Numeral.magnitude (n : Numeral) : ℚ :=
  digitsValue (n.whole ++ n.fraction) * 10 ^ (n.power.toInt - n.fraction.length)

theorem Numeral.magnitude_power (whole digits : Text) : magnitude ⟨whole, [], ⟨false, digits⟩⟩ =
    (digitsValue whole * 10 ^ digitsValue digits : ℕ) := by
  simp [magnitude, Exponent.toInt]

/-! The first digits. -/

@[simp] theorem valueBehind_append (value : ℕ) (front back : Text) :
    valueBehind value (front ++ back) = valueBehind (valueBehind value front) back :=
  List.foldl_append

theorem mul_le_valueBehind (value : ℕ) (digits : Text) :
    value * 10 ^ digits.length ≤ valueBehind value digits := by
  induction digits generalizing value with
  | nil => simp [valueBehind]
  | cons c digits ih => calc
      value * 10 ^ (c :: digits).length = value * 10 * 10 ^ digits.length := by
        rw [List.length_cons, pow_succ]
        ring
      _ ≤ (value * 10 + digitOf c) * 10 ^ digits.length :=
        Nat.mul_le_mul_right _ (Nat.le_add_right _ _)
      _ ≤ valueBehind value (c :: digits) := ih _

/-- Where the digits stop to fit 64 bits. -/
theorem significand_eq_cut (value : ℕ) {digits : Text} (h : ∀ c ∈ digits, c.isDigit) :
    ∃ front back, digits = front ++ back ∧
      significand value digits = (valueBehind value front, back.length) ∧
      (back ≠ [] → 18446744073709551616 ≤ valueBehind value front * 10 + 9) := by
  fun_induction significand value digits with
  | case1 => exact ⟨[], [], rfl, rfl, fun some_left => absurd rfl some_left⟩
  | case2 value c digits next small ih =>
    obtain ⟨front, back, rfl, cut, full⟩ := ih fun d hd => h d (List.mem_cons_of_mem _ hd)
    exact ⟨c :: front, back, rfl, cut, full⟩
  | case3 value c digits next large =>
    have small := digitOf_lt (h c List.mem_cons_self)
    exact ⟨[], c :: digits, rfl, rfl, fun _ => by simp only [valueBehind, List.foldl_nil]; omega⟩

/-- Two values that agree in their first digits, as many as fill 60 bits. -/
structure Agree (x y : ℚ) : Prop where
  left : x ≤ (1 + 1 / 2 ^ 60) * y
  right : y ≤ (1 + 1 / 2 ^ 60) * x

@[simp] theorem agree_self {x : ℚ} (h : 0 ≤ x) : Agree x x :=
  ⟨by linarith, by linarith⟩

theorem agree_of_between {first : ℕ} {x y : ℚ}
    (full : 18446744073709551616 ≤ first * 10 + 9) (hx : first ≤ x ∧ x ≤ first + 1)
    (hy : first ≤ y ∧ y ≤ first + 1) : Agree x y := by
  have many : (2 ^ 60 : ℚ) ≤ first := by
    have : 2 ^ 60 ≤ first := by omega
    exact_mod_cast this
  constructor <;> linarith

theorem Agree.mul {x y scale : ℚ} (h : Agree x y) (positive : 0 < scale) :
    Agree (x * scale) (y * scale) where
  left := by
    rw [← mul_assoc]
    exact mul_le_mul_of_nonneg_right h.left positive.le
  right := by
    rw [← mul_assoc]
    exact mul_le_mul_of_nonneg_right h.right positive.le

/-- Further digits do not change the ones before. -/
theorem valueBehind_between (value : ℕ) {digits : Text} (h : ∀ c ∈ digits, c.isDigit) :
    (value : ℚ) ≤ valueBehind value digits / 10 ^ digits.length ∧
      (valueBehind value digits / 10 ^ digits.length : ℚ) ≤ value + 1 := by
  have power : (0 : ℚ) < 10 ^ digits.length := by positivity
  have lower := mul_le_valueBehind value digits
  have upper := (valueBehind_lt h value).le
  rw [le_div_iff₀ power, div_le_iff₀ power]
  constructor
  · exact_mod_cast lower
  · exact_mod_cast upper

theorem div_pow_mul_zpow (a : ℚ) (places : ℕ) (exponent : ℤ) :
    a / 10 ^ places * 10 ^ exponent = a * 10 ^ (exponent - places) := by
  rw [zpow_sub₀ (by norm_num), zpow_natCast]
  ring

/-- The digits that are looked at, shifted over the others, agree with all the digits. -/
theorem exists_significand {whole fraction : Text} (isWhole : ∀ c ∈ whole, c.isDigit)
    (isFraction : ∀ c ∈ fraction, c.isDigit) : ∃ front wholeLeft digits fractionLeft,
      significand 0 whole = (front, wholeLeft) ∧
      significand front fraction = (digits, fractionLeft) ∧
      Agree (digitsValue (whole ++ fraction) * 10 ^ (-fraction.length : ℤ))
        (digits * 10 ^ (wholeLeft - (fraction.length - fractionLeft) : ℤ)) := by
  obtain ⟨front, left, rfl, cutWhole, fullWhole⟩ := significand_eq_cut 0 isWhole
  obtain ⟨near, far, rfl, cutFraction, fullFraction⟩ :=
    significand_eq_cut (valueBehind 0 front) isFraction
  refine ⟨_, _, _, _, cutWhole, cutFraction, ?_⟩
  obtain ⟨isNear, isFar⟩ := List.forall_mem_append.1 isFraction
  have isLeft := (List.forall_mem_append.1 isWhole).2
  rw [digitsValue_eq, List.append_assoc, valueBehind_append]
  generalize valueBehind 0 front = first at *
  have shift : ((near ++ far).length - far.length : ℤ) = near.length := by simp
  rw [shift]
  by_cases more : left = []
  · -- All digits before the point are looked at.
    subst more
    have agree : Agree (valueBehind (valueBehind first near) far / 10 ^ far.length)
        (valueBehind first near) := by
      by_cases none_left : far = []
      · subst none_left
        simp [valueBehind]
      · exact agree_of_between (fullFraction none_left) (valueBehind_between _ isFar)
          ⟨le_rfl, by linarith⟩
    have power : (0 : ℚ) < 10 ^ (-near.length : ℤ) := by positivity
    have scaled := agree.mul power
    rw [div_pow_mul_zpow, ← valueBehind_append] at scaled
    have places : (-(near ++ far).length : ℤ) = -near.length - far.length := by
      push_cast [List.length_append]
      ring
    rw [places]
    simpa using scaled
  · -- The other digits take the places of those that are left over.
    have all := valueBehind_between first (List.forall_mem_append.2 ⟨isLeft, isFraction⟩)
    have some := valueBehind_between first isNear
    have power : (0 : ℚ) < 10 ^ (left.length : ℤ) := by positivity
    have scaled := (agree_of_between (fullWhole more) all some).mul power
    rw [div_pow_mul_zpow, div_pow_mul_zpow] at scaled
    have places : (-(near ++ far).length : ℤ) =
        left.length - (left ++ (near ++ far)).length := by
      push_cast [List.length_append]
      ring
    rwa [places]

/-! The limit. -/

open Binary64 (unit limit limit_pos)

section

variable {digits : ℕ} {exponent : ℤ}

theorem natCast_pow10_toNat (h : 0 ≤ exponent) :
    ((pow10 exponent.toNat : ℕ) : ℚ) = 10 ^ exponent := by
  rw [pow10_eq, Nat.cast_pow, Nat.cast_ofNat, ← zpow_natCast, Int.toNat_of_nonneg h]

@[simp] theorem pow10_ne_zero (n : ℕ) : pow10 n ≠ 0 := by
  rw [pow10_eq]
  positivity

theorem limit_lt_pow : limit < 10 ^ (309 : ℤ) := by
  have : 2 ^ 1024 < 10 ^ 309 := by decide +kernel
  rw [limit]
  exact_mod_cast this

/-- Digits whose value lies below the limit by the roundings of both factors and of the product are
not out of range. -/
theorem isOutOfRange_of_lt
    (few : (1 + unit) ^ 2 * (digits * 10 ^ exponent) < (1 - unit / 2) * limit) :
    isOutOfRange digits exponent = false := by
  by_cases zero : digits = 0
  · simp [isOutOfRange, zero]
  by_cases fraction : exponent < 0
  · simp [isOutOfRange, fraction]
  have inside : ¬ exponent > maxPower := by
    intro beyond
    have one : (1 : ℚ) ≤ digits := by exact_mod_cast Nat.pos_of_ne_zero zero
    have power : limit < 10 ^ exponent :=
      limit_lt_pow.trans_le (zpow_le_zpow_right₀ (by norm_num) beyond)
    have value : (10 ^ exponent : ℚ) ≤ (1 + unit) ^ 2 * (digits * 10 ^ exponent) := calc
      (10 ^ exponent : ℚ) = 1 * (1 * 10 ^ exponent) := by ring
      _ ≤ (1 + unit) ^ 2 * (digits * 10 ^ exponent) := by
        gcongr
        norm_num [unit]
    have most : (1 - unit / 2) * limit ≤ limit :=
      mul_le_of_le_one_left limit_pos.le (by norm_num [unit])
    linarith
  have finite := Binary64.isFinite_mul_of_lt zero (pow10_ne_zero exponent.toNat)
    (natCast_pow10_toNat (not_lt.1 fraction) ▸ few)
  simp [isOutOfRange, inside, finite]

/-- Digits whose value reaches the limit in spite of the roundings of both factors are out of
range. -/
theorem isOutOfRange_of_le (small : digits < 18446744073709551616)
    (many : limit ≤ (1 - unit) ^ 2 * (digits * 10 ^ exponent)) :
    isOutOfRange digits exponent = true := by
  have zero : digits ≠ 0 := by
    rintro rfl
    simp only [Nat.cast_zero, zero_mul, mul_zero] at many
    exact absurd limit_pos (not_lt.2 many)
  have whole : 0 ≤ exponent := by
    by_contra fraction
    have power : (10 ^ exponent : ℚ) ≤ 1 :=
      zpow_le_one_of_nonpos₀ (by norm_num) (le_of_lt (not_le.1 fraction))
    have few : (digits : ℚ) ≤ 2 ^ 64 := by exact_mod_cast small.le
    have value : (1 - unit) ^ 2 * (digits * 10 ^ exponent) ≤ (2 ^ 64 : ℚ) := calc
      (1 - unit) ^ 2 * (digits * 10 ^ exponent) ≤ 1 * (2 ^ 64 * 1) := by
        gcongr
        norm_num [unit]
      _ = 2 ^ 64 := by ring
    have great : (2 ^ 64 : ℚ) < limit := by
      rw [limit]
      exact pow_lt_pow_right₀ one_lt_two (by decide)
    linarith
  have infinite := Binary64.isFinite_mul_of_le zero (pow10_ne_zero exponent.toNat)
    (natCast_pow10_toNat whole ▸ many)
  simp [isOutOfRange, zero, whole, infinite]

end

/-! Numbers. -/

theorem behindExcess?_eq_none_iff {value : ℕ} {digits : Text} (h : value ≤ maxExponent) :
    behindExcess? value digits = none ↔ valueBehind value digits ≤ maxExponent := by
  refine ⟨fun none_left => ?_, behindExcess?_eq_none⟩
  induction digits generalizing value with
  | nil => exact h
  | cons c digits ih =>
    rw [behindExcess?] at none_left
    split at none_left
    next => cases none_left
    next small => exact ih (not_lt.1 small) none_left

namespace Numeral

variable {n : Numeral} {text : Text}

/-- What is looked at of a number: at most 64 bits of digits and a power of ten, which together
agree with the number. An exponent that is too great to be looked at decides by its sign. -/
theorem exists_leading (h : n.IsWritten text) : ∃ (digits : ℕ) (shift : ℤ),
    digits < 18446744073709551616 ∧
    Agree n.magnitude (digits * 10 ^ (shift + n.power.toInt)) ∧
    (digitsValue n.power.digits ≤ maxExponent →
      (n.IsFinite ↔ isOutOfRange digits (shift + n.power.toInt) = false)) ∧
    (maxExponent < digitsValue n.power.digits →
      (n.IsFinite ↔ n.power.isNegative = true ∨ digits = 0)) := by
  obtain ⟨_, point, _, -, isPoint, -⟩ := h.parts
  obtain ⟨front, wholeLeft, digits, fractionLeft, isFront, isDigits, agree⟩ :=
    exists_significand h.isWhole.digit isPoint.digit
  have zero : 0 < 18446744073709551616 := by decide
  have small := (significand_bounds n.fraction (significand_bounds n.whole zero).1).1
  rw [isFront, isDigits] at small
  have positive : (0 : ℚ) < 10 ^ n.power.toInt := by positivity
  have scaled := agree.mul positive
  rw [mul_assoc, mul_assoc, ← zpow_add₀ (by norm_num), ← zpow_add₀ (by norm_num),
    add_comm (-_)] at scaled
  have noExcess := @behindExcess?_eq_none_iff 0 n.power.digits (Nat.zero_le maxExponent)
  rw [← digitsValue_eq] at noExcess
  refine ⟨digits, _, small, scaled, fun moderate => ?_, fun great => ?_⟩
  · have shifted : (if n.power.isNegative = true then
        (wholeLeft - (n.fraction.length - fractionLeft) : ℤ) - digitsValue n.power.digits
        else wholeLeft - (n.fraction.length - fractionLeft) + digitsValue n.power.digits) =
        wholeLeft - (n.fraction.length - fractionLeft) + n.power.toInt := by
      rw [Exponent.toInt]
      split <;> ring
    simp only [IsFinite, excess?, isFront, isDigits, noExcess.2 moderate, shifted]
    cases isOutOfRange digits (wholeLeft - (n.fraction.length - fractionLeft) + n.power.toInt) <;>
      simp
  · obtain ⟨unread, found⟩ := Option.ne_none_iff_exists'.1 (mt noExcess.1 (not_le.2 great))
    simp only [IsFinite, excess?, isFront, isDigits, found]
    split_ifs with small <;> simp [small]

@[simp] theorem magnitude_nonneg (n : Numeral) : 0 ≤ n.magnitude := by
  rw [magnitude]
  positivity

/-- A number that lies below the limit in its first 51 digits is read. -/
theorem isFinite_of_le (h : n.IsWritten text) (moderate : digitsValue n.power.digits ≤ maxExponent)
    (few : n.magnitude ≤ (1 - 1 / 2 ^ 51) * limit) : n.IsFinite := by
  obtain ⟨digits, shift, small, agree, decided, -⟩ := exists_leading h
  refine (decided moderate).2 (isOutOfRange_of_lt ?_)
  have value : (digits * 10 ^ (shift + n.power.toInt) : ℚ) ≤
      (1 + 1 / 2 ^ 60) * ((1 - 1 / 2 ^ 51) * limit) :=
    agree.right.trans (mul_le_mul_of_nonneg_left few (by norm_num))
  calc (1 + unit) ^ 2 * (digits * 10 ^ (shift + n.power.toInt))
      ≤ (1 + unit) ^ 2 * ((1 + 1 / 2 ^ 60) * ((1 - 1 / 2 ^ 51) * limit)) :=
        mul_le_mul_of_nonneg_left value (sq_nonneg _)
    _ = (1 + unit) ^ 2 * (1 + 1 / 2 ^ 60) * (1 - 1 / 2 ^ 51) * limit := by ring
    _ < (1 - unit / 2) * limit := mul_lt_mul_of_pos_right (by norm_num [unit]) limit_pos

/-- A number that lies beyond the limit in its first 51 digits is not read. -/
theorem not_isFinite_of_le (h : n.IsWritten text)
    (moderate : digitsValue n.power.digits ≤ maxExponent)
    (many : (1 + 1 / 2 ^ 51) * limit ≤ n.magnitude) : ¬ n.IsFinite := by
  obtain ⟨digits, shift, small, agree, decided, -⟩ := exists_leading h
  rw [decided moderate, Bool.not_eq_false]
  refine isOutOfRange_of_le small ?_
  have near : (1 + 1 / 2 ^ 51) * limit ≤
      (1 + 1 / 2 ^ 60) * (digits * 10 ^ (shift + n.power.toInt)) := many.trans agree.left
  have value : (1 - 1 / 2 ^ 60) * ((1 + 1 / 2 ^ 51) * limit) ≤
      (digits * 10 ^ (shift + n.power.toInt) : ℚ) := by
    have positive : (0 : ℚ) ≤ digits * 10 ^ (shift + n.power.toInt) := by positivity
    linarith
  calc limit ≤ (1 - unit) ^ 2 * (1 - 1 / 2 ^ 60) * (1 + 1 / 2 ^ 51) * limit :=
        le_mul_of_one_le_left limit_pos.le (by norm_num [unit])
    _ = (1 - unit) ^ 2 * ((1 - 1 / 2 ^ 60) * ((1 + 1 / 2 ^ 51) * limit)) := by ring
    _ ≤ (1 - unit) ^ 2 * (digits * 10 ^ (shift + n.power.toInt)) :=
        mul_le_mul_of_nonneg_left value (sq_nonneg _)

/-- In between, the roundings decide: this number is less than the greatest finite value, which
starts with `17976931348623157081`, but both of its factors are rounded up. -/
example : excess? "17976931348623156225" [] ⟨false, "289"⟩ = some [] := by decide +kernel

/-- With an exponent that is too great to be looked at, a number is read if the exponent is
negative or the number is zero. -/
theorem isFinite_iff_of_lt (h : n.IsWritten text)
    (great : maxExponent < digitsValue n.power.digits) :
    n.IsFinite ↔ n.power.isNegative = true ∨ n.magnitude = 0 := by
  obtain ⟨digits, shift, -, agree, -, decided⟩ := exists_leading h
  have power : (0 : ℚ) < 10 ^ (shift + n.power.toInt) := by positivity
  have zero : digits = 0 ↔ n.magnitude = 0 := by
    constructor
    · rintro rfl
      have left := agree.left
      rw [Nat.cast_zero, zero_mul, mul_zero] at left
      exact le_antisymm left n.magnitude_nonneg
    · intro nothing
      have right := agree.right
      rw [nothing, mul_zero] at right
      exact_mod_cast le_antisymm (nonpos_of_mul_nonpos_left right power) (Nat.cast_nonneg digits)
  rw [decided great, zero]

end Numeral

end Json
end HttpContract
