import HttpContract.Proofs.Json.Numeral
import HttpContract.Proofs.Number.Binary64
import HttpContract.Proofs.Text.Decimal

/-! Numbers that a document can hold: digits with an optional fraction and exponent, of which none
is too great. -/
namespace HttpContract
namespace Json

/-- The value that digits have behind those of `value`. -/
def valueBehind (value : Nat) (digits : Text) : Nat :=
  digits.foldl (fun value c => value * 10 + digitOf c) value

theorem digitsValue_eq (digits : Text) : digitsValue digits = valueBehind 0 digits := rfl

@[simp]
theorem digitOf_digitChar : ∀ digit < 10, digitOf (Text.digitChar digit) = digit := by decide

@[simp] theorem digitsValue_decimal (n : Nat) : digitsValue (Text.decimal n) = n :=
  Text.foldl_decimal (fun _ digit small => by rw [digitOf_digitChar digit small]) n

theorem digitOf_lt {c : Char} (h : c.isDigit) : digitOf c < 10 := by
  have bounds := bounds_of_isDigit h
  rw [digitOf]
  omega

theorem le_valueBehind (value : Nat) (digits : Text) : value ≤ valueBehind value digits := by
  induction digits generalizing value with
  | nil => exact le_rfl
  | cons c digits ih =>
    have := ih (value * 10 + digitOf c)
    simp only [valueBehind, List.foldl_cons] at this ⊢
    omega

theorem valueBehind_lt {digits : Text} (h : ∀ c ∈ digits, c.isDigit) (value : Nat) :
    valueBehind value digits < (value + 1) * 10 ^ digits.length := by
  induction digits generalizing value with
  | nil => simp [valueBehind]
  | cons c digits ih =>
    obtain ⟨digit, others⟩ := List.forall_mem_cons.1 h
    have small := digitOf_lt digit
    calc valueBehind value (c :: digits)
        = valueBehind (value * 10 + digitOf c) digits := rfl
      _ < (value * 10 + digitOf c + 1) * 10 ^ digits.length := ih others _
      _ ≤ ((value + 1) * 10) * 10 ^ digits.length := Nat.mul_le_mul_right _ (by omega)
      _ = (value + 1) * 10 ^ (c :: digits).length := by
        rw [List.length_cons, pow_succ]
        ring

theorem significand_of_lt {value : Nat} {digits : Text}
    (h : valueBehind value digits < 18446744073709551616) :
    significand value digits = (valueBehind value digits, 0) := by
  induction digits generalizing value with
  | nil => rfl
  | cons c digits ih =>
    have small := (le_valueBehind (value * 10 + digitOf c) digits).trans_lt h
    rw [significand]
    rw [if_pos small]
    exact ih h

theorem significand_bounds {value : Nat} (digits : Text) (h : value < 18446744073709551616) :
    (significand value digits).1 < 18446744073709551616 ∧
      (significand value digits).2 ≤ digits.length := by
  fun_induction significand value digits with
  | case1 => exact ⟨h, le_rfl⟩
  | case2 value c digits next small ih => exact ⟨(ih small).1, (ih small).2.trans (Nat.le_succ _)⟩
  | case3 => exact ⟨h, le_rfl⟩

theorem behindExcess?_eq_none {value : Nat} {digits : Text}
    (h : valueBehind value digits ≤ maxExponent) : behindExcess? value digits = none := by
  induction digits generalizing value with
  | nil => rfl
  | cons c digits ih =>
    have small := (le_valueBehind (value * 10 + digitOf c) digits).trans h
    rw [behindExcess?]
    rw [if_neg (Nat.not_lt.2 small)]
    exact ih h

theorem isOutOfRange_eq_false {digits : Nat} {exponent : Int}
    (small : digits < 18446744073709551616) (h : exponent ≤ 200) :
    isOutOfRange digits exponent = false := by
  have front : (Binary64.ofNat digits).ratio.1 < 2 ^ (54 + 64) :=
    Binary64.ratio_ofRatio_lt Nat.one_ne_zero small
  have power : (Binary64.ofNat (pow10 exponent.toNat)).ratio.1 <
      2 ^ (54 + (4 * exponent.toNat + 1)) :=
    Binary64.ratio_ofRatio_lt Nat.one_ne_zero (pow10_lt _)
  have finite := Binary64.isFinite_mul front power (by omega)
  have inside : ¬ exponent > maxPower := by
    rw [maxPower]
    omega
  simp [isOutOfRange, finite, inside]

theorem excess?_eq_none {wholeDigits : Text} (fractionDigits : Text) {power : Exponent}
    (small : digitsValue wholeDigits < 18446744073709551616)
    (h : power.isNegative = true ∨ digitsValue power.digits ≤ 200) :
    excess? wholeDigits fractionDigits power = none := by
  have front : significand 0 wholeDigits = (digitsValue wholeDigits, 0) := significand_of_lt small
  have digits := significand_bounds fractionDigits small
  unfold excess?
  simp only [front]
  cases behind : behindExcess? 0 power.digits with
  | some unread =>
    have negative : power.isNegative = true := by
      refine h.resolve_right fun few => ?_
      rw [behindExcess?_eq_none (few.trans (by decide))] at behind
      cases behind
    simp [negative]
  | none =>
    dsimp only
    rw [isOutOfRange_eq_false digits.1]
    · rfl
    · split
      next => omega
      next positive =>
        have few := h.resolve_left positive
        omega

def fractionText (digits : Text) : Text := if digits = [] then [] else '.' :: digits

def Exponent.text (power : Exponent) : Text :=
  if power.digits = [] then []
  else 'e' :: ((if power.isNegative then ['-'] else ['+']) ++ power.digits)

theorem isFraction_text {digits : Text} (h : ∀ c ∈ digits, c.isDigit) :
    IsFraction digits (fractionText digits) := by
  by_cases none_written : digits = []
  · exact .inl ⟨if_pos none_written, none_written⟩
  · exact .inr ⟨if_neg none_written, none_written, h⟩

theorem isPower_text {power : Exponent} (h : power = {} ∨ IsDigits power.digits) :
    IsPower power power.text := by
  obtain rfl | digits := h
  · exact .inl ⟨rfl, rfl⟩
  · refine .inr ⟨'e', if power.isNegative then ['-'] else ['+'], .inl rfl, ?_, digits, ?_,
      if_neg digits.ne_nil⟩
    · cases power.isNegative
      · exact .inr ⟨'+', by decide, rfl⟩
      · exact .inr ⟨'-', by decide, rfl⟩
    · cases power.isNegative <;> simp

theorem isNumber_of_parts {wholeDigits : Text} (fractionDigits : Text) (power : Exponent)
    (isWhole : IsDigits wholeDigits) (alone : wholeDigits.head? = some '0' → wholeDigits = ['0'])
    (isFraction : ∀ c ∈ fractionDigits, c.isDigit) (isPower : power = {} ∨ IsDigits power.digits)
    (small : digitsValue wholeDigits < 18446744073709551616)
    (moderate : power.isNegative = true ∨ digitsValue power.digits ≤ 200) :
    IsNumber (wholeDigits ++ (fractionText fractionDigits ++ power.text)) := by
  have written : Numeral.IsWritten ⟨wholeDigits, fractionDigits, power⟩
      (wholeDigits ++ (fractionText fractionDigits ++ power.text)) :=
    ⟨isWhole, alone, [], _, _, .inl rfl, isFraction_text isFraction, isPower_text isPower, rfl⟩
  exact isNumber_iff.2 ⟨_, written, excess?_eq_none fractionDigits small moderate⟩

theorem digitsValue_lt {digits : Text} (h : ∀ c ∈ digits, c.isDigit) (few : digits.length ≤ 19) :
    digitsValue digits < 18446744073709551616 := by
  have value := valueBehind_lt h 0
  have most : 10 ^ digits.length ≤ 10 ^ 19 := Nat.pow_le_pow_right (by decide) few
  rw [digitsValue_eq]
  omega

@[simp] theorem isDigits_decimal (n : Nat) : IsDigits (Text.decimal n) :=
  ⟨Text.decimal_ne_nil n, fun _ => Text.isDigit_of_mem_decimal⟩

@[simp]
theorem isNumber_decimal {n : Nat} (h : n < 18446744073709551616) : IsNumber (Text.decimal n) := by
  have alone : (Text.decimal n).head? = some '0' → Text.decimal n = ['0'] :=
    fun zero => Text.eq_zero_of_head?_decimal zero ▸ Text.decimal_of_lt (by decide)
  have number := isNumber_of_parts [] {} (isDigits_decimal n) alone nofun (.inl rfl)
    (by rwa [digitsValue_decimal]) (.inr (by decide))
  simpa [fractionText, Exponent.text] using number

end Json
end HttpContract
