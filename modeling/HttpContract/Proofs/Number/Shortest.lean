import HttpContract.Number.Shortest
import HttpContract.Proofs.Json.Number
import HttpContract.Time.Duration

/-! The shortest decimal of a binary value: where its point stands, and that what is written of it
is a number of a document. -/
namespace HttpContract

namespace DecimalValue

/-- Zeros at the end of the digits do not move the point. -/
@[simp] theorem point_reduce (decimal : DecimalValue) : decimal.reduce.point = decimal.point := by
  fun_induction reduce decimal with
  | case1 decimal zeros ih =>
    rw [ih, point, point, Text.decimal_of_le (n := decimal.digits) (by omega), List.length_append]
    simp only [List.length_singleton, Nat.cast_add, Nat.cast_one]
    omega
  | case2 => rfl

/-- A decimal that is not zero starts with another digit. -/
theorem exists_digits {decimal : DecimalValue} (h : decimal.digits ≠ 0) :
    ∃ c rest, Text.decimal decimal.digits = c :: rest ∧ c ≠ '0' ∧ c.isDigit = true ∧
      ∀ d ∈ rest, d.isDigit = true := by
  obtain ⟨c, rest, same⟩ := List.exists_cons_of_ne_nil (Text.decimal_ne_nil decimal.digits)
  have digit : ∀ d ∈ c :: rest, d.isDigit = true :=
    fun d hd => Text.isDigit_of_mem_decimal (same ▸ hd)
  obtain ⟨first, others⟩ := List.forall_mem_cons.1 digit
  refine ⟨c, rest, same, ?_, first, others⟩
  rintro rfl
  exact h (Text.eq_zero_of_head?_decimal (by rw [same]; rfl))

section

open Json

theorem isNumber_fraction (wholeDigits fractionDigits : Text) (isWhole : IsDigits wholeDigits)
    (alone : wholeDigits.head? = some '0' → wholeDigits = ['0']) (few : wholeDigits.length ≤ 19)
    (isFraction : IsDigits fractionDigits) :
    IsNumber (wholeDigits ++ '.' :: fractionDigits) := by
  have number := isNumber_of_parts fractionDigits {} isWhole alone isFraction.digit (.inl rfl)
    (digitsValue_lt isWhole.digit few) (.inr (by decide))
  simpa [fractionText, isFraction.ne_nil, Exponent.text] using number

variable {decimal : DecimalValue}

theorem isNumber_positional (h : decimal.digits ≠ 0) (few : decimal.point ≤ 16) :
    IsNumber (decimal.positional ++ if 0 ≤ decimal.exponent then ['.', '0'] else []) := by
  obtain ⟨c, rest, same, apart, digit, others⟩ := exists_digits h
  have isDigits : IsDigits (c :: rest) := ⟨by simp, List.forall_mem_cons.2 ⟨digit, others⟩⟩
  have length : decimal.point = (c :: rest).length + decimal.exponent := by rw [point, same]
  have zeros (count : Nat) : ∀ d ∈ List.replicate count '0', d.isDigit = true :=
    fun d hd => List.eq_of_mem_replicate hd ▸ rfl
  rw [positional, same]
  split_ifs with whole small
  · have all : IsDigits (c :: rest ++ List.replicate decimal.exponent.toNat '0') :=
      ⟨by simp, List.forall_mem_append.2 ⟨isDigits.digit, zeros _⟩⟩
    refine isNumber_fraction _ ['0'] all (fun zero => absurd (Option.some.inj zero) apart) ?_
      ⟨by simp, zeros 1⟩
    rw [List.length_append, List.length_replicate]
    omega
  · have all : IsDigits (List.replicate (-decimal.point).toNat '0' ++ c :: rest) :=
      ⟨by simp, List.forall_mem_append.2 ⟨zeros _, isDigits.digit⟩⟩
    have number := isNumber_fraction ['0'] _ ⟨by simp, zeros 1⟩ (fun _ => rfl) (by decide) all
    simpa using number
  · obtain ⟨before, places⟩ := Int.eq_ofNat_of_zero_le (Int.le_of_lt (Int.not_le.1 small))
    have front : IsDigits ((c :: rest).take before) :=
      ⟨by simp; omega, fun d hd => isDigits.digit d (List.mem_of_mem_take hd)⟩
    have back : IsDigits ((c :: rest).drop before) :=
      ⟨by rw [ne_eq, List.drop_eq_nil_iff]; omega,
        fun d hd => isDigits.digit d (List.mem_of_mem_drop hd)⟩
    have number := isNumber_fraction _ _ front (fun zero => ?_) ?_ back
    · simpa [places] using number
    · have some_before : before ≠ 0 := by omega
      rw [List.head?_take, if_neg some_before] at zero
      exact absurd (Option.some.inj zero) apart
    · rw [List.length_take]
      omega

/-- One digit is written before the point, and the power of ten is not great. -/
theorem isNumber_scientific (h : decimal.digits ≠ 0) (few : decimal.point ≤ 201) :
    IsNumber decimal.scientific := by
  obtain ⟨c, rest, same, apart, digit, others⟩ := exists_digits h
  have single : IsDigits [c] := ⟨by simp, by simpa using digit⟩
  have moderate : decide (decimal.point - 1 < 0) = true ∨
      digitsValue (Text.decimal (decimal.point - 1).natAbs) ≤ 200 := by
    rw [digitsValue_decimal, decide_eq_true_eq]
    omega
  have number := isNumber_of_parts rest
    ⟨decide (decimal.point - 1 < 0), Text.decimal (decimal.point - 1).natAbs⟩ single
    (fun zero => absurd (Option.some.inj zero) apart) others (.inr (isDigits_decimal _))
    (digitsValue_lt single.digit (by simp)) moderate
  rw [scientific, same]
  simpa [fractionText, Exponent.text, (isDigits_decimal _).ne_nil] using number

theorem isNumber_json (few : decimal.point ≤ 201) : IsNumber decimal.json := by
  rw [json]
  split
  next =>
    exact isNumber_fraction ['0'] ['0'] ⟨by simp, by simp⟩ (fun _ => rfl) (by decide)
      ⟨by simp, by simp⟩
  next some_digits =>
    split
    next range => exact isNumber_positional some_digits range.2
    next => exact isNumber_scientific some_digits few

end

end DecimalValue

namespace Binary64

section

variable {x : Binary64} {places : Nat}

theorem eq_neighbour_of_decimalOn? {exponent : Int} {decimal : DecimalValue}
    (found : x.decimalOn? exponent = some decimal) :
    decimal = (x.neighbours exponent).1 ∨ decimal = (x.neighbours exponent).2 := by
  unfold decimalOn? at found
  grind

/-- Neither neighbour has more digits than the places of the value leave for it. -/
theorem point_le_of_decimalOn? {exponent : Int} {decimal : DecimalValue}
    (h : x.ratio.1 < 10 ^ places) (small : exponent < places)
    (found : x.decimalOn? exponent = some decimal) : decimal.point ≤ places + 1 := by
  obtain ⟨left, left_eq⟩ := Int.eq_ofNat_of_zero_le (Int.le_of_lt (Int.sub_pos.2 small))
  have power (n : Nat) : 0 < 10 ^ n := Nat.pow_pos (by decide)
  have floor : x.ratio.1 * pow10 (-exponent).toNat / (x.ratio.2 * pow10 exponent.toNat) <
      10 ^ left := by
    have den : 0 < x.ratio.2 := Nat.pos_of_ne_zero (ratio_snd_ne_zero x)
    rw [pow10_eq, pow10_eq, Nat.div_lt_iff_lt_mul (Nat.mul_pos den (power _))]
    calc x.ratio.1 * 10 ^ (-exponent).toNat
        < 10 ^ places * 10 ^ (-exponent).toNat := Nat.mul_lt_mul_of_pos_right h (power _)
      _ = 10 ^ left * 10 ^ exponent.toNat := by
        rw [← Nat.pow_add, ← Nat.pow_add]
        congr 1
        omega
      _ ≤ 10 ^ left * (x.ratio.2 * 10 ^ exponent.toNat) :=
        Nat.mul_le_mul_left _ (Nat.le_mul_of_pos_left _ den)
  have digits : decimal.digits < 10 ^ (left + 1) ∧ decimal.exponent = exponent := by
    have some_left := power left
    rw [pow_succ]
    obtain rfl | rfl := eq_neighbour_of_decimalOn? found <;> rw [neighbours] <;> dsimp only <;>
      omega
  have length := (Text.length_decimal_le_iff (Nat.succ_pos left)).2 digits.1
  rw [DecimalValue.point, digits.2]
  omega

theorem leadingExponent_lt (h : x.ratio.1 < 10 ^ places) (some_places : 0 < places) :
    x.leadingExponent < places := by
  rw [leadingExponent]
  dsimp only
  split
  next =>
    have quotient : x.ratio.1 / x.ratio.2 < 10 ^ places := (Nat.div_le_self ..).trans_lt h
    have := (Text.length_decimal_le_iff some_places).2 quotient
    omega
  next => omega

theorem point_shortest_le (h : x.ratio.1 < 10 ^ places) (some_places : 0 < places) :
    x.shortest.point ≤ places + 1 := by
  have first := leadingExponent_lt h some_places
  have zero : (⟨0, 0⟩ : DecimalValue).point ≤ places + 1 := by
    rw [DecimalValue.point, Text.decimal_of_lt (by decide)]
    simp
  rw [shortest]
  dsimp only
  split
  · exact zero
  · split
    next decimal found =>
      obtain ⟨more, -, found⟩ := List.exists_of_findSome?_eq_some found
      rw [DecimalValue.point_reduce]
      exact point_le_of_decimalOn? h (by omega) found
    next => exact zero

end

end Binary64

theorem Text.isDigit_of_mem_decimalPadded {width n : Nat} {c : Char}
    (h : c ∈ decimalPadded width n) : c.isDigit = true := by
  obtain h | h := List.mem_append.1 h
  · obtain rfl := List.eq_of_mem_replicate h
    rfl
  · exact isDigit_of_mem_decimal h

/-- With a fixed number of places, digits are written and at most a point between them. -/
theorem Binary64.mem_fixed {places : Nat} {x : Binary64} {c : Char} (h : c ∈ x.fixed places) :
    c.isDigit = true ∨ c = '.' := by
  simp only [fixed] at h
  split at h
  · exact .inl (Text.isDigit_of_mem_decimal h)
  · obtain h | h := List.mem_append.1 h
    · obtain h | h := List.mem_append.1 h
      · exact .inl (Text.isDigit_of_mem_decimal h)
      · exact .inr (List.mem_singleton.1 h)
    · exact .inl (Text.isDigit_of_mem_decimalPadded h)

theorem Binary64.not_mem_fixed {c : Char} (digit : c.isDigit = false) (point : c ≠ '.')
    (places : Nat) (x : Binary64) : c ∉ x.fixed places := by
  intro inside
  obtain found | found := mem_fixed inside
  · rw [digit] at found
    cases found
  · exact point found

@[simp]
theorem Duration.isNumber_millis (time : Duration) : Json.IsNumber time.millis.shortest.json := by
  have seconds := time.seconds_lt
  have small := time.nanos_lt
  have nanos : (Binary64.ofNat time.totalNanos).ratio.1 < 2 ^ (54 + 94) :=
    Binary64.ratio_ofRatio_lt Nat.one_ne_zero (by rw [totalNanos]; omega)
  have million : (Binary64.ofNat 1000000).ratio.2 < 2 ^ 34 ∧
      (Binary64.ofNat 1000000).ratio.1 ≠ 0 := by decide +kernel
  have millis := Binary64.ratio_div_lt nanos million.1 million.2
  have places : time.millis.ratio.1 < 10 ^ 72 := millis.trans_le (by decide +kernel)
  have point := Binary64.point_shortest_le places (by decide)
  exact DecimalValue.isNumber_json (by omega)

end HttpContract
