import HttpContract.Text.Decimal
import Mathlib.Data.Nat.Init
import Mathlib.Tactic.Ring

/-! Decimal text: its digits, their number and their value. -/
namespace HttpContract
namespace Text

@[simp] theorem decimal_of_lt {n : Nat} (h : n < 10) : decimal n = [digitChar n] := by
  rw [decimal, if_pos h]

theorem decimal_of_le {n : Nat} (h : 10 ≤ n) :
    decimal n = decimal (n / 10) ++ [digitChar (n % 10)] := by
  rw [decimal, if_neg (Nat.not_lt.2 h)]

theorem digitChar_digit : ∀ digit < 10, (digitChar digit).isDigit = true ∧
    digitValue? (digitChar digit) = some digit ∧ (digitChar digit).toNat = digit + 48 := by decide

@[simp] theorem decimal_ne_nil (n : Nat) : decimal n ≠ [] := by
  rw [decimal]
  split <;> simp

theorem isDigit_of_mem_decimal {n : Nat} {c : Char} (h : c ∈ decimal n) : c.isDigit = true := by
  fun_induction decimal n with
  | case1 n small => exact List.mem_singleton.1 h ▸ (digitChar_digit n small).1
  | case2 n large ih =>
    obtain h | h := List.mem_append.1 h
    · exact ih h
    · exact List.mem_singleton.1 h ▸ (digitChar_digit (n % 10) (Nat.mod_lt _ (by decide))).1

theorem not_mem_decimal {c : Char} (h : c.isDigit = false) (n : Nat) : c ∉ decimal n := by
  intro member
  rw [isDigit_of_mem_decimal member] at h
  cases h

/-- Only zero starts with a zero. -/
theorem eq_zero_of_head?_decimal {n : Nat} (h : (decimal n).head? = some '0') : n = 0 := by
  fun_induction decimal n with
  | case1 n small =>
    have code := (digitChar_digit n small).2.2
    rw [Option.some.inj h] at code
    exact Nat.add_right_cancel code.symm
  | case2 n large ih =>
    obtain ⟨c, rest, digits⟩ := List.exists_cons_of_ne_nil (decimal_ne_nil (n / 10))
    rw [digits] at h ih
    have := ih h
    omega

/-- A fold over the digits that takes one more digit at each step ends with the number. -/
theorem foldl_decimal {step : Nat → Char → Nat}
    (h : ∀ value, ∀ digit < 10, step value (digitChar digit) = value * 10 + digit) (n : Nat) :
    (decimal n).foldl step 0 = n := by
  fun_induction decimal n with
  | case1 n small => simp [h 0 n small]
  | case2 n large ih =>
    rw [List.foldl_append, ih, List.foldl_cons, List.foldl_nil, h _ _ (Nat.mod_lt _ (by decide))]
    omega

@[simp] theorem natOfDigits?_decimal (n : Nat) : natOfDigits? 10 (decimal n) = some n := by
  rw [natOfDigits?, if_neg (decimal_ne_nil n)]
  fun_induction decimal n with
  | case1 n small => simp [(digitChar_digit n small).2.1, small]
  | case2 n large ih =>
    have small : n % 10 < 10 := Nat.mod_lt _ (by decide)
    rw [List.foldlM_append, ih]
    simp only [Option.bind_eq_bind, Option.bind_some, List.foldlM_cons, List.foldlM_nil,
      (digitChar_digit _ small).2.1, small, if_true]
    exact congrArg some (by omega)

theorem decimal_injective {n other : Nat} (h : decimal n = decimal other) : n = other := by
  have value := natOfDigits?_decimal n
  rw [h, natOfDigits?_decimal] at value
  exact (Option.some.inj value).symm

theorem length_decimal_le_iff {n count : Nat} (h : 0 < count) :
    (decimal n).length ≤ count ↔ n < 10 ^ count := by
  obtain ⟨count, rfl⟩ := Nat.exists_eq_succ_of_ne_zero h.ne'
  induction count generalizing n with
  | zero =>
    rw [decimal]
    split
    next small => simpa using small
    next large =>
      have := List.length_pos_iff.2 (decimal_ne_nil (n / 10))
      simp only [List.length_append, List.length_singleton]
      omega
  | succ count ih =>
    rw [decimal]
    split
    next small =>
      have : 10 ≤ 10 ^ (count + 1 + 1) := Nat.le_self_pow (by omega) 10
      simp only [List.length_singleton]
      omega
    next large =>
      have shorter := ih (n := n / 10) (by omega)
      rw [List.length_append, List.length_singleton, pow_succ, Nat.succ_eq_add_one,
        ← Nat.div_lt_iff_lt_mul (by decide), ← shorter]
      omega

end Text
end HttpContract
