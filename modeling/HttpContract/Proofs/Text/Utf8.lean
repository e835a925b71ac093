import HttpContract.Text.Utf8
import Mathlib.Data.List.Lex
import Mathlib.Data.UInt

/-! The order of texts by their code points is the order of their bytes in UTF-8. -/
namespace HttpContract
namespace Utf8

@[simp] theorem ofNat_lt_ofNat_iff {a b : Nat} (ha : a < 256) (hb : b < 256) :
    UInt8.ofNat a < UInt8.ofNat b ↔ a < b := by
  rw [UInt8.lt_iff_toNat_lt, UInt8.toNat_ofNat_of_lt' ha, UInt8.toNat_ofNat_of_lt' hb]

@[simp] theorem ofNat_eq_ofNat_iff {a b : Nat} (ha : a < 256) (hb : b < 256) :
    UInt8.ofNat a = UInt8.ofNat b ↔ a = b := by
  rw [← UInt8.toNat_inj, UInt8.toNat_ofNat_of_lt' ha, UInt8.toNat_ofNat_of_lt' hb]

theorem ofNat_cons_lt_iff {a b : Nat} (ha : a < 256) (hb : b < 256) (s t : Bytes) :
    UInt8.ofNat a :: s < UInt8.ofNat b :: t ↔ a < b ∨ a = b ∧ s < t := by
  rw [List.cons_lt_cons_iff, ofNat_lt_ofNat_iff ha hb, ofNat_eq_ofNat_iff ha hb]

/-- Two characters differ in a byte that decides, whatever follows. -/
theorem encodeChar_append_lt {c d : Char} (h : c < d) (s t : Bytes) :
    String.utf8EncodeChar c ++ s < String.utf8EncodeChar d ++ t := by
  have codes : c.val.toNat < d.val.toNat := h
  have last : d.val.toNat < 1114112 := by
    have := d.valid
    simp only [UInt32.isValidChar, Nat.isValidChar] at this
    omega
  -- Digits to the base 64, one cut off after the other.
  have second (n : Nat) : n / 4096 = n / 64 / 64 := (Nat.div_div_eq_div_mul n 64 64).symm
  have third (n : Nat) : n / 262144 = n / 64 / 64 / 64 := by
    rw [Nat.div_div_eq_div_mul, Nat.div_div_eq_div_mul]
  simp only [String.utf8EncodeChar, second, third]
  generalize c.val.toNat = m at codes
  generalize d.val.toNat = n at codes last
  split_ifs <;> simp (disch := omega) only [List.cons_append, ofNat_cons_lt_iff] <;> omega

@[simp] theorem encode_cons (c : Char) (text : Text) :
    encode (c :: text) = String.utf8EncodeChar c ++ encode text := List.flatMap_cons ..

/-- A prefix comes first, and of two other texts the first difference decides. -/
theorem encode_lt_of_lt {a b : Text} (h : a < b) : encode a < encode b := by
  induction h with
  | @nil c b =>
    obtain ⟨byte, bytes, first⟩ := List.exists_cons_of_ne_nil (@String.utf8EncodeChar_ne_nil c)
    rw [encode_cons, first]
    exact List.nil_lt_cons ..
  | rel h =>
    rw [encode_cons, encode_cons]
    exact encodeChar_append_lt h _ _
  | cons _ ih =>
    rw [encode_cons, encode_cons]
    exact List.append_left_lt ih

@[simp] theorem encode_lt_encode_iff {a b : Text} : encode a < encode b ↔ a < b := by
  refine ⟨fun h => ?_, encode_lt_of_lt⟩
  by_contra not_less
  obtain greater | rfl := List.le_iff_lt_or_eq.1 (List.not_lt.1 not_less)
  · exact List.lt_asymm h (encode_lt_of_lt greater)
  · exact List.lt_irrefl _ h

end Utf8
end HttpContract
