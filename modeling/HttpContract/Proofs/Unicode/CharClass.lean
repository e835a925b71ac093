import HttpContract.Unicode.CharClass
import Mathlib.Data.List.Basic

/-! Blanks are no digits and no characters of a word, so they end a number and a word. -/
namespace HttpContract
namespace Unicode

def blankRanges : List CodeRange :=
  [⟨0x9, 0xD⟩, ⟨0x20, 0x20⟩, ⟨0x85, 0x85⟩, ⟨0xA0, 0xA0⟩, ⟨0x1680, 0x1680⟩, ⟨0x2000, 0x200A⟩,
    ⟨0x2028, 0x2029⟩, ⟨0x202F, 0x202F⟩, ⟨0x205F, 0x205F⟩, ⟨0x3000, 0x3000⟩]

theorem exists_blankRange {c : Char} (h : isBlank c = true) :
    ∃ blank ∈ blankRanges, blank.first ≤ c.toNat ∧ c.toNat ≤ blank.last := by
  simp only [isBlank, Bool.or_eq_true, Bool.and_eq_true, decide_eq_true_iff, beq_iff_eq] at h
  simp only [blankRanges, List.mem_cons, List.not_mem_nil, or_false, exists_eq_or_imp,
    exists_eq_left]
  omega

def wordTables : List (List CodeRange) :=
  [alphabetic, marks, decimalDigits, connectors, joinControls]

theorem isIn_eq_false {c : Char} (h : isBlank c = true) :
    ∀ table ∈ wordTables, isIn table c = false := by
  have apart : (wordTables.all fun table => table.all fun range => blankRanges.all fun blank =>
      Nat.blt range.last blank.first || Nat.blt blank.last range.first) = true := by
    decide +kernel
  obtain ⟨blank, listed, low, high⟩ := exists_blankRange h
  intro table ht
  rw [isIn, List.any_eq_false]
  intro range hr
  have sides := List.all_eq_true.1 (List.all_eq_true.1 (List.all_eq_true.1 apart table ht) range hr)
    blank listed
  simp only [Bool.or_eq_true, Nat.blt_eq] at sides
  simp only [CodeRange.contains, Bool.and_eq_true, decide_eq_true_iff]
  omega

/-- What no blank is, seen from the ASCII characters one by one and from the tables. -/
theorem eq_false_of_isBlank {p : Char → Bool} (ascii : ∀ code < 128,
      isBlank (Char.ofNat code) = true → p (Char.ofNat code) = false)
    (others : ∀ c : Char, ¬ c.toNat < 128 → (∀ table ∈ wordTables, isIn table c = false) →
      p c = false) {c : Char} (h : isBlank c = true) : p c = false := by
  by_cases low : c.toNat < 128
  · have own := ascii c.toNat low
    rw [Char.ofNat_toNat] at own
    exact own h
  · exact others c low (isIn_eq_false h)

@[simp]
theorem isDecimalDigit_eq_false {c : Char} (h : isBlank c = true) : isDecimalDigit c = false := by
  refine eq_false_of_isBlank (by decide +kernel) (fun c high none_in => ?_) h
  simp [isDecimalDigit, high, none_in decimalDigits (by simp [wordTables])]

@[simp] theorem isWordChar_eq_false {c : Char} (h : isBlank c = true) : isWordChar c = false := by
  refine eq_false_of_isBlank (by decide +kernel) (fun c high none_in => ?_) h
  simp only [wordTables, List.forall_mem_cons, List.not_mem_nil] at none_in
  simp [isWordChar, high, none_in]

end Unicode
end HttpContract
