import HttpContract.Proofs.Json.Token
import Mathlib.Data.List.TakeWhile

/-! Written numbers: a sign that may be missing, digits that start with a zero only if it is the
only one, and a fraction and an exponent, both of which may be missing. The reader reads them, and
nothing else, as far as they are not too great. Of all tokens only they look at what follows. -/
namespace HttpContract
namespace Json

/-! What the readers of the parts read. -/

structure IsDigits (digits : Text) : Prop where
  ne_nil : digits ≠ []
  digit : ∀ c ∈ digits, c.isDigit

def NoDigit (text : Text) : Prop := ∀ c ∈ text.head?, c.isDigit = false

theorem bounds_of_isDigit {c : Char} (h : c.isDigit) : 0x30 ≤ c.toNat ∧ c.toNat ≤ 0x39 := by
  simp only [Char.isDigit, Bool.and_eq_true, decide_eq_true_eq, ge_iff_le] at h
  exact ⟨UInt32.le_iff_toNat_le.1 h.1, UInt32.le_iff_toNat_le.1 h.2⟩

theorem plain_of_digits {digits : Text} (h : ∀ c ∈ digits, c.isDigit) : Plain digits :=
  fun c hc => Nat.le_trans (by decide) (bounds_of_isDigit (h c hc)).1

/-- A row of digits ends where no further digit follows. -/
theorem digits_iff {text rest digits : Text} :
    (text.takeWhile Char.isDigit = digits ∧ text.dropWhile Char.isDigit = rest) ↔
      text = digits ++ rest ∧ (∀ c ∈ digits, c.isDigit) ∧ NoDigit rest := by
  constructor
  · rintro ⟨rfl, rfl⟩
    refine ⟨List.takeWhile_append_dropWhile.symm, fun c hc => List.mem_takeWhile_imp hc,
      fun c hc => ?_⟩
    have := List.head?_dropWhile_not Char.isDigit text
    rw [hc] at this
    simpa using this
  · rintro ⟨rfl, digit, apart⟩
    rw [List.takeWhile_append_of_pos digit, List.dropWhile_append_of_pos digit]
    cases rest with
    | nil => simp
    | cons c rest => simp [apart c rfl]

theorem whole_eq_ok_iff {text rest digits : Text} : whole text = .ok (rest, digits) ↔
    text = digits ++ rest ∧ IsDigits digits ∧ (digits.head? = some '0' → digits = ['0']) ∧
      NoDigit rest := by
  constructor
  · intro h
    unfold whole at h
    split at h
    · cases h
    next behind =>
      have zero : IsDigits ['0'] := ⟨by simp, by simp⟩
      split at h
      next c _ =>
        split at h
        · cases h
        next other =>
          obtain ⟨rfl, rfl⟩ := Prod.mk.inj (Except.ok.inj h)
          exact ⟨rfl, zero, fun _ => rfl, by simpa [NoDigit] using other⟩
      next =>
        obtain ⟨rfl, rfl⟩ := Prod.mk.inj (Except.ok.inj h)
        exact ⟨rfl, zero, fun _ => rfl, by simp [NoDigit]⟩
    next c behind nonzero =>
      split at h
      next digit =>
        obtain ⟨rfl, rfl⟩ := Prod.mk.inj (Except.ok.inj h)
        obtain ⟨same, others, apart⟩ := digits_iff.1 ⟨rfl, rfl⟩
        have isDigits : IsDigits (c :: behind.takeWhile Char.isDigit) :=
          ⟨List.cons_ne_nil _ _, List.forall_mem_cons.2 ⟨digit, others⟩⟩
        exact ⟨congrArg (c :: ·) same, isDigits,
          fun zero => absurd (Option.some.inj zero) nonzero, apart⟩
      next => cases h
  · rintro ⟨rfl, digits, alone, apart⟩
    obtain ⟨c, others, rfl⟩ := List.exists_cons_of_ne_nil digits.ne_nil
    by_cases zero : c = '0'
    · obtain rfl := zero
      obtain ⟨-, rfl⟩ := List.cons.inj (alone rfl)
      cases rest with
      | nil => rfl
      | cons d rest => simp [whole, apart d rfl]
    · obtain ⟨digit, others'⟩ := List.forall_mem_cons.1 digits.digit
      obtain ⟨taken, dropped⟩ := digits_iff.2 ⟨rfl, others', apart⟩
      rw [List.cons_append, whole]
      · simp [digit, taken, dropped]
      · exact zero

theorem fraction_eq_ok_iff {text rest digits : Text} : fraction text = .ok (rest, digits) ↔
    (text = rest ∧ digits = [] ∧ rest.head? ≠ some '.') ∨
    (text = '.' :: (digits ++ rest) ∧ IsDigits digits ∧ NoDigit rest) := by
  constructor
  · intro h
    unfold fraction at h
    split at h
    next behind =>
      split at h
      · cases h
      next c _ =>
        split at h
        next digit =>
          obtain ⟨rfl, rfl⟩ := Prod.mk.inj (Except.ok.inj h)
          obtain ⟨same, others, apart⟩ := digits_iff.1 ⟨rfl, rfl⟩
          exact .inr ⟨congrArg ('.' :: ·) same, ⟨by simp [digit], others⟩, apart⟩
        next => cases h
    next other =>
      obtain ⟨rfl, rfl⟩ := Prod.mk.inj (Except.ok.inj h)
      refine .inl ⟨rfl, rfl, fun point => ?_⟩
      obtain ⟨tail, rfl⟩ := List.head?_eq_some_iff.1 point
      exact other tail rfl
  · rintro (⟨rfl, rfl, other⟩ | ⟨rfl, digits, apart⟩)
    · unfold fraction
      split
      · simp at other
      · rfl
    · obtain ⟨taken, dropped⟩ := digits_iff.2 ⟨rfl, digits.digit, apart⟩
      obtain ⟨c, others, rfl⟩ := List.exists_cons_of_ne_nil digits.ne_nil
      have digit := digits.digit c (by simp)
      unfold fraction
      simp only [List.cons_append, digit, if_true] at taken dropped ⊢
      rw [taken, dropped]

def IsSign (signs : List Char) (sign : Text) : Prop := sign = [] ∨ ∃ c ∈ signs, sign = [c]

theorem dropSign_iff {signs : List Char} {text rest : Text}
    (unsigned : ∀ c ∈ rest.head?, c ∉ signs) :
    dropSign signs text = rest ↔ ∃ sign, IsSign signs sign ∧ text = sign ++ rest := by
  constructor
  · rintro rfl
    cases text with
    | nil => exact ⟨[], .inl rfl, rfl⟩
    | cons c text =>
      by_cases signed : c ∈ signs
      · exact ⟨[c], .inr ⟨c, signed, rfl⟩, by simp [dropSign, signed]⟩
      · exact ⟨[], .inl rfl, by simp [dropSign, signed]⟩
  · rintro ⟨sign, rfl | ⟨c, signed, rfl⟩, rfl⟩
    · cases text with
      | nil => rfl
      | cons c text => simp [dropSign, unsigned c rfl]
    · simp [dropSign, signed]

theorem IsSign.plain {signs : List Char} {sign : Text} (h : IsSign signs sign)
    (plain : Plain signs) : Plain sign := by
  obtain rfl | ⟨c, signed, rfl⟩ := h
  · exact plain_nil
  · exact .cons (plain c signed) plain_nil

theorem IsDigits.unsigned {digits rest : Text} (h : IsDigits digits) :
    ∀ c ∈ (digits ++ rest).head?, c ∉ ['+', '-'] := by
  obtain ⟨c, others, rfl⟩ := List.exists_cons_of_ne_nil h.ne_nil
  have digit := h.digit c (by simp)
  rintro _ ⟨⟩ signed
  obtain rfl | signed := List.mem_cons.1 signed
  · cases digit
  · obtain rfl := List.mem_singleton.1 signed
    cases digit

theorem IsDigits.noMinus {digits rest : Text} (h : IsDigits digits) :
    ∀ c ∈ (digits ++ rest).head?, c ∉ ['-'] :=
  fun c hc minus => h.unsigned c hc (List.mem_cons_of_mem _ minus)

theorem exponentDigits_eq_ok_iff {text digits : Text} : exponentDigits text = .ok digits ↔
    dropSign ['+', '-'] text = digits ∧ ∃ c others, digits = c :: others ∧ c.isDigit := by
  unfold exponentDigits
  split
  next dropped =>
    rw [dropped]
    constructor
    · intro h
      cases h
    · rintro ⟨rfl, c, others, absurd, -⟩
      cases absurd
  next c others dropped =>
    rw [dropped]
    split
    next digit =>
      constructor
      · intro h
        exact ⟨Except.ok.inj h, c, others, (Except.ok.inj h).symm, digit⟩
      · rintro ⟨rfl, -⟩
        rfl
    next other =>
      constructor
      · intro h
        cases h
      · rintro ⟨rfl, _, _, same, digit⟩
        obtain ⟨rfl, rfl⟩ := List.cons.inj same
        exact absurd digit other

theorem exponent_eq_ok_iff {text rest : Text} {power : Exponent} :
    exponent text = .ok (rest, power) ↔
      (text = rest ∧ power = {} ∧ ∀ c ∈ rest.head?, c ≠ 'e' ∧ c ≠ 'E') ∨
      ∃ c sign digits, (c = 'e' ∨ c = 'E') ∧ IsSign ['+', '-'] sign ∧
        text = c :: (sign ++ (digits ++ rest)) ∧ IsDigits digits ∧ NoDigit rest ∧
        power = { isNegative := (sign ++ digits).head? == some '-', digits := digits } := by
  have head : ∀ {sign digits : Text}, IsDigits digits →
      (sign ++ (digits ++ rest)).head? = (sign ++ digits).head? := by
    intro sign digits h
    obtain ⟨c, others, rfl⟩ := List.exists_cons_of_ne_nil h.ne_nil
    cases sign <;> rfl
  constructor
  · intro h
    unfold exponent at h
    split at h
    next c behind =>
      split at h
      next letter =>
        obtain ⟨unsigned, found, same⟩ := bind_eq_ok_iff.1 h
        obtain ⟨rest_eq, rfl⟩ := Prod.mk.inj (Except.ok.inj same)
        obtain ⟨dropped, d, others, rfl, digit⟩ := exponentDigits_eq_ok_iff.1 found
        obtain ⟨split, digits, apart⟩ := digits_iff.1 ⟨rfl, rest_eq⟩
        have digits : IsDigits ((d :: others).takeWhile Char.isDigit) := ⟨by simp [digit], digits⟩
        rw [split] at dropped
        obtain ⟨sign, isSign, rfl⟩ := (dropSign_iff digits.unsigned).1 dropped
        exact .inr ⟨c, sign, _, letter, isSign, rfl, digits, apart, by rw [head digits]⟩
      next other =>
        obtain ⟨rfl, rfl⟩ := Prod.mk.inj (Except.ok.inj h)
        exact .inl ⟨rfl, rfl, by simpa [not_or] using other⟩
    next =>
      obtain ⟨rfl, rfl⟩ := Prod.mk.inj (Except.ok.inj h)
      exact .inl ⟨rfl, rfl, by simp⟩
  · rintro (⟨rfl, rfl, other⟩ | ⟨c, sign, digits, letter, isSign, rfl, isDigits, apart, rfl⟩)
    · cases text with
      | nil => rfl
      | cons c text => simp [exponent, other c rfl]
    · obtain ⟨taken, dropped⟩ := digits_iff.2 ⟨rfl, isDigits.digit, apart⟩
      obtain ⟨d, others, rfl⟩ := List.exists_cons_of_ne_nil isDigits.ne_nil
      have unsigned : dropSign ['+', '-'] (sign ++ (d :: others ++ rest)) = d :: others ++ rest :=
        (dropSign_iff isDigits.unsigned).2 ⟨sign, isSign, rfl⟩
      have found := exponentDigits_eq_ok_iff.2
        ⟨unsigned, d, others ++ rest, rfl, isDigits.digit d (by simp)⟩
      unfold exponent
      dsimp only
      rw [if_pos letter, found, head isDigits]
      exact congrArg Except.ok (Prod.ext dropped (congrArg (Exponent.mk _) taken))

theorem reads_numberAt_iff {text rest : Text} {a : Json} : Reads numberAt text a rest ↔
    ∃ afterWhole wholeDigits afterFraction fractionDigits power,
      whole (dropSign ['-'] text) = .ok (afterWhole, wholeDigits) ∧
      fraction afterWhole = .ok (afterFraction, fractionDigits) ∧
      exponent afterFraction = .ok (rest, power) ∧
      excess? wholeDigits fractionDigits power = none ∧ a = .number (consumed text rest) := by
  constructor
  · rintro ⟨reading, h, rfl, rfl⟩
    unfold numberAt at h
    split at h
    · cases h
    next afterWhole wholeDigits isWhole =>
      split at h
      · cases h
      next afterFraction fractionDigits isFraction =>
        split at h
        · cases h
        next rest power isExponent =>
          split at h
          · cases h
          next finite =>
            obtain rfl := Except.ok.inj h
            exact ⟨_, _, _, _, _, isWhole, isFraction, isExponent, finite, rfl⟩
  · rintro ⟨afterWhole, wholeDigits, afterFraction, fractionDigits, power, isWhole, isFraction,
      isExponent, finite, rfl⟩
    unfold Reads numberAt
    split
    next fault isFault => cases isFault.symm.trans isWhole
    next isWhole' =>
      obtain ⟨rfl, rfl⟩ := Prod.mk.inj (Except.ok.inj (isWhole'.symm.trans isWhole))
      split
      next fault isFault => cases isFault.symm.trans isFraction
      next isFraction' =>
        obtain ⟨rfl, rfl⟩ := Prod.mk.inj (Except.ok.inj (isFraction'.symm.trans isFraction))
        split
        next fault isFault => cases isFault.symm.trans isExponent
        next isExponent' =>
          obtain ⟨rfl, rfl⟩ := Prod.mk.inj (Except.ok.inj (isExponent'.symm.trans isExponent))
          simp only [finite]
          exact ⟨_, rfl, rfl, rfl⟩

theorem head_append {P : Char → Prop} {front rest : Text} (hf : ∀ c ∈ front.head?, P c)
    (hr : ∀ c ∈ rest.head?, P c) : ∀ c ∈ (front ++ rest).head?, P c := by
  cases front with
  | nil => exact hr
  | cons d front => exact hf

@[simp] theorem consumed_append (token rest : Text) : consumed (token ++ rest) rest = token := by
  simp [consumed]

/-- What can follow a number: nothing that would make it longer. -/
def EndsNumber (text : Text) : Prop :=
  ∀ c ∈ text.head?, c.isDigit = false ∧ c ≠ '.' ∧ c ≠ 'e' ∧ c ≠ 'E'

@[simp] theorem not_prolonging_of_isBlank {c : Char} (blank : isBlank c = true) :
    c.isDigit = false ∧ c ≠ '.' ∧ c ≠ 'e' ∧ c ≠ 'E' := by
  simp only [isBlank, Bool.or_eq_true, beq_iff_eq] at blank
  obtain ((rfl | rfl) | rfl) | rfl := blank <;> decide

@[simp] theorem endsNumber_nil : EndsNumber [] := nofun

theorem endsNumber_cons {c : Char} {text : Text}
    (h : c.isDigit = false ∧ c ≠ '.' ∧ c ≠ 'e' ∧ c ≠ 'E') : EndsNumber (c :: text) := by
  rintro _ ⟨⟩
  exact h

/-! How the parts are written. -/

/-- The parts of a written number, apart from its sign. -/
structure Numeral where
  whole : Text
  fraction : Text
  power : Exponent

def IsFraction (digits text : Text) : Prop :=
  text = [] ∧ digits = [] ∨ text = '.' :: digits ∧ IsDigits digits

def IsPower (power : Exponent) (text : Text) : Prop :=
  text = [] ∧ power = {} ∨ ∃ c sign, (c = 'e' ∨ c = 'E') ∧ IsSign ['+', '-'] sign ∧
    IsDigits power.digits ∧ (power.isNegative = true ↔ sign = ['-']) ∧
    text = c :: (sign ++ power.digits)

namespace Numeral

/-- How a number is written. A zero in front is the only digit of the whole part. -/
structure IsWritten (n : Numeral) (text : Text) : Prop where
  isWhole : IsDigits n.whole
  alone : n.whole.head? = some '0' → n.whole = ['0']
  parts : ∃ sign point power, IsSign ['-'] sign ∧ IsFraction n.fraction point ∧
    IsPower n.power power ∧ text = sign ++ (n.whole ++ (point ++ power))

/-- The binary value that the reader makes of the number is finite. It rounds the digits that fit
64 bits, and the power of ten, and then their product. -/
def IsFinite (n : Numeral) : Prop := excess? n.whole n.fraction n.power = none

end Numeral

variable {text rest digits : Text} {power : Exponent}

theorem IsFraction.digit (h : IsFraction digits text) : ∀ c ∈ digits, c.isDigit := by
  obtain ⟨-, rfl⟩ | ⟨-, isDigits⟩ := h
  · exact nofun
  · exact isDigits.digit

theorem IsFraction.head (h : IsFraction digits text) : ∀ c ∈ text.head?, c = '.' := by
  obtain ⟨rfl, -⟩ | ⟨rfl, -⟩ := h
  · exact nofun
  · exact fun c hc => (Option.some.inj hc).symm

theorem IsPower.head (h : IsPower power text) : ∀ c ∈ text.head?, c = 'e' ∨ c = 'E' := by
  obtain ⟨rfl, -⟩ | ⟨c, sign, letter, -, -, -, rfl⟩ := h
  · exact nofun
  · exact fun d hd => Option.some.inj hd ▸ letter

theorem IsFraction.plain (h : IsFraction digits text) : Plain text := by
  obtain ⟨rfl, -⟩ | ⟨rfl, isDigits⟩ := h
  · exact plain_nil
  · exact .cons (by decide) (plain_of_digits isDigits.digit)

theorem IsPower.plain (h : IsPower power text) : Plain text := by
  obtain ⟨rfl, -⟩ | ⟨c, sign, letter, isSign, isDigits, -, rfl⟩ := h
  · exact plain_nil
  · have plainLetter : 0x20 ≤ c.toNat := by obtain rfl | rfl := letter <;> decide
    have plainSign : Plain sign := isSign.plain (by simp [Plain])
    exact .cons plainLetter (plainSign.append (plain_of_digits isDigits.digit))

theorem exists_isFraction (h : fraction text = .ok (rest, digits)) :
    ∃ point, IsFraction digits point ∧ text = point ++ rest := by
  obtain ⟨rfl, rfl, -⟩ | ⟨rfl, isDigits, -⟩ := fraction_eq_ok_iff.1 h
  · exact ⟨[], .inl ⟨rfl, rfl⟩, rfl⟩
  · exact ⟨'.' :: digits, .inr ⟨rfl, isDigits⟩, rfl⟩

theorem fraction_of_isFraction {point : Text} (h : IsFraction digits point)
    (ends : ∀ c ∈ rest.head?, c.isDigit = false ∧ c ≠ '.') :
    fraction (point ++ rest) = .ok (rest, digits) := by
  refine fraction_eq_ok_iff.2 ?_
  obtain ⟨rfl, rfl⟩ | ⟨rfl, isDigits⟩ := h
  · exact .inl ⟨rfl, rfl, fun point => (ends _ point).2 rfl⟩
  · exact .inr ⟨rfl, isDigits, fun c hc => (ends c hc).1⟩

/-- The sign of an exponent shows at its first character. -/
theorem head_eq_minus_iff {sign : Text} (isSign : IsSign ['+', '-'] sign) (h : IsDigits digits) :
    ((sign ++ digits).head? == some '-') = true ↔ sign = ['-'] := by
  have unsigned : ∀ c ∈ (digits ++ []).head?, c ∉ ['+', '-'] := h.unsigned
  rw [List.append_nil] at unsigned
  obtain rfl | ⟨c, signed, rfl⟩ := isSign
  · simp only [List.nil_append, beq_iff_eq]
    exact ⟨fun minus => absurd (by decide) (unsigned _ minus), nofun⟩
  · simp

theorem exists_isPower (h : exponent text = .ok (rest, power)) :
    ∃ written, IsPower power written ∧ text = written ++ rest := by
  obtain ⟨rfl, rfl, -⟩ | ⟨c, sign, digits, letter, isSign, rfl, isDigits, -, rfl⟩ :=
    exponent_eq_ok_iff.1 h
  · exact ⟨[], .inl ⟨rfl, rfl⟩, rfl⟩
  · exact ⟨c :: (sign ++ digits), .inr ⟨c, sign, letter, isSign, isDigits,
      head_eq_minus_iff isSign isDigits, rfl⟩, by simp⟩

theorem exponent_of_isPower {written : Text} (h : IsPower power written)
    (ends : ∀ c ∈ rest.head?, c.isDigit = false ∧ c ≠ 'e' ∧ c ≠ 'E') :
    exponent (written ++ rest) = .ok (rest, power) := by
  refine exponent_eq_ok_iff.2 ?_
  obtain ⟨rfl, rfl⟩ | ⟨c, sign, letter, isSign, isDigits, negative, rfl⟩ := h
  · exact .inl ⟨rfl, rfl, fun c hc => (ends c hc).2⟩
  · refine .inr ⟨c, sign, power.digits, letter, isSign, by simp, isDigits,
      fun c hc => (ends c hc).1, ?_⟩
    have same := Bool.eq_iff_iff.2 (negative.trans (head_eq_minus_iff isSign isDigits).symm)
    rw [← same]

theorem Numeral.isWritten_power {whole digits : Text} (isWhole : IsDigits whole)
    (alone : whole.head? = some '0' → whole = ['0']) (isDigits : IsDigits digits) :
    IsWritten ⟨whole, [], ⟨false, digits⟩⟩ (whole ++ 'e' :: digits) :=
  ⟨isWhole, alone, [], [], 'e' :: digits, .inl rfl, .inl ⟨rfl, rfl⟩,
    .inr ⟨'e', [], .inl rfl, .inl rfl, isDigits, by simp, rfl⟩, rfl⟩

theorem exists_numeral {a : Json} (h : Reads numberAt text a rest) : ∃ token n,
    text = token ++ rest ∧ a = .number token ∧ Numeral.IsWritten n token ∧ n.IsFinite := by
  obtain ⟨_, wholeDigits, _, fractionDigits, power, isWhole, isFraction, isExponent, finite, rfl⟩ :=
    reads_numberAt_iff.1 h
  obtain ⟨unsigned, isDigits, alone, -⟩ := whole_eq_ok_iff.1 isWhole
  obtain ⟨sign, isSign, rfl⟩ := (dropSign_iff isDigits.noMinus).1 unsigned
  obtain ⟨point, isPoint, rfl⟩ := exists_isFraction isFraction
  obtain ⟨written, isPower, rfl⟩ := exists_isPower isExponent
  have cut : sign ++ (wholeDigits ++ (point ++ (written ++ rest))) =
      sign ++ (wholeDigits ++ (point ++ written)) ++ rest := by simp
  exact ⟨_, ⟨wholeDigits, fractionDigits, power⟩, cut, by rw [cut, consumed_append],
    ⟨isDigits, alone, sign, point, written, isSign, isPoint, isPower, rfl⟩, finite⟩

namespace Numeral.IsWritten

variable {n : Numeral}

theorem plain (h : n.IsWritten text) : Plain text := by
  obtain ⟨isDigits, -, sign, point, written, isSign, isPoint, isPower, rfl⟩ := h
  exact (isSign.plain (by simp [Plain])).append
    ((plain_of_digits isDigits.digit).append (isPoint.plain.append isPower.plain))

/-- A finite number is read as it is written, with anything behind it that does not prolong it. -/
theorem reads (h : n.IsWritten text) (finite : n.IsFinite) (ends : EndsNumber rest) :
    Reads numberAt (text ++ rest) (.number text) rest := by
  obtain ⟨isDigits, alone, sign, point, written, isSign, isPoint, isPower, rfl⟩ := h
  have endsFraction : ∀ c ∈ (written ++ rest).head?, c.isDigit = false ∧ c ≠ '.' := by
    refine head_append (fun c hc => ?_) fun c hc => ⟨(ends c hc).1, (ends c hc).2.1⟩
    obtain rfl | rfl := isPower.head c hc <;> decide
  have endsWhole : NoDigit (point ++ (written ++ rest)) := by
    refine head_append (fun c hc => ?_) fun c hc => (endsFraction c hc).1
    obtain rfl := isPoint.head c hc
    rfl
  have cut : sign ++ (n.whole ++ (point ++ written)) ++ rest =
      sign ++ (n.whole ++ (point ++ (written ++ rest))) := by simp
  refine reads_numberAt_iff.2 ⟨_, n.whole, _, n.fraction, n.power, ?_,
    fraction_of_isFraction isPoint endsFraction,
    exponent_of_isPower isPower fun c hc => ⟨(ends c hc).1, (ends c hc).2.2⟩, finite,
    by rw [consumed_append]⟩
  rw [cut, (dropSign_iff isDigits.noMinus).2 ⟨sign, isSign, rfl⟩]
  exact whole_eq_ok_iff.2 ⟨rfl, isDigits, alone, endsWhole⟩

end Numeral.IsWritten

@[simp] theorem readsToken_numberAt : ReadsToken EndsNumber numberAt := by
  intro text a rest h
  obtain ⟨token, n, rfl, rfl, written, finite⟩ := exists_numeral h
  exact ⟨token, rfl, written.plain, fun rest' ends => written.reads finite ends⟩

def IsNumber (lexeme : Text) : Prop := Reads numberAt lexeme (.number lexeme) []

theorem isNumber_iff {lexeme : Text} :
    IsNumber lexeme ↔ ∃ n : Numeral, n.IsWritten lexeme ∧ n.IsFinite := by
  constructor
  · intro h
    obtain ⟨token, n, cut, -, written, finite⟩ := exists_numeral h
    rw [List.append_nil] at cut
    exact ⟨n, cut ▸ written, finite⟩
  · rintro ⟨n, written, finite⟩
    have read : Reads numberAt (lexeme ++ []) (.number lexeme) [] :=
      written.reads finite endsNumber_nil
    rwa [List.append_nil] at read

theorem IsNumber.reads {lexeme rest : Text} (h : IsNumber lexeme) (ends : EndsNumber rest) :
    Reads numberAt (lexeme ++ rest) (.number lexeme) rest := by
  obtain ⟨n, written, finite⟩ := isNumber_iff.1 h
  exact written.reads finite ends

end Json
end HttpContract
