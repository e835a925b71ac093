import HttpContract.Proofs.Json.Reads

/-! Words and quoted texts: the same characters are read the same way wherever they stand. -/
namespace HttpContract
namespace Json

/-- No control characters. -/
def Plain (text : Text) : Prop := ∀ c ∈ text, 0x20 ≤ c.toNat

theorem Plain.append {front rest : Text} (hf : Plain front) (hr : Plain rest) :
    Plain (front ++ rest) :=
  List.forall_mem_append.2 ⟨hf, hr⟩

@[simp] theorem plain_nil : Plain [] := fun _ h => absurd h List.not_mem_nil

theorem Plain.cons {c : Char} {rest : Text} (hc : 0x20 ≤ c.toNat) (hr : Plain rest) :
    Plain (c :: rest) :=
  List.forall_mem_cons.2 ⟨hc, hr⟩

/-- What a reader reads is a plain token, and it is read with any `allowed` text behind it. -/
def ReadsToken {α : Type} (allowed : Text → Prop) (reader : Reader α) : Prop :=
  ∀ {text a rest}, Reads reader text a rest → ∃ token, text = token ++ rest ∧ Plain token ∧
    ∀ rest', allowed rest' → Reads reader (token ++ rest') a rest'

def Anything (_ : Text) : Prop := True

/-! Words. -/

theorem reads_ident_iff {value a : Json} {word text rest : Text} (h : word ≠ []) :
    Reads (ident value word) text a rest ↔ text = word ++ rest ∧ a = value := by
  unfold Reads
  fun_induction ident value word text with
  | case1 => simp [failNext, h]
  | case2 => exact absurd rfl h
  | case3 c tail =>
    simp only [Except.ok.injEq, exists_eq_left', List.cons_append, List.nil_append, List.cons.injEq,
      true_and, eq_comm (a := value)]
    exact and_comm
  | case4 c tail d other =>
    simp [failNext, Ne.symm other]
  | case5 second word first tail ih =>
    rw [List.cons_append, List.cons.injEq, eq_self_iff_true, true_and, ← ih (List.cons_ne_nil _ _)]
    constructor
    · rintro ⟨_, h, rfl, rfl⟩
      obtain ⟨reading, inner, same⟩ := bind_eq_ok_iff.1 h
      obtain rfl := Except.ok.inj same
      exact ⟨reading, inner, rfl, rfl⟩
    · rintro ⟨reading, inner, rfl, rfl⟩
      exact ⟨_, bind_eq_ok_iff.2 ⟨reading, inner, rfl⟩, rfl, rfl⟩
  | case6 first second word c tail other =>
    simp [failNext, Ne.symm other]

theorem readsToken_ident {value : Json} {word : Text} (h : word ≠ []) (plain : Plain word) :
    ReadsToken Anything (ident value word) := by
  intro text a rest reads
  obtain ⟨rfl, rfl⟩ := (reads_ident_iff h).1 reads
  exact ⟨word, rfl, plain, fun rest' _ => (reads_ident_iff h).2 ⟨rfl, rfl⟩⟩

/-! Quoted texts. -/

theorem plain_of_digitValue? {c : Char} {n : Nat} (h : Text.digitValue? c = some n) :
    0x20 ≤ c.toNat := by
  have low : ∀ {d : Char}, 0x20 ≤ d.toNat → d ≤ c → 0x20 ≤ c.toNat :=
    fun hd hc => Nat.le_trans hd (UInt32.le_iff_toNat_le.1 hc)
  unfold Text.digitValue? at h
  split_ifs at h with decimal lower upper
  · exact low (by decide) decimal.1
  · exact low (by decide) lower.1
  · exact low (by decide) upper.1

theorem plain_of_natOfDigits? {base n : Nat} {digits : Text}
    (h : Text.natOfDigits? base digits = some n) : Plain digits := by
  have folded : ∀ {digits : Text} {start : Nat}, (digits.foldlM (fun value c => do
      let digit ← Text.digitValue? c
      if digit < base then some (value * base + digit) else none) start) = some n →
      Plain digits := by
    intro digits
    induction digits with
    | nil => exact fun _ => plain_nil
    | cons c digits ih =>
      intro start h
      rw [List.foldlM_cons] at h
      obtain ⟨next, step, others⟩ := Option.bind_eq_some_iff.1 h
      obtain ⟨digit, isDigit, -⟩ := Option.bind_eq_some_iff.1 step
      exact .cons (plain_of_digitValue? isDigit) (ih others)
  unfold Text.natOfDigits? at h
  split at h
  · cases h
  · exact folded h

theorem reads_hexFour_iff {text rest : Text} {n : Nat} : Reads hexFour text n rest ↔
    ∃ a b c d, text = a :: b :: c :: d :: rest ∧ Text.natOfDigits? 16 [a, b, c, d] = some n := by
  constructor
  · rintro ⟨reading, h, rfl, rfl⟩
    unfold hexFour at h
    split at h
    next a b c d rest =>
      split at h
      next value found =>
        obtain rfl := Except.ok.inj h
        exact ⟨a, b, c, d, rfl, found⟩
      next => exact absurd h (by simp [shortOfFour, failNext, ite_eq_iff])
    next => exact absurd h (by simp [shortOfFour, failNext, ite_eq_iff])
  · rintro ⟨a, b, c, d, rfl, found⟩
    unfold Reads hexFour
    simp only [found]
    exact ⟨_, rfl, rfl, rfl⟩

@[simp] theorem readsToken_hexFour : ReadsToken Anything hexFour := by
  intro text n rest h
  obtain ⟨a, b, c, d, rfl, found⟩ := reads_hexFour_iff.1 h
  exact ⟨[a, b, c, d], rfl, plain_of_natOfDigits? found,
    fun rest' _ => reads_hexFour_iff.2 ⟨a, b, c, d, rfl, found⟩⟩

theorem reads_trailingUnit_iff {text rest : Text} {n : Nat} : Reads trailingUnit text n rest ↔
    ∃ behind, text = '\\' :: 'u' :: behind ∧ Reads hexFour behind n rest ∧
      isTrailingSurrogate n = true := by
  constructor
  · rintro ⟨reading, h, rfl, rfl⟩
    unfold trailingUnit at h
    split at h
    case h_3 behind =>
      obtain ⟨reading', inner, h⟩ := bind_eq_ok_iff.1 h
      split at h
      next trailing =>
        obtain rfl := Except.ok.inj h
        exact ⟨behind, rfl, reads_of_eq inner, trailing⟩
      next => cases h
    all_goals cases h
  · rintro ⟨behind, rfl, ⟨reading, inner, rfl, rfl⟩, trailing⟩
    unfold Reads trailingUnit
    simp only [inner, bind, Except.bind, trailing, if_true]
    exact ⟨_, rfl, rfl, rfl⟩

@[simp] theorem readsToken_trailingUnit : ReadsToken Anything trailingUnit := by
  intro text n rest h
  obtain ⟨behind, rfl, hex, trailing⟩ := reads_trailingUnit_iff.1 h
  obtain ⟨token, rfl, plain, again⟩ := readsToken_hexFour hex
  exact ⟨'\\' :: 'u' :: token, rfl, .cons (by decide) (.cons (by decide) plain), fun rest' _ =>
    reads_trailingUnit_iff.2 ⟨token ++ rest', rfl, again rest' trivial, trailing⟩⟩

theorem reads_unicodeEscape_iff {text rest : Text} {meant : Char} :
    Reads unicodeEscape text meant rest ↔
      ∃ n behind, Reads hexFour text n behind ∧ isTrailingSurrogate n = false ∧
        if isLeadingSurrogate n then ∃ m, Reads trailingUnit behind m rest ∧
          Char.ofNat ((n - 0xD800) * 0x400 + (m - 0xDC00) + 0x10000) = meant
        else rest = behind ∧ meant = Char.ofNat n := by
  constructor
  · rintro ⟨reading, h, rfl, rfl⟩
    obtain ⟨first, hex, h⟩ := bind_eq_ok_iff.1 h
    refine ⟨_, _, reads_of_eq hex, ?_⟩
    split at h
    next => cases h
    next single =>
      refine ⟨by simpa using single, ?_⟩
      split at h
      next leading =>
        obtain ⟨second, pair, same⟩ := bind_eq_ok_iff.1 h
        rw [if_pos leading]
        obtain rfl := Except.ok.inj same
        exact ⟨second.value, reads_of_eq pair, by dsimp only⟩
      next alone =>
        obtain rfl := Except.ok.inj h
        rw [if_neg alone]
        exact ⟨rfl, rfl⟩
  · rintro ⟨_, _, ⟨first, hex, rfl, rfl⟩, single, second⟩
    unfold Reads unicodeEscape
    simp only [hex, bind, Except.bind, single]
    split at second
    next leading =>
      obtain ⟨m, ⟨reading, pair, rfl, rfl⟩, rfl⟩ := second
      simp only [leading, if_true, pair]
      exact ⟨_, rfl, by dsimp only, rfl⟩
    next alone =>
      obtain ⟨rfl, rfl⟩ := second
      simp only [alone]
      exact ⟨_, rfl, rfl, rfl⟩

@[simp] theorem readsToken_unicodeEscape : ReadsToken Anything unicodeEscape := by
  intro text meant rest h
  obtain ⟨n, behind, hex, single, second⟩ := reads_unicodeEscape_iff.1 h
  obtain ⟨token, rfl, plain, again⟩ := readsToken_hexFour hex
  split at second
  next leading =>
    obtain ⟨m, trailing, rfl⟩ := second
    obtain ⟨token', rfl, plain', again'⟩ := readsToken_trailingUnit trailing
    refine ⟨token ++ token', (List.append_assoc ..).symm, plain.append plain', fun rest' _ => ?_⟩
    rw [List.append_assoc]
    exact reads_unicodeEscape_iff.2 ⟨n, token' ++ rest', again _ trivial, single, by
      rw [if_pos leading]
      exact ⟨m, again' rest' trivial, rfl⟩⟩
  next alone =>
    obtain ⟨rfl, rfl⟩ := second
    exact ⟨token, rfl, plain, fun rest' _ => reads_unicodeEscape_iff.2
      ⟨n, rest', again rest' trivial, single, by rw [if_neg alone]; exact ⟨rfl, rfl⟩⟩⟩

theorem reads_escape_iff {text rest : Text} {meant : Char} : Reads escape text meant rest ↔
    (∃ behind, text = 'u' :: behind ∧ Reads unicodeEscape behind meant rest) ∨
    ∃ c, text = c :: rest ∧ simpleEscape? c = some meant := by
  constructor
  · rintro ⟨reading, h, rfl, rfl⟩
    unfold escape at h
    split at h
    · cases h
    next c behind =>
      split at h
      next unicode =>
        obtain ⟨inner, read, same⟩ := bind_eq_ok_iff.1 h
        obtain rfl := Except.ok.inj same
        exact .inl ⟨behind, unicode ▸ rfl, reads_of_eq read⟩
      next =>
        split at h
        next meant simple =>
          obtain rfl := Except.ok.inj h
          exact .inr ⟨c, rfl, simple⟩
        next => cases h
  · rintro (⟨behind, rfl, reading, read, rfl, rfl⟩ | ⟨c, rfl, simple⟩)
    · exact ⟨_, bind_eq_ok_iff.2 ⟨reading, read, rfl⟩, rfl, rfl⟩
    · have single : c ≠ 'u' := by
        rintro rfl
        cases simple
      unfold Reads escape
      simp only [single, if_false, simple]
      exact ⟨_, rfl, rfl, rfl⟩

@[simp] theorem readsToken_escape : ReadsToken Anything escape := by
  intro text meant rest h
  obtain ⟨behind, rfl, unicode⟩ | ⟨c, rfl, simple⟩ := reads_escape_iff.1 h
  · obtain ⟨token, rfl, plain, again⟩ := readsToken_unicodeEscape unicode
    exact ⟨'u' :: token, rfl, .cons (by decide) plain, fun rest' _ =>
      reads_escape_iff.2 (.inl ⟨token ++ rest', rfl, again rest' trivial⟩)⟩
  · refine ⟨[c], rfl, .cons ?_ plain_nil, fun rest' _ =>
      reads_escape_iff.2 (.inr ⟨c, rfl, simple⟩)⟩
    unfold simpleEscape? at simple
    split at simple
    case h_9 => cases simple
    all_goals decide

/-- A quoted text ends, or goes on behind an escape or a character that stands for itself. -/
theorem reads_stringBody_iff {text rest meant : Text} : Reads stringBody text meant rest ↔
    (text = '"' :: rest ∧ meant = []) ∨
    (∃ behind middle c others, text = '\\' :: behind ∧ Reads escape behind c middle ∧
      Reads stringBody middle others rest ∧ meant = c :: others) ∨
    ∃ c behind others, text = c :: behind ∧ c ≠ '"' ∧ c ≠ '\\' ∧ 0x20 ≤ c.toNat ∧
      Reads stringBody behind others rest ∧ meant = c :: others := by
  constructor
  · rintro ⟨reading, h, rfl, rfl⟩
    rw [stringBody.eq_def] at h
    split at h
    · cases h
    next c behind =>
      split_ifs at h with closed escaped control
      · obtain rfl := Except.ok.inj h
        exact .inl ⟨closed ▸ rfl, rfl⟩
      · obtain ⟨first, read, h⟩ := bind_eq_ok_iff.1 h
        obtain ⟨others, further, same⟩ := bind_eq_ok_iff.1 h
        obtain rfl := Except.ok.inj same
        exact .inr (.inl ⟨behind, _, _, _, escaped ▸ rfl, reads_of_eq read, reads_of_eq further,
          rfl⟩)
      · cases h
      · obtain ⟨others, further, same⟩ := bind_eq_ok_iff.1 h
        obtain rfl := Except.ok.inj same
        exact .inr (.inr ⟨c, behind, _, rfl, closed, escaped, Nat.le_of_not_lt control,
          reads_of_eq further, rfl⟩)
  · unfold Reads
    rintro (⟨rfl, rfl⟩ | ⟨behind, _, _, _, rfl, ⟨first, read, rfl, rfl⟩,
      ⟨others, further, rfl, rfl⟩, rfl⟩ |
      ⟨c, behind, _, rfl, closed, escaped, control, ⟨others, further, rfl, rfl⟩, rfl⟩)
    · rw [stringBody]
      exact ⟨_, rfl, rfl, rfl⟩
    · rw [stringBody]
      simp only [read, further, bind, Except.bind]
      exact ⟨_, rfl, rfl, rfl⟩
    · rw [stringBody]
      simp only [closed, escaped, Nat.not_lt.2 control, further, bind, Except.bind, if_false]
      exact ⟨_, rfl, rfl, rfl⟩

@[simp] theorem readsToken_stringBody : ReadsToken Anything stringBody := by
  intro text
  -- An escape takes more than one character, so the induction is on the length.
  induction hn : text.length using Nat.strongRecOn generalizing text with
  | ind n ih =>
    intro meant rest h
    obtain ⟨rfl, rfl⟩ | ⟨behind, middle, c, others, rfl, first, further, rfl⟩ |
      ⟨c, behind, others, rfl, closed, escaped, control, further, rfl⟩ := reads_stringBody_iff.1 h
    · exact ⟨['"'], rfl, .cons (by decide) plain_nil,
        fun rest' _ => reads_stringBody_iff.2 (.inl ⟨rfl, rfl⟩)⟩
    · obtain ⟨token, rfl, plain, again⟩ := readsToken_escape first
      obtain ⟨token', rfl, plain', again'⟩ := ih middle.length (by simp at hn; omega) rfl further
      refine ⟨'\\' :: (token ++ token'), by simp, .cons (by decide) (plain.append plain'),
        fun rest' _ => reads_stringBody_iff.2 (.inr (.inl ?_))⟩
      exact ⟨token ++ (token' ++ rest'), token' ++ rest', c, others, by simp, again _ trivial,
        again' _ trivial, rfl⟩
    · obtain ⟨token, rfl, plain, again⟩ := ih behind.length (by simp at hn; omega) rfl further
      exact ⟨c :: token, rfl, .cons control plain, fun rest' _ => reads_stringBody_iff.2 (.inr (.inr
        ⟨c, token ++ rest', others, rfl, closed, escaped, control, again _ trivial, rfl⟩))⟩

end Json
end HttpContract
