import HttpContract.Proofs.Json.Numeral
import HttpContract.Proofs.Json.Printing

/-! The grammar of JSON documents, told without the reader, and the reader decides it: blanks around
a value, which is a word, a quoted text, a number, or a row of values or members between brackets.
Which numbers there are is left open, and so is how deep rows nest. -/
namespace HttpContract
namespace Json

/-! Blanks. -/

def IsSpace (text : Text) : Prop := ∀ c ∈ text, c ∈ [' ', '\t', '\n', '\r']

def Indented (P : Text → Prop) (text : Text) : Prop :=
  ∃ blanks token, IsSpace blanks ∧ P token ∧ text = blanks ++ token

def Spaced (P : Text → Prop) (text : Text) : Prop :=
  ∃ front blanks, Indented P front ∧ IsSpace blanks ∧ text = front ++ blanks

/-! Quoted texts. -/

/-- Four hexadecimal digits and their value. -/
def IsUnit (digits : Text) (unit : Nat) : Prop :=
  digits.length = 4 ∧ Text.natOfDigits? 16 digits = some unit

inductive IsQuotable : Text → Prop
  | plain {c : Char} (shown : 0x20 ≤ c.toNat) (closed : c ≠ '"') (escaped : c ≠ '\\') :
      IsQuotable [c]
  | simple {c : Char} (h : c ∈ ['"', '\\', '/', 'b', 'f', 'n', 'r', 't']) : IsQuotable ['\\', c]
  | unit {digits : Text} {n : Nat} (hex : IsUnit digits n) (h : n < 0xD800 ∨ 0xDFFF < n) :
      IsQuotable ('\\' :: 'u' :: digits)
  | pair {first second : Text} {n m : Nat} (hex : IsUnit first n) (hex' : IsUnit second m)
      (leading : 0xD800 ≤ n ∧ n ≤ 0xDBFF) (trailing : 0xDC00 ≤ m ∧ m ≤ 0xDFFF) :
      IsQuotable ('\\' :: 'u' :: (first ++ '\\' :: 'u' :: second))

def IsQuoted (text : Text) : Prop :=
  ∃ chars : List Text, (∀ char ∈ chars, IsQuotable char) ∧ text = '"' :: (chars.flatten ++ ['"'])

/-! Rows and values. -/

/-- One or more of a kind with commas between them. -/
inductive Separated (P : Text → Prop) : Text → Prop
  | one {text : Text} (single : P text) : Separated P text
  | more {first others : Text} (head : P first) (further : Separated P others) :
      Separated P (first ++ ',' :: others)

/-- Any number of a kind between brackets, each between blanks. -/
def IsRow (opening closing : Char) (P : Text → Prop) (text : Text) : Prop :=
  ∃ inner, (IsSpace inner ∨ Separated (Spaced P) inner) ∧ text = opening :: (inner ++ [closing])

def IsMember (P : Text → Prop) (text : Text) : Prop :=
  ∃ key blanks item, IsQuoted key ∧ IsSpace blanks ∧ Indented P item ∧
    text = key ++ (blanks ++ ':' :: item)

def IsScalar (allowed : Numeral → Prop) (text : Text) : Prop :=
  text ∈ (["null", "true", "false"] : List Text) ∨ IsQuoted text ∨
    ∃ n : Numeral, n.IsWritten text ∧ allowed n

/-- A value in which rows nest at most so deep. -/
def IsValue (allowed : Numeral → Prop) : (depth : Nat) → Text → Prop
  | 0 => IsScalar allowed
  | depth + 1 => fun text => IsScalar allowed text ∨
      IsRow '[' ']' (IsValue allowed depth) text ∨
      IsRow '\x7b' '\x7d' (IsMember (IsValue allowed depth)) text

def IsDocument (allowed : Numeral → Prop) (depth : Nat) : Text → Prop :=
  Spaced (IsValue allowed depth)

/-! The reader reads what the grammar tells. -/

section

variable {text rest blanks : Text}

theorem isBlank_iff {c : Char} : isBlank c = true ↔ c ∈ [' ', '\t', '\n', '\r'] := by
  simp only [isBlank, Bool.or_eq_true, beq_iff_eq, List.mem_cons, List.not_mem_nil, or_false]
  tauto

theorem isSpace_iff : IsSpace text ↔ ∀ c ∈ text, isBlank c = true :=
  forall₂_congr fun _ _ => isBlank_iff.symm

theorem exists_skip (text : Text) : ∃ blanks, IsSpace blanks ∧ text = blanks ++ skip text :=
  ⟨text.takeWhile isBlank, isSpace_iff.2 fun _ hc => List.mem_takeWhile_imp hc,
    List.takeWhile_append_dropWhile.symm⟩

theorem IsSpace.append (h : IsSpace blanks) (h' : IsSpace text) : IsSpace (blanks ++ text) :=
  List.forall_mem_append.2 ⟨h, h'⟩

theorem isSpace_nil : IsSpace [] := nofun

theorem IsSpace.skip_append (h : IsSpace blanks) (text : Text) :
    skip (blanks ++ text) = skip text :=
  List.dropWhile_append_of_pos (isSpace_iff.1 h)

theorem skip_eq_nil_iff : skip text = [] ↔ IsSpace text := by
  rw [isSpace_iff, skip, List.dropWhile_eq_nil_iff]

theorem IsSpace.endsNumber (h : IsSpace blanks) (ends : EndsNumber rest) :
    EndsNumber (blanks ++ rest) :=
  head_append (fun c hc => not_prolonging_of_isBlank
    (isSpace_iff.1 h c (List.mem_of_mem_head? hc))) ends

end

/-! Quoted texts. -/

section

variable {text rest : Text}

theorem reads_hexFour_iff_isUnit {n : Nat} :
    Reads hexFour text n rest ↔ ∃ digits, IsUnit digits n ∧ text = digits ++ rest := by
  rw [reads_hexFour_iff]
  constructor
  · rintro ⟨a, b, c, d, rfl, found⟩
    exact ⟨[a, b, c, d], ⟨rfl, found⟩, rfl⟩
  · rintro ⟨digits, ⟨four, found⟩, rfl⟩
    obtain ⟨a, b, c, d, rfl⟩ := List.length_eq_four.1 four
    exact ⟨a, b, c, d, rfl, found⟩

theorem simpleEscape?_isSome_iff {c : Char} : (simpleEscape? c).isSome = true ↔
    c ∈ ['"', '\\', '/', 'b', 'f', 'n', 'r', 't'] := by
  unfold simpleEscape?
  split <;> simp_all

theorem exists_isQuotable {c : Char} (h : Reads escape text c rest) :
    ∃ token, IsQuotable ('\\' :: token) ∧ text = token ++ rest := by
  obtain ⟨behind, rfl, read⟩ | ⟨d, rfl, simple⟩ := reads_escape_iff.1 h
  · obtain ⟨n, middle, hex, single, second⟩ := reads_unicodeEscape_iff.1 read
    obtain ⟨first, isFirst, rfl⟩ := reads_hexFour_iff_isUnit.1 hex
    split at second
    next leading =>
      obtain ⟨m, pair, -⟩ := second
      obtain ⟨_, rfl, hex', trailing⟩ := reads_trailingUnit_iff.1 pair
      obtain ⟨digits, isSecond, rfl⟩ := reads_hexFour_iff_isUnit.1 hex'
      exact ⟨_, .pair isFirst isSecond (by simpa [isLeadingSurrogate] using leading)
        (by simpa [isTrailingSurrogate] using trailing), by simp⟩
    next alone =>
      obtain ⟨rfl, -⟩ := second
      refine ⟨_, .unit isFirst ?_, by simp⟩
      simp [isLeadingSurrogate, isTrailingSurrogate] at alone single
      omega
  · exact ⟨[d], .simple (simpleEscape?_isSome_iff.1 (by simp [simple])), rfl⟩

theorem reads_unit {digits : Text} {n : Nat} (hex : IsUnit digits n)
    (h : n < 0xD800 ∨ 0xDFFF < n) (rest : Text) :
    Reads unicodeEscape (digits ++ rest) (Char.ofNat n) rest := by
  have single : isTrailingSurrogate n = false := by
    simp only [isTrailingSurrogate, Bool.and_eq_false_iff, decide_eq_false_iff_not]
    omega
  have alone : ¬ isLeadingSurrogate n = true := by
    simp only [isLeadingSurrogate, Bool.and_eq_true, decide_eq_true_eq]
    omega
  refine reads_unicodeEscape_iff.2
    ⟨n, rest, reads_hexFour_iff_isUnit.2 ⟨digits, hex, rfl⟩, single, ?_⟩
  rw [if_neg alone]
  exact ⟨rfl, rfl⟩

theorem reads_pair {first second : Text} {n m : Nat} (hex : IsUnit first n) (hex' : IsUnit second m)
    (leading : 0xD800 ≤ n ∧ n ≤ 0xDBFF) (trailing : 0xDC00 ≤ m ∧ m ≤ 0xDFFF) (rest : Text) :
    Reads unicodeEscape (first ++ '\\' :: 'u' :: (second ++ rest))
      (Char.ofNat ((n - 0xD800) * 0x400 + (m - 0xDC00) + 0x10000)) rest := by
  have single : isTrailingSurrogate n = false := by
    simp only [isTrailingSurrogate, Bool.and_eq_false_iff, decide_eq_false_iff_not]
    omega
  have read : Reads trailingUnit ('\\' :: 'u' :: (second ++ rest)) m rest :=
    reads_trailingUnit_iff.2 ⟨_, rfl, reads_hexFour_iff_isUnit.2 ⟨second, hex', rfl⟩,
      by simpa [isTrailingSurrogate] using trailing⟩
  refine reads_unicodeEscape_iff.2
    ⟨n, _, reads_hexFour_iff_isUnit.2 ⟨first, hex, rfl⟩, single, ?_⟩
  rw [if_pos (by simpa [isLeadingSurrogate] using leading)]
  exact ⟨m, read, rfl⟩

theorem IsQuotable.reads {char others : Text} (h : IsQuotable char)
    (further : Reads stringBody text others rest) :
    ∃ meant, Reads stringBody (char ++ text) meant rest := by
  have escaped {token : Text} {c : Char} (read : Reads escape (token ++ text) c text) :
      ∃ meant, Reads stringBody ('\\' :: token ++ text) meant rest :=
    ⟨_, reads_stringBody_iff.2 (.inr (.inl ⟨_, text, c, others, rfl, read, further, rfl⟩))⟩
  cases h with
  | @plain c shown closed backslash =>
    exact ⟨_, reads_stringBody_iff.2
      (.inr (.inr ⟨c, text, others, rfl, closed, backslash, shown, further, rfl⟩))⟩
  | @simple d member =>
    obtain ⟨c, meant⟩ := Option.isSome_iff_exists.1 (simpleEscape?_isSome_iff.2 member)
    have read : Reads escape ([d] ++ text) c text := reads_escape_iff.2 (.inr ⟨d, rfl, meant⟩)
    exact escaped read
  | @unit digits n hex alone =>
    have read : Reads escape ('u' :: digits ++ text) (Char.ofNat n) text :=
      reads_escape_iff.2 (.inl ⟨_, rfl, reads_unit hex alone text⟩)
    exact escaped read
  | @pair first second n m hex hex' leading trailing =>
    have read := reads_escape_iff.2 (.inl ⟨_, rfl, reads_pair hex hex' leading trailing text⟩)
    have cut : 'u' :: (first ++ '\\' :: 'u' :: (second ++ text)) =
        'u' :: (first ++ '\\' :: 'u' :: second) ++ text := by simp
    exact escaped (cut ▸ read)

theorem reads_stringBody_iff_isQuotable : (∃ meant, Reads stringBody text meant rest) ↔
    ∃ chars : List Text, (∀ char ∈ chars, IsQuotable char) ∧
      text = chars.flatten ++ '"' :: rest := by
  constructor
  · rintro ⟨meant, read⟩
    induction meant generalizing text with
    | nil =>
      obtain ⟨rfl, -⟩ | ⟨_, _, _, _, -, -, -, same⟩ | ⟨_, _, _, -, -, -, -, -, same⟩ :=
        reads_stringBody_iff.1 read
      · exact ⟨[], nofun, rfl⟩
      all_goals cases same
    | cons c others ih =>
      obtain ⟨-, same⟩ | ⟨behind, middle, _, _, rfl, first, further, same⟩ |
        ⟨_, behind, _, rfl, closed, escaped, shown, further, same⟩ := reads_stringBody_iff.1 read
      · cases same
      · obtain ⟨rfl, rfl⟩ := List.cons.inj same
        obtain ⟨token, isFirst, rfl⟩ := exists_isQuotable first
        obtain ⟨chars, each, rfl⟩ := ih further
        exact ⟨('\\' :: token) :: chars, List.forall_mem_cons.2 ⟨isFirst, each⟩, by simp⟩
      · obtain ⟨rfl, rfl⟩ := List.cons.inj same
        obtain ⟨chars, each, rfl⟩ := ih further
        exact ⟨[c] :: chars, List.forall_mem_cons.2 ⟨.plain shown closed escaped, each⟩, by simp⟩
  · rintro ⟨chars, each, rfl⟩
    induction chars with
    | nil => exact ⟨[], reads_stringBody_iff.2 (.inl ⟨rfl, rfl⟩)⟩
    | cons char chars ih =>
      obtain ⟨first, others⟩ := List.forall_mem_cons.1 each
      obtain ⟨meant, further⟩ := ih others
      rw [List.flatten_cons, List.append_assoc]
      exact first.reads further

theorem exists_isQuoted {meant : Text} (h : Reads stringBody text meant rest) :
    ∃ token, IsQuoted token ∧ '"' :: text = token ++ rest := by
  obtain ⟨chars, each, rfl⟩ := reads_stringBody_iff_isQuotable.1 ⟨meant, h⟩
  exact ⟨_, ⟨chars, each, rfl⟩, by simp⟩

theorem IsQuoted.reads {token : Text} (h : IsQuoted token) (rest : Text) :
    ∃ body meant, token = '"' :: body ∧ Reads stringBody (body ++ rest) meant rest := by
  obtain ⟨chars, each, rfl⟩ := h
  obtain ⟨meant, read⟩ := reads_stringBody_iff_isQuotable.2
    ⟨chars, each, (rfl : _ = chars.flatten ++ '"' :: rest)⟩
  exact ⟨chars.flatten ++ ['"'], meant, rfl, by simpa using read⟩

end

/-! Rows. -/

section

variable {α : Type} {P : Text → Prop} {item : Reader α} {close : Char} {text rest : Text}

/-- A reader reads only texts of a kind, behind blanks. -/
def ReadsOnly (item : Reader α) (P : Text → Prop) : Prop :=
  ∀ ⦃text a rest⦄, Reads item text a rest → ∃ front, Indented P front ∧ text = front ++ rest

/-- A reader reads all texts of a kind, with anything behind them that ends a number. -/
def ReadsAll (item : Reader α) (P : Text → Prop) : Prop :=
  ∀ ⦃token rest⦄, P token → EndsNumber rest → ∃ a, Reads item (token ++ rest) a rest

theorem Indented.of_blanks {blanks front : Text} (h : IsSpace blanks)
    (indented : Indented P front) : Indented P (blanks ++ front) := by
  obtain ⟨more, token, space, kind, rfl⟩ := indented
  exact ⟨blanks ++ more, token, h.append space, kind, (List.append_assoc ..).symm⟩

theorem Listed.separated (only : ReadsOnly item P) {items : List α}
    (h : Listed close (Reads item) text items rest) {front : Text} (indented : Indented P front) :
    ∃ inner, Separated (Spaced P) inner ∧ front ++ text = inner ++ close :: rest := by
  induction h generalizing front with
  | @stop text rest start =>
    obtain ⟨blanks, space, cut⟩ := exists_skip text
    exact ⟨front ++ blanks, .one ⟨front, blanks, indented, space, rfl⟩,
      by rw [cut, start, List.append_assoc]⟩
  | @more text behind tail middle rest c first others comma start isOpen head further ih =>
    obtain ⟨blanks, space, cut⟩ := exists_skip text
    obtain ⟨blanks', space', cut'⟩ := exists_skip behind
    obtain ⟨next, isNext, same⟩ := only head
    obtain ⟨inner, separated, whole⟩ := ih (isNext.of_blanks space')
    refine ⟨front ++ blanks ++ ',' :: inner,
      .more ⟨front, blanks, indented, space, rfl⟩ separated, ?_⟩
    rw [cut, comma, cut', start, same, ← List.append_assoc blanks', whole]
    simp

theorem Enclosed.separated (only : ReadsOnly item P) {items : List α}
    (h : Enclosed close (Reads item) text items rest) :
    ∃ inner, (IsSpace inner ∨ Separated (Spaced P) inner) ∧ text = inner ++ close :: rest := by
  obtain ⟨blanks, space, cut⟩ := exists_skip text
  cases h with
  | empty start => exact ⟨blanks, .inl space, by rw [cut, start]⟩
  | filled start isOpen head further =>
    obtain ⟨next, isNext, same⟩ := only head
    obtain ⟨inner, separated, whole⟩ := further.separated only (isNext.of_blanks space)
    exact ⟨inner, .inr separated, by rw [cut, start, same, ← List.append_assoc, whole]⟩

theorem Enclosed.listed {element : Text → α → Text → Prop} {behind : Text} {items : List α}
    (h : Enclosed close element behind items rest) (some_items : items ≠ [])
    (comma : skip text = ',' :: behind) : Listed close element text items rest := by
  cases h with
  | empty start => exact absurd rfl some_items
  | filled start isOpen head further => exact .more comma start isOpen head further

/-- The first element of a row is read, and blanks are left behind it. -/
theorem Spaced.exists_head (all : ReadsAll item P)
    (opening : ∀ {token}, P token → IsOpening close token) {first : Text} (h : Spaced P first)
    (ends : EndsNumber rest) : ∃ c tail a blanks, skip (first ++ rest) = c :: tail ∧ c ≠ close ∧
      Reads item (c :: tail) a (blanks ++ rest) ∧ IsSpace blanks := by
  obtain ⟨_, blanks, ⟨before, token, space, kind, rfl⟩, space', rfl⟩ := h
  obtain ⟨c, tail, rfl, shown, isOpen⟩ := opening kind
  obtain ⟨a, read⟩ := all kind (space'.endsNumber ends)
  refine ⟨c, tail ++ (blanks ++ rest), a, blanks, ?_, isOpen, read, space'⟩
  rw [List.append_assoc, List.append_assoc, space.skip_append]
  exact skip_cons shown _

theorem Separated.enclosed (all : ReadsAll item P)
    (opening : ∀ {token}, P token → IsOpening close token) (shown : isBlank close = false)
    (mark : EndsNumber (close :: rest)) {inner : Text} (h : Separated (Spaced P) inner) :
    ∃ items, items ≠ [] ∧ Enclosed close (Reads item) (inner ++ close :: rest) items rest := by
  induction h with
  | one single =>
    obtain ⟨c, tail, a, blanks, start, isOpen, read, space⟩ := single.exists_head all opening mark
    have stop : skip (blanks ++ close :: rest) = close :: rest := by
      rw [space.skip_append, skip_cons shown]
    exact ⟨[a], List.cons_ne_nil _ _, .filled start isOpen read (.stop stop)⟩
  | @more first others head further ih =>
    obtain ⟨items, some_items, enclosed⟩ := ih
    have comma : EndsNumber (',' :: (others ++ close :: rest)) := endsNumber_cons (by decide)
    obtain ⟨c, tail, a, blanks, start, isOpen, read, space⟩ := head.exists_head all opening comma
    have next : skip (blanks ++ ',' :: (others ++ close :: rest)) =
        ',' :: (others ++ close :: rest) := by
      rw [space.skip_append, skip_cons (by decide)]
    have cut : first ++ ',' :: others ++ close :: rest =
        first ++ ',' :: (others ++ close :: rest) := by simp
    exact ⟨a :: items, List.cons_ne_nil _ _,
      cut ▸ .filled start isOpen read (enclosed.listed some_items next)⟩

end

section

variable {α : Type} {P : Text → Prop} {item : Reader α} (bracket : Bracket) (f : List α → Json)
  {text rest : Text}

theorem exists_isRow (opening : Char) (only : ReadsOnly item P) {a : Json}
    (h : Reads (fun text => (elements bracket item text).map (Reading.map f)) text a rest) :
    ∃ token, IsRow opening bracket.close P token ∧ opening :: text = token ++ rest := by
  obtain ⟨items, inner, -⟩ := reads_map_iff.1 h
  obtain ⟨row, kind, rfl⟩ := (reads_elements_iff.1 inner).separated only
  exact ⟨_, ⟨row, kind, rfl⟩, by simp⟩

theorem IsRow.reads {opening : Char} {token : Text} (h : IsRow opening bracket.close P token)
    (all : ReadsAll item P) (start : ∀ {token}, P token → IsOpening bracket.close token)
    (shown : isBlank bracket.close = false) (mark : EndsNumber (bracket.close :: rest)) :
    ∃ tail a, token ++ rest = opening :: tail ∧
      Reads (fun text => (elements bracket item text).map (Reading.map f)) tail a rest := by
  obtain ⟨inner, kind, rfl⟩ := h
  obtain ⟨items, enclosed⟩ : ∃ items,
      Enclosed bracket.close (Reads item) (inner ++ bracket.close :: rest) items rest := by
    obtain space | separated := kind
    · exact ⟨[], .empty (by rw [space.skip_append, skip_cons shown])⟩
    · obtain ⟨items, -, enclosed⟩ := separated.enclosed all start shown mark
      exact ⟨items, enclosed⟩
  exact ⟨inner ++ bracket.close :: rest, f items, by simp,
    reads_map_iff.2 ⟨items, reads_elements_iff.2 enclosed, rfl⟩⟩

end

/-! Values. -/

theorem IsScalar.isValue {allowed : Numeral → Prop} {token : Text} (h : IsScalar allowed token)
    (depth : Nat) : IsValue allowed depth token := by
  cases depth with
  | zero => exact h
  | succ depth => exact .inl h

section

variable {depth : Nat} {nested? : Option (Reader Json)} {token text rest : Text} {a : Json}

/-- Values are read only if the grammar has them. -/
def IsSound (depth : Nat) : Prop := ReadsOnly (value depth) (IsValue Numeral.IsFinite depth)

/-- All values that the grammar has are read. -/
def IsComplete (depth : Nat) : Prop :=
  ReadsAll (valueAt (nestedReader? depth)) (IsValue Numeral.IsFinite depth)

theorem IsSound.readsOnly_member (h : IsSound depth) :
    ReadsOnly (member (value depth)) (IsMember (IsValue Numeral.IsFinite depth)) := by
  rintro text ⟨key, a⟩ rest read
  obtain ⟨body, behind, rfl, quoted, further⟩ := reads_member_iff.1 read
  obtain ⟨token, isKey, whole⟩ := exists_isQuoted quoted
  obtain ⟨colon, start, read⟩ := reads_memberValue_iff.1 further
  obtain ⟨blanks, space, cut⟩ := exists_skip behind
  obtain ⟨front, indented, rfl⟩ := h read
  refine ⟨token ++ (blanks ++ ':' :: front),
    ⟨[], _, isSpace_nil, ⟨token, blanks, front, isKey, space, indented, rfl⟩, rfl⟩, ?_⟩
  rw [whole, cut, start]
  simp

theorem IsComplete.readsAll_value (h : IsComplete depth) :
    ReadsAll (value depth) (IsValue Numeral.IsFinite depth) := by
  intro token rest kind ends
  obtain ⟨a, read⟩ := h kind ends
  exact ⟨a, reads_value_of_valueAt [] nofun read⟩

theorem IsComplete.isOpening (h : IsComplete depth) (kind : IsValue Numeral.IsFinite depth token) :
    IsOpening ']' token := by
  obtain ⟨a, read⟩ := h kind endsNumber_nil
  rw [List.append_nil] at read
  exact isOpening_of_reads read

theorem IsMember.isOpening {P : Text → Prop} (h : IsMember P token) : IsOpening '\x7d' token := by
  obtain ⟨_, _, _, ⟨_, -, rfl⟩, -, -, rfl⟩ := h
  exact ⟨'"', _, rfl, by decide, by decide⟩

theorem IsComplete.readsAll_member (h : IsComplete depth) :
    ReadsAll (member (value depth)) (IsMember (IsValue Numeral.IsFinite depth)) := by
  rintro _ rest ⟨_, blanks, _, isKey, space, ⟨blanks', token, space', kind, rfl⟩, rfl⟩ ends
  obtain ⟨a, read⟩ := h kind ends
  obtain ⟨body, key, rfl, quoted⟩ := isKey.reads (blanks ++ ':' :: (blanks' ++ (token ++ rest)))
  have colon : skip (blanks ++ ':' :: (blanks' ++ (token ++ rest))) =
      ':' :: (blanks' ++ (token ++ rest)) := by
    rw [space.skip_append, skip_cons (by decide)]
  have behind : Reads (value depth) (blanks' ++ (token ++ rest)) a rest :=
    reads_value_of_valueAt blanks' (isSpace_iff.1 space') read
  refine ⟨(key, a), reads_member_iff.2
    ⟨_, _, ?_, quoted, reads_memberValue_iff.2 ⟨_, colon, behind⟩⟩⟩
  simp

theorem exists_token (nested : ∀ d, depth = d + 1 → IsSound d)
    (h : Reads (valueAt (nestedReader? depth)) text a rest) :
    ∃ token, IsValue Numeral.IsFinite depth token ∧ text = token ++ rest := by
  obtain ⟨c, tail, rfl, ⟨numeric, number⟩ | ⟨reader, found, read⟩⟩ := reads_valueAt_iff.1 h
  · obtain ⟨token, n, cut, -, written, finite⟩ := exists_numeral number
    have scalar : IsScalar Numeral.IsFinite token := .inr (.inr ⟨n, written, finite⟩)
    exact ⟨token, scalar.isValue depth, cut⟩
  · unfold readerBehind? at found
    split at found
    case h_7 => cases found
    case h_1 | h_2 | h_3 =>
      obtain rfl := Option.some.inj found
      obtain ⟨rfl, -⟩ := (reads_ident_iff (by decide)).1 read
      exact ⟨_ :: _, IsScalar.isValue (.inl (by decide)) depth, rfl⟩
    case h_4 =>
      obtain rfl := Option.some.inj found
      obtain ⟨meant, inner, -⟩ := reads_map_iff.1 read
      obtain ⟨token, isQuoted, cut⟩ := exists_isQuoted inner
      exact ⟨token, IsScalar.isValue (.inr (.inl isQuoted)) depth, cut⟩
    case h_5 =>
      obtain ⟨item, isNested, rfl⟩ := Option.map_eq_some_iff.1 found
      cases depth with
      | zero => cases isNested
      | succ depth =>
        obtain rfl := Option.some.inj isNested
        obtain ⟨token, row, cut⟩ := exists_isRow square .array '[' (nested depth rfl) read
        exact ⟨token, .inr (.inl row), cut⟩
    case h_6 =>
      obtain ⟨item, isNested, rfl⟩ := Option.map_eq_some_iff.1 found
      cases depth with
      | zero => cases isNested
      | succ depth =>
        obtain rfl := Option.some.inj isNested
        obtain ⟨token, row, cut⟩ := exists_isRow brace .object '\x7b'
          (nested depth rfl).readsOnly_member read
        exact ⟨token, .inr (.inr row), cut⟩

theorem isSound_of_nested (nested : ∀ d, depth = d + 1 → IsSound d) : IsSound depth := by
  intro text a rest read
  obtain ⟨blanks, space, cut⟩ := exists_skip text
  obtain ⟨token, kind, same⟩ := exists_token nested (reads_value_iff.1 read)
  exact ⟨blanks ++ token, ⟨blanks, token, space, kind, rfl⟩,
    by rw [cut, same, List.append_assoc]⟩

theorem isSound (depth : Nat) : IsSound depth :=
  forall_depth (fun _ => isSound_of_nested) depth

theorem IsScalar.reads (h : IsScalar Numeral.IsFinite token) (ends : EndsNumber rest) :
    ∃ a, Reads (valueAt nested?) (token ++ rest) a rest := by
  obtain word | quoted | ⟨n, written, finite⟩ := h
  · simp only [List.mem_cons, List.not_mem_nil, or_false] at word
    obtain rfl | rfl | rfl := word
    all_goals exact ⟨_, reads_word rfl (by decide) rest⟩
  · obtain ⟨body, meant, rfl, read⟩ := quoted.reads rest
    exact ⟨_, reads_valueAt_iff.2 ⟨'"', body ++ rest, rfl,
      .inr ⟨_, rfl, reads_map_iff.2 ⟨meant, read, rfl⟩⟩⟩⟩
  · exact ⟨_, reads_valueAt_of_numberAt (written.reads finite ends)⟩

theorem isComplete_of_nested (nested : ∀ d, depth = d + 1 → IsComplete d) : IsComplete depth := by
  intro token rest kind ends
  cases depth with
  | zero => exact IsScalar.reads kind ends
  | succ depth =>
    have ih := nested depth rfl
    obtain scalar | row | row := kind
    · exact scalar.reads ends
    · obtain ⟨tail, a, cut, read⟩ := IsRow.reads square .array row ih.readsAll_value
        ih.isOpening (by decide) (endsNumber_cons (by decide))
      exact ⟨a, reads_valueAt_iff.2 ⟨'[', tail, cut, .inr ⟨_, rfl, read⟩⟩⟩
    · obtain ⟨tail, a, cut, read⟩ := IsRow.reads brace .object row ih.readsAll_member
        IsMember.isOpening (by decide) (endsNumber_cons (by decide))
      exact ⟨a, reads_valueAt_iff.2 ⟨'\x7b', tail, cut, .inr ⟨_, rfl, read⟩⟩⟩

theorem isComplete (depth : Nat) : IsComplete depth :=
  forall_depth (fun _ => isComplete_of_nested) depth

/-- A text is read as a document exactly if the grammar has it as one, with finite numbers. -/
theorem isOk_parse_iff {text : Text} :
    (∃ a, parse text = .ok a) ↔ IsDocument Numeral.IsFinite maxDepth text := by
  constructor
  · rintro ⟨a, h⟩
    obtain ⟨rest, read, blank⟩ := parse_eq_ok_iff.1 h
    obtain ⟨front, indented, rfl⟩ := isSound maxDepth read
    exact ⟨front, rest, indented, skip_eq_nil_iff.1 blank, rfl⟩
  · rintro ⟨_, rest, ⟨blanks, token, space, kind, rfl⟩, space', rfl⟩
    have ends := space'.endsNumber endsNumber_nil
    rw [List.append_nil] at ends
    obtain ⟨a, read⟩ := isComplete maxDepth kind ends
    refine ⟨a, parse_eq_ok_iff.2 ⟨rest, ?_, skip_eq_nil_iff.2 space'⟩⟩
    rw [List.append_assoc]
    exact reads_value_of_valueAt blanks (isSpace_iff.1 space) read

end

end Json
end HttpContract
