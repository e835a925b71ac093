import HttpContract.Proofs.Json.Layout
import HttpContract.Proofs.Json.Numeral

/-! A document is read from its lexemes alone: any text with the same lexemes has the same value. -/
namespace HttpContract
namespace Json

def IsStart (c : Char) : Prop := 0x20 < c.toNat ∧ c.toNat < 0x80 ∧ c ≠ '@' ∧ c ≠ '#'

theorem isLexeme_of_plain {c : Char} {token : Text} (start : IsStart c) (plain : Plain token) :
    IsLexeme (c :: token) where
  ne_nil := List.cons_ne_nil _ _
  no_newline h := absurd (plain.cons (Nat.le_of_lt start.1) _ h) (by decide)
  no_return h := absurd (plain.cons (Nat.le_of_lt start.1) _ h) (by decide)
  start := by
    rintro _ ⟨⟩
    refine ⟨?_, start.2.2⟩
    have := start.1
    have := start.2.1
    grind [Unicode.isBlank]

@[simp] theorem isStart_of_isDigit {c : Char} (h : c.isDigit) : IsStart c := by
  obtain ⟨low, high⟩ := bounds_of_isDigit h
  refine ⟨by omega, by omega, ?_, ?_⟩
  · rintro rfl
    cases h
  · rintro rfl
    cases h

def marks : List Char := [',', ':', '[', ']', '\x7b', '\x7d']

@[simp] theorem isLexeme_mark {c : Char} (h : c ∈ marks) : IsLexeme [c] := by
  have start : ∀ c ∈ marks, IsStart c := by simp [marks, IsStart]
  exact isLexeme_of_plain (start c h) plain_nil

def IsClosing (c : Char) : Prop := c = ']' ∨ c = '\x7d'

@[simp] theorem IsClosing.isLexeme {c : Char} (h : IsClosing c) : IsLexeme [c] :=
  isLexeme_mark (by obtain rfl | rfl := h <;> decide)

/-- What can follow a value: a comma, what closes an array or an object, or the end. -/
def Follows (lexemes : List Text) : Prop :=
  ∀ lexeme ∈ lexemes.head?, ∃ c, lexeme = [c] ∧ (c = ',' ∨ IsClosing c)

theorem follows_cons {c : Char} {lexemes : List Text} (h : c = ',' ∨ IsClosing c) :
    Follows ([c] :: lexemes) := by
  rintro _ ⟨⟩
  exact ⟨c, rfl, h⟩

/-- What is read, `lexemes`, is read from any text that has them in front of what can follow a
value. -/
structure Covers (reads : Text → Text → Prop) (text rest : Text) (lexemes : List Text) : Prop where
  laid : ∀ more, Laid more rest → Laid (lexemes ++ more) text
  again : ∀ more text', Follows more → Laid (lexemes ++ more) text' →
    ∃ rest', reads text' rest' ∧ Laid more rest'

def IsCovered {α : Type} (reads : Text → α → Text → Prop) (text : Text) (a : α) (rest : Text) :
    Prop :=
  ∃ lexemes, Covers (fun text rest => reads text a rest) text rest lexemes

namespace Covers

variable {reads inner further : Text → Text → Prop} {text middle rest : Text}
  {lexemes others : List Text}

theorem mono (h : Covers inner text rest lexemes)
    (weaker : ∀ text rest, inner text rest → reads text rest) :
    Covers reads text rest lexemes where
  laid := h.laid
  again more text' free laid := by
    obtain ⟨rest', read, laid'⟩ := h.again more text' free laid
    exact ⟨rest', weaker _ _ read, laid'⟩

theorem lexeme {lexeme : Text} (h : IsLexeme lexeme) (start : skip text = lexeme ++ rest) :
    Covers (fun text rest => skip text = lexeme ++ rest) text rest [lexeme] where
  laid _ laid := Laid.skip_iff.1 (start ▸ .lexeme h laid)
  again _ _ _ laid := laid.exists_skip

theorem cons {lexeme : Text} (h : IsLexeme lexeme) (start : skip text = lexeme ++ middle)
    (second : Covers further middle rest others) :
    Covers (fun text rest => ∃ middle, skip text = lexeme ++ middle ∧ further middle rest)
      text rest (lexeme :: others) where
  laid more laid := Laid.skip_iff.1 (start ▸ .lexeme h (second.laid more laid))
  again more text' free laid := by
    obtain ⟨middle', start', laid'⟩ := Laid.exists_skip laid
    obtain ⟨rest', read, laid''⟩ := second.again _ _ free laid'
    exact ⟨rest', ⟨middle', start', read⟩, laid''⟩

theorem append (first : Covers inner text middle lexemes)
    (second : Covers further middle rest others) (follows : ∀ more, Follows (others ++ more)) :
    Covers (fun text rest => ∃ middle, inner text middle ∧ further middle rest)
      text rest (lexemes ++ others) where
  laid more laid := by
    rw [List.append_assoc]
    exact first.laid _ (second.laid more laid)
  again more text' free laid := by
    rw [List.append_assoc] at laid
    obtain ⟨middle', read, laid'⟩ := first.again _ _ (follows more) laid
    obtain ⟨rest', read', laid''⟩ := second.again _ _ free laid'
    exact ⟨rest', ⟨middle', read, read'⟩, laid''⟩

end Covers

/-! Rows of elements. -/

section

variable {α : Type} {close : Char} {element : Text → α → Text → Prop} {text rest : Text}
  {items : List α}

/-- What an element needs for a row of them to be read from the lexemes alone. -/
structure IsElement (close : Char) (element : Text → α → Text → Prop) : Prop where
  isOpen : ∀ {text a rest}, element text a rest → ∃ c tail, text = c :: tail ∧ c ≠ close
  covered : ∀ {text a rest}, element (skip text) a rest →
    IsCovered (fun text => element (skip text)) text a rest

theorem Listed.covered (closing : IsClosing close) (isElement : IsElement close element)
    (h : Listed close element text items rest) : ∃ lexemes, (∀ more, Follows (lexemes ++ more)) ∧
      Covers (fun text rest => Listed close element text items rest) text rest lexemes := by
  induction h with
  | stop start =>
    exact ⟨[[close]], fun _ => follows_cons (.inr closing),
      (Covers.lexeme closing.isLexeme start).mono fun _ _ => .stop⟩
  | more comma start isOpen head further ih =>
    obtain ⟨first, covers⟩ := isElement.covered (start ▸ head)
    obtain ⟨others, follows, covers'⟩ := ih
    refine ⟨[','] :: (first ++ others), fun _ => follows_cons (.inl rfl),
      (Covers.cons (isLexeme_mark (by decide)) comma (covers.append covers' follows)).mono ?_⟩
    rintro text rest ⟨behind, comma, middle, head, further⟩
    obtain ⟨c, tail, start, isOpen⟩ := isElement.isOpen head
    exact .more comma start isOpen (start ▸ head) further

theorem Enclosed.covered (closing : IsClosing close) (isElement : IsElement close element)
    (h : Enclosed close element text items rest) :
    IsCovered (Enclosed close element) text items rest := by
  cases h with
  | empty start =>
    exact ⟨_, (Covers.lexeme closing.isLexeme start).mono fun _ _ => .empty⟩
  | filled start isOpen head further =>
    obtain ⟨first, covers⟩ := isElement.covered (start ▸ head)
    obtain ⟨others, follows, covers'⟩ := further.covered closing isElement
    refine ⟨first ++ others, (covers.append covers' follows).mono ?_⟩
    rintro text rest ⟨middle, head, further⟩
    obtain ⟨c, tail, start, isOpen⟩ := isElement.isOpen head
    exact .filled start isOpen (start ▸ head) further

/-- A reader of a bracket's elements makes a value of what is enclosed. -/
theorem covered_elements {bracket : Bracket} {item : Reader α} {f : List α → Json} {a : Json}
    (closing : IsClosing bracket.close) (isElement : IsElement bracket.close (Reads item))
    (read : Reads (fun text => (elements bracket item text).map (Reading.map f)) text a rest) :
    IsCovered (Reads fun text => (elements bracket item text).map (Reading.map f)) text a rest := by
  obtain ⟨items, inner, rfl⟩ := reads_map_iff.1 read
  obtain ⟨lexemes, covers⟩ := (reads_elements_iff.1 inner).covered closing isElement
  exact ⟨lexemes, covers.mono fun _ _ h => reads_map_iff.2 ⟨items, reads_elements_iff.2 h, rfl⟩⟩

end

/-! Values. -/

theorem endsNumber_of_follows {more : List Text} {text : Text} (h : Laid more text)
    (follows : Follows more) : EndsNumber text := by
  cases h with
  | done => exact endsNumber_nil
  | blank blank rest => exact endsNumber_cons (not_prolonging_of_isBlank blank)
  | lexeme h rest =>
    obtain ⟨c, rfl, rfl | rfl | rfl⟩ := follows _ rfl
    all_goals exact endsNumber_cons (by decide)

@[simp] theorem readsToken_quoted :
    ReadsToken Anything fun text => (stringBody text).map (Reading.map Json.string) := by
  intro text a rest h
  obtain ⟨meant, inner, rfl⟩ := reads_map_iff.1 h
  obtain ⟨token, rfl, plain, again⟩ := readsToken_stringBody inner
  exact ⟨token, rfl, plain, fun rest' _ => reads_map_iff.2 ⟨meant, again rest' trivial, rfl⟩⟩

theorem readerBehind?_eq_some {nested? : Option (Reader Json)} {c : Char} {reader : Reader Json}
    (h : readerBehind? nested? c = some reader) :
    (c ∈ ['n', 't', 'f', '"'] ∧ ReadsToken Anything reader) ∨
      ∃ item, nested? = some item ∧
        (c = '[' ∧ reader = arrayBody item ∨ c = '\x7b' ∧ reader = objectBody item) := by
  unfold readerBehind? at h
  split at h
  case h_1 | h_2 | h_3 =>
    obtain rfl := Option.some.inj h
    exact .inl ⟨by decide, readsToken_ident (by decide) (by simp [Plain])⟩
  case h_4 =>
    obtain rfl := Option.some.inj h
    exact .inl ⟨by decide, readsToken_quoted⟩
  case h_5 =>
    obtain ⟨item, rfl, rfl⟩ := Option.map_eq_some_iff.1 h
    exact .inr ⟨item, rfl, .inl ⟨rfl, rfl⟩⟩
  case h_6 =>
    obtain ⟨item, rfl, rfl⟩ := Option.map_eq_some_iff.1 h
    exact .inr ⟨item, rfl, .inr ⟨rfl, rfl⟩⟩
  case h_7 => cases h

@[simp] theorem reads_value_skip_iff {depth : Nat} {text rest : Text} {a : Json} :
    Reads (value depth) (skip text) a rest ↔ Reads (value depth) text a rest := by
  rw [reads_value_iff, reads_value_iff, skip, skip, List.dropWhile_idempotent]

section

variable {depth : Nat}

/-- A value that nests at most `depth` deep is read from its lexemes. -/
def IsRelocated (depth : Nat) : Prop :=
  ∀ {text a rest}, Reads (value depth) text a rest → IsCovered (Reads (value depth)) text a rest

theorem isElement_value (h : IsRelocated depth) : IsElement ']' (Reads (value depth)) where
  isOpen {text a rest} read := by
    cases text with
    | nil => exact absurd read.shorter (Nat.not_lt_zero _)
    | cons c tail =>
      refine ⟨c, tail, rfl, ?_⟩
      rintro rfl
      obtain ⟨c, tail, same, ⟨numeric, -⟩ | ⟨reader, found, -⟩⟩ :=
        reads_valueAt_iff.1 (reads_value_iff.1 read)
      · obtain ⟨rfl, -⟩ := List.cons.inj same
        exact absurd numeric (by decide)
      · obtain ⟨rfl, -⟩ := List.cons.inj same
        cases found
  covered read := by
    obtain ⟨lexemes, covers⟩ := h (reads_value_skip_iff.1 read)
    exact ⟨lexemes, covers.mono fun _ _ => reads_value_skip_iff.2⟩

theorem isElement_member (h : IsRelocated depth) :
    IsElement '\x7d' (Reads (member (value depth))) where
  isOpen {text a rest} read := by
    obtain ⟨body, -, rfl, -⟩ := reads_member_iff.1 read
    exact ⟨_, body, rfl, by decide⟩
  covered {text a rest} read := by
    obtain ⟨body, behind, start, quoted, further⟩ := reads_member_iff.1 read
    obtain ⟨token, rfl, plain, again⟩ := readsToken_stringBody quoted
    obtain ⟨_, colon, further⟩ := reads_memberValue_iff.1 further
    obtain ⟨lexemes, covers⟩ := h further
    have isKey : IsLexeme ('"' :: token) := isLexeme_of_plain (by simp [IsStart]) plain
    refine ⟨('"' :: token) :: [':'] :: lexemes, (Covers.cons isKey start
      (Covers.cons (isLexeme_mark (by decide)) colon covers)).mono ?_⟩
    rintro text rest ⟨behind, start, behindColon, colon, read⟩
    exact reads_member_iff.2 ⟨_, behind, start, again behind trivial,
      reads_memberValue_iff.2 ⟨behindColon, colon, read⟩⟩

variable {c : Char} {tail text rest : Text} {a : Json} {reader : Reader Json}

theorem covered_number (start : skip text = c :: tail) (numeric : c = '-' ∨ c.isDigit)
    (read : Reads numberAt (c :: tail) a rest) : IsCovered (Reads (value depth)) text a rest := by
  obtain ⟨token, cut, plain, again⟩ := readsToken_numberAt read
  have nonempty : token ≠ [] := by
    rintro rfl
    exact absurd read.shorter (by simp [cut])
  obtain ⟨d, token, rfl⟩ := List.exists_cons_of_ne_nil nonempty
  obtain ⟨rfl, rfl⟩ := List.cons.inj cut
  have isStart : IsStart c := by
    obtain rfl | digit := numeric
    · simp [IsStart]
    · exact isStart_of_isDigit digit
  have isLexeme : IsLexeme (c :: token) :=
    isLexeme_of_plain isStart fun d hd => plain d (List.mem_cons_of_mem _ hd)
  -- A number ends where nothing prolongs it, so that what follows it counts.
  refine ⟨[c :: token], ⟨(Covers.lexeme isLexeme start).laid, fun more text' follows laid => ?_⟩⟩
  obtain ⟨rest', start', laid'⟩ := laid.exists_skip
  have read' := again rest' (endsNumber_of_follows laid' follows)
  exact ⟨rest', reads_value_iff.2 (reads_valueAt_iff.2
    ⟨c, token ++ rest', start', .inl ⟨numeric, start' ▸ read'⟩⟩), laid'⟩

theorem covered_word (start : skip text = c :: tail) (first : c ∈ ['n', 't', 'f', '"'])
    (isToken : ReadsToken Anything reader)
    (found : readerBehind? (nestedReader? depth) c = some reader)
    (read : Reads reader tail a rest) : IsCovered (Reads (value depth)) text a rest := by
  obtain ⟨token, rfl, plain, again⟩ := isToken read
  have isStart : ∀ c ∈ ['n', 't', 'f', '"'], IsStart c := by simp [IsStart]
  have isLexeme : IsLexeme (c :: token) := isLexeme_of_plain (isStart c first) plain
  refine ⟨[c :: token], (Covers.lexeme isLexeme start).mono fun text' rest' start' => ?_⟩
  exact reads_value_iff.2 (reads_valueAt_iff.2
    ⟨c, token ++ rest', start', .inr ⟨reader, found, again rest' trivial⟩⟩)

theorem covered_nested (ih : IsRelocated depth) (start : skip text = c :: tail)
    (found : readerBehind? (nestedReader? (depth + 1)) c = some reader)
    (bracket : c = '[' ∧ reader = arrayBody (value depth) ∨
      c = '\x7b' ∧ reader = objectBody (value depth))
    (read : Reads reader tail a rest) : IsCovered (Reads (value (depth + 1))) text a rest := by
  obtain ⟨lexemes, covers⟩ : IsCovered (Reads reader) tail a rest := by
    obtain ⟨-, rfl⟩ | ⟨-, rfl⟩ := bracket
    · exact covered_elements (.inl rfl) (isElement_value ih) read
    · exact covered_elements (.inr rfl) (isElement_member ih) read
  have mark : c ∈ marks := by obtain ⟨rfl, -⟩ | ⟨rfl, -⟩ := bracket <;> decide
  refine ⟨[c] :: lexemes, (Covers.cons (isLexeme_mark mark) start covers).mono ?_⟩
  rintro text' rest' ⟨tail', start', read'⟩
  exact reads_value_iff.2 (reads_valueAt_iff.2 ⟨c, tail', start', .inr ⟨reader, found, read'⟩⟩)

theorem isRelocated_of_nested (h : ∀ d, depth = d + 1 → IsRelocated d) : IsRelocated depth := by
  intro text a rest read
  obtain ⟨c, tail, start, ⟨numeric, number⟩ | ⟨reader, found, behind⟩⟩ :=
    reads_valueAt_iff.1 (reads_value_iff.1 read)
  · exact covered_number start numeric (start ▸ number)
  · obtain ⟨first, isToken⟩ | ⟨item, nested, bracket⟩ := readerBehind?_eq_some found
    · exact covered_word start first isToken found behind
    · cases depth with
      | zero => cases nested
      | succ depth =>
        obtain rfl := Option.some.inj nested
        exact covered_nested (h depth rfl) start found bracket behind

@[simp] theorem isRelocated (depth : Nat) : IsRelocated depth :=
  forall_depth (fun _ => isRelocated_of_nested) depth

end

/-- A document that is read is read alike from any text with the same lexemes. -/
theorem exists_laid {text : Text} {a : Json} (h : parse text = .ok a) :
    ∃ lexemes, Laid lexemes text ∧ ∀ text', Laid lexemes text' → parse text' = .ok a := by
  obtain ⟨rest, read, blank⟩ := parse_eq_ok_iff.1 h
  obtain ⟨lexemes, covers⟩ := isRelocated maxDepth read
  have laid := covers.laid [] (Laid.nil_iff.2 blank)
  rw [List.append_nil] at laid
  refine ⟨lexemes, laid, fun text' laid' => ?_⟩
  rw [← List.append_nil lexemes] at laid'
  obtain ⟨rest', read', laid''⟩ := covers.again [] text' (fun _ absurd => nomatch absurd) laid'
  exact parse_eq_ok_iff.2 ⟨rest', read', Laid.nil_iff.1 laid''⟩

theorem skip_of_object {text : Text} {members : List (Text × Json)}
    (h : parse text = .ok (.object members)) : ∃ behind, skip text = '\x7b' :: behind := by
  obtain ⟨rest, read, -⟩ := parse_eq_ok_iff.1 h
  obtain ⟨c, tail, start, ⟨-, number⟩ | ⟨reader, found, read⟩⟩ :=
    reads_valueAt_iff.1 (reads_value_iff.1 read)
  · obtain ⟨_, _, _, _, _, -, -, -, -, same⟩ := reads_numberAt_iff.1 number
    cases same
  · unfold readerBehind? at found
    split at found
    case h_6 => exact ⟨tail, start⟩
    case h_1 | h_2 | h_3 =>
      obtain rfl := Option.some.inj found
      obtain ⟨-, same⟩ := (reads_ident_iff (by decide)).1 read
      cases same
    case h_4 =>
      obtain rfl := Option.some.inj found
      obtain ⟨_, -, same⟩ := reads_map_iff.1 read
      cases same
    case h_5 =>
      obtain ⟨item, -, rfl⟩ := Option.map_eq_some_iff.1 found
      obtain ⟨_, -, same⟩ := reads_map_iff.1 read
      cases same
    case h_7 => cases found

end Json
end HttpContract
