import HttpContract.Json.Pretty
import HttpContract.Proofs.Json.Numeral
import HttpContract.Proofs.Text.Basic

/-! What is printed is read back: a quoted text with every escape, and a document at every level of
its layout. -/
namespace HttpContract
namespace Json

/-! Quoted texts. -/

theorem hexByte_control : ∀ n < 0x20,
    Text.natOfDigits? 16 ('0' :: '0' :: Text.hexByte n) = some n ∧
      isTrailingSurrogate n = false ∧ isLeadingSurrogate n = false := by decide

theorem reads_escape_control {c : Char} (control : c.toNat < 0x20) (rest : Text) :
    Reads escape ('u' :: '0' :: '0' :: (Text.hexByte c.toNat ++ rest)) c rest := by
  obtain ⟨digits, trailing, leading⟩ := hexByte_control c.toNat control
  refine reads_escape_iff.2 (.inl ⟨_, rfl, reads_unicodeEscape_iff.2
    ⟨c.toNat, rest, reads_hexFour_iff.2 ⟨_, _, _, _, rfl, digits⟩, trailing, ?_⟩⟩)
  rw [leading]
  exact ⟨rfl, (Char.ofNat_toNat c).symm⟩

/-- A character is quoted as itself or by an escape that means it. -/
theorem quoteChar_cases (c : Char) : (quoteChar c = [c] ∧ c ≠ '"' ∧ c ≠ '\\' ∧ 0x20 ≤ c.toNat) ∨
    ∃ token, quoteChar c = '\\' :: token ∧ ∀ rest, Reads escape (token ++ rest) c rest := by
  have simple {d meant : Char} (h : simpleEscape? d = some meant) (rest : Text) :
      Reads escape ([d] ++ rest) meant rest := reads_escape_iff.2 (.inr ⟨d, rfl, h⟩)
  unfold quoteChar
  split_ifs with quote backslash back form line carriage tab control
  · exact .inr ⟨['"'], rfl, simple (by rw [quote]; rfl)⟩
  · exact .inr ⟨['\\'], rfl, simple (by rw [backslash]; rfl)⟩
  · exact .inr ⟨['b'], rfl, simple (by rw [back]; rfl)⟩
  · exact .inr ⟨['f'], rfl, simple (by rw [form]; rfl)⟩
  · exact .inr ⟨['n'], rfl, simple (by rw [line]; rfl)⟩
  · exact .inr ⟨['r'], rfl, simple (by rw [carriage]; rfl)⟩
  · exact .inr ⟨['t'], rfl, simple (by rw [tab]; rfl)⟩
  · exact .inr ⟨_, rfl, reads_escape_control control⟩
  · exact .inl ⟨rfl, quote, backslash, Nat.le_of_not_lt control⟩

theorem reads_stringBody_quoted (text rest : Text) :
    Reads stringBody (text.flatMap quoteChar ++ '"' :: rest) text rest := by
  induction text with
  | nil => exact reads_stringBody_iff.2 (.inl ⟨rfl, rfl⟩)
  | cons c text ih =>
    rw [List.flatMap_cons, List.append_assoc]
    obtain ⟨same, closed, escaped, shown⟩ | ⟨token, same, read⟩ := quoteChar_cases c
    · rw [same]
      exact reads_stringBody_iff.2
        (.inr (.inr ⟨c, _, text, rfl, closed, escaped, shown, ih, rfl⟩))
    · rw [same]
      exact reads_stringBody_iff.2 (.inr (.inl ⟨_, _, c, text, rfl, read _, ih, rfl⟩))

theorem quote_append (text rest : Text) :
    quote text ++ rest = '"' :: (text.flatMap quoteChar ++ '"' :: rest) := by
  simp [quote]

/-! Layout. -/

@[simp] theorem skip_cons {c : Char} (shown : isBlank c = false) (text : Text) :
    skip (c :: text) = c :: text := by
  simp [skip, shown]

@[simp]
theorem skip_newLine (level : Nat) (text : Text) : skip (newLine level ++ text) = skip text := by
  have blank : ∀ c ∈ newLine level, isBlank c = true := by
    intro c hc
    obtain rfl | hc := List.mem_cons.1 hc
    · rfl
    · rw [List.eq_of_mem_replicate hc]
      rfl
  exact List.dropWhile_append_of_pos blank

/-- What starts a part between brackets: neither a blank nor the closing bracket. -/
def IsOpening (close : Char) (text : Text) : Prop :=
  ∃ c tail, text = c :: tail ∧ isBlank c = false ∧ c ≠ close

def behindBracket (level : Nat) (closing : Char) (parts : List Text) : Text :=
  (if parts.isEmpty then []
    else Text.join [','] (parts.map (newLine (level + 1) ++ ·)) ++ newLine level) ++ [closing]

theorem bracketed_eq (level : Nat) (opening closing : Char) (parts : List Text) :
    bracketed level opening closing parts = opening :: behindBracket level closing parts := by
  rw [bracketed, behindBracket]
  split <;> simp

section

variable (level : Nat) (rest : Text)

variable {α : Type} {element : Text → α → Text → Prop} {print : α → Text} {close : Char}
  {items : List α}

/-- Parts behind another one, each behind a comma and on a new line, and the closing bracket. -/
def behindPart (level : Nat) (close : Char) (parts : List Text) (rest : Text) : Text :=
  parts.flatMap (fun part => ',' :: (newLine (level + 1) ++ part)) ++
    (newLine level ++ close :: rest)

theorem endsNumber_behindPart (close : Char) (parts : List Text) :
    EndsNumber (behindPart level close parts rest) := by
  cases parts with
  | nil => exact endsNumber_cons (by decide)
  | cons => exact endsNumber_cons (by decide)

@[simp] theorem behindPart_cons (part : Text) (parts : List Text) :
    behindPart level close (part :: parts) rest =
      ',' :: (newLine (level + 1) ++ (part ++ behindPart level close parts rest)) := by
  simp [behindPart]

@[simp] theorem behindBracket_cons (part : Text) (parts : List Text) :
    behindBracket level close (part :: parts) ++ rest =
      newLine (level + 1) ++ (part ++ behindPart level close parts rest) := by
  have behind : (parts.map (newLine (level + 1) ++ ·)).flatMap ([','] ++ ·) =
      parts.flatMap fun part => ',' :: (newLine (level + 1) ++ part) := List.flatMap_map ..
  rw [behindBracket, List.map_cons, Text.join_cons, behind]
  simp [behindPart]

variable (shown : isBlank close = false)
  (opening : ∀ item ∈ items, IsOpening close (print item))
  (read : ∀ item ∈ items, ∀ rest, EndsNumber rest → element (print item ++ rest) item rest)

include shown opening read

theorem listed_behindPart :
    Listed close element (behindPart level close (items.map print) rest) items rest := by
  induction items with
  | nil =>
    refine .stop ?_
    rw [List.map_nil, behindPart, List.flatMap_nil, List.nil_append, skip_newLine, skip_cons shown]
  | cons item items ih =>
    obtain ⟨c, tail, start, visible, isOpen⟩ := opening item (by simp)
    have others := ih (fun item hi => opening item (by simp [hi]))
      fun item hi => read item (by simp [hi])
    have head := read item (by simp) _ (endsNumber_behindPart level rest close (items.map print))
    rw [List.map_cons, behindPart_cons]
    rw [start] at head ⊢
    refine .more (skip_cons (by decide) _) ?_ isOpen head others
    rw [skip_newLine]
    exact skip_cons visible _

theorem enclosed_behindBracket :
    Enclosed close element (behindBracket level close (items.map print) ++ rest) items rest := by
  cases items with
  | nil => exact .empty (skip_cons shown rest)
  | cons item items =>
    obtain ⟨c, tail, start, visible, isOpen⟩ := opening item (by simp)
    have others := listed_behindPart level rest shown
      (fun item hi => opening item (List.mem_cons_of_mem _ hi))
      fun item hi => read item (List.mem_cons_of_mem _ hi)
    have head := read item (by simp) _ (endsNumber_behindPart level rest close (items.map print))
    rw [List.map_cons, behindBracket_cons]
    rw [start] at head ⊢
    refine .filled ?_ isOpen head others
    rw [skip_newLine]
    exact skip_cons visible _

end

/-! Documents. -/

/-- The numbers of a value can be read, and its arrays and objects nest at most `depth` deep. -/
inductive Fits : (depth : Nat) → Json → Prop
  | null {depth : Nat} : Fits depth .null
  | bool {depth : Nat} (value : Bool) : Fits depth (.bool value)
  | number {depth : Nat} {lexeme : Text} (h : IsNumber lexeme) : Fits depth (.number lexeme)
  | string {depth : Nat} (value : Text) : Fits depth (.string value)
  | array {depth : Nat} {items : List Json} (h : ∀ item ∈ items, Fits depth item) :
      Fits (depth + 1) (.array items)
  | object {depth : Nat} {members : List (Text × Json)}
      (h : ∀ member ∈ members, Fits depth member.2) : Fits (depth + 1) (.object members)

@[simp] theorem prettyItems_eq (level : Nat) (items : List Json) :
    prettyItems level items = items.map (prettyAt level) := by
  induction items with
  | nil => rfl
  | cons item items ih => rw [prettyItems, ih, List.map_cons]

def prettyMember (level : Nat) (member : Text × Json) : Text :=
  quote member.1 ++ ": " ++ prettyAt level member.2

@[simp] theorem prettyMembers_eq (level : Nat) (members : List (Text × Json)) :
    prettyMembers level members = members.map (prettyMember level) := by
  induction members with
  | nil => rfl
  | cons member members ih =>
    rw [prettyMembers, ih, List.map_cons]
    rfl

/-- A value starts neither with a blank nor with a closing bracket. -/
theorem isOpening_of_reads {nested? : Option (Reader Json)} {text rest : Text} {a : Json}
    (h : Reads (valueAt nested?) text a rest) : IsOpening ']' text := by
  obtain ⟨c, tail, rfl, ⟨numeric, -⟩ | ⟨reader, found, -⟩⟩ := reads_valueAt_iff.1 h
  · have others : ∀ d : Char, (d = '-' ∨ d.isDigit) = False → c ≠ d := by
      rintro d no rfl
      exact no ▸ numeric
    have shown : isBlank c = false := by
      simp [isBlank, others ' ' (by decide), others '\n' (by decide), others '\t' (by decide),
        others '\r' (by decide)]
    exact ⟨c, tail, rfl, shown, others ']' (by decide)⟩
  · unfold readerBehind? at found
    split at found
    case h_7 => cases found
    all_goals exact ⟨_, tail, rfl, by decide, by decide⟩

theorem reads_value_of_valueAt {depth : Nat} (blanks : Text) {text rest : Text} {a : Json}
    (blank : ∀ c ∈ blanks, isBlank c = true)
    (h : Reads (valueAt (nestedReader? depth)) text a rest) :
    Reads (value depth) (blanks ++ text) a rest := by
  obtain ⟨c, tail, rfl, shown, -⟩ := isOpening_of_reads h
  rwa [reads_value_iff, skip, List.dropWhile_append_of_pos blank, ← skip, skip_cons shown]

theorem reads_valueAt_of_numberAt {nested? : Option (Reader Json)} {text rest : Text} {a : Json}
    (h : Reads numberAt text a rest) : Reads (valueAt nested?) text a rest := by
  obtain ⟨_, digits, _, _, _, isWhole, -⟩ := reads_numberAt_iff.1 h
  obtain ⟨unsigned, isDigits, -⟩ := whole_eq_ok_iff.1 isWhole
  cases text with
  | nil => simp [dropSign, isDigits.ne_nil] at unsigned
  | cons c tail =>
    refine reads_valueAt_iff.2 ⟨c, tail, rfl, .inl ⟨?_, h⟩⟩
    by_cases minus : c = '-'
    · exact .inl minus
    · obtain ⟨d, others, rfl⟩ := List.exists_cons_of_ne_nil isDigits.ne_nil
      obtain ⟨rfl, -⟩ := List.cons.inj (by simpa [dropSign, minus] using unsigned)
      exact .inr (isDigits.digit _ (by simp))

theorem reads_prettyMember {item : Reader Json} {level : Nat} {member : Text × Json} {rest : Text}
    (h : Reads item (' ' :: (prettyAt level member.2 ++ rest)) member.2 rest) :
    Reads (Json.member item) (prettyMember level member ++ rest) member rest := by
  have cut : prettyMember level member ++ rest = '"' :: (member.1.flatMap quoteChar ++
      '"' :: ':' :: ' ' :: (prettyAt level member.2 ++ rest)) := by
    rw [prettyMember, List.append_assoc, List.append_assoc, quote_append]
    rfl
  exact reads_member_iff.2 ⟨_, _, cut, reads_stringBody_quoted member.1 _,
    reads_memberValue_iff.2 ⟨_, skip_cons (by decide) _, h⟩⟩

theorem reads_word {nested? : Option (Reader Json)} {c : Char} {word : Text} {a : Json}
    (found : readerBehind? nested? c = some (ident a word)) (h : word ≠ []) (rest : Text) :
    Reads (valueAt nested?) (c :: word ++ rest) a rest :=
  reads_valueAt_iff.2 ⟨c, word ++ rest, rfl, .inr ⟨_, found, (reads_ident_iff h).2 ⟨rfl, rfl⟩⟩⟩

section

variable {depth level : Nat} (rest : Text)

/-- An array is read if its items are, with anything behind them that can follow a number. -/
theorem reads_prettyAt_array {items : List Json} (read : ∀ item ∈ items, ∀ rest, EndsNumber rest →
      Reads (valueAt (nestedReader? depth)) (prettyAt (level + 1) item ++ rest) item rest) :
    Reads (valueAt (nestedReader? (depth + 1))) (prettyAt level (.array items) ++ rest)
      (.array items) rest := by
  have opening : ∀ item ∈ items, IsOpening ']' (prettyAt (level + 1) item) := fun item hi => by
    simpa using isOpening_of_reads (read item hi [] nofun)
  have enclosed := enclosed_behindBracket level rest (by decide) opening
    fun item hi rest ends => reads_value_of_valueAt [] nofun (read item hi rest ends)
  rw [prettyAt, prettyItems_eq, bracketed_eq]
  exact reads_valueAt_iff.2 ⟨'[', _, rfl, .inr
    ⟨_, rfl, reads_map_iff.2 ⟨items, reads_elements_iff.2 enclosed, rfl⟩⟩⟩

theorem reads_prettyAt_object {members : List (Text × Json)}
    (read : ∀ member ∈ members, ∀ rest, EndsNumber rest →
      Reads (valueAt (nestedReader? depth)) (prettyAt (level + 1) member.2 ++ rest) member.2 rest) :
    Reads (valueAt (nestedReader? (depth + 1))) (prettyAt level (.object members) ++ rest)
      (.object members) rest := by
  have opening : ∀ member ∈ members, IsOpening '\x7d' (prettyMember (level + 1) member) :=
    fun member _ => ⟨'"', _, rfl, by decide, by decide⟩
  have enclosed := enclosed_behindBracket level rest (by decide) opening
    fun member hm rest ends => reads_prettyMember (reads_value_of_valueAt [' ']
      (List.forall_mem_singleton.2 rfl) (read member hm rest ends))
  rw [prettyAt, prettyMembers_eq, bracketed_eq]
  exact reads_valueAt_iff.2 ⟨'\x7b', _, rfl, .inr
    ⟨_, rfl, reads_map_iff.2 ⟨members, reads_elements_iff.2 enclosed, rfl⟩⟩⟩

end

/-- What is printed at a level is read back, with anything behind it that can follow a number. -/
@[simp]
theorem reads_prettyAt {depth : Nat} {a : Json} (h : Fits depth a) (level : Nat) {rest : Text}
    (ends : EndsNumber rest) :
    Reads (valueAt (nestedReader? depth)) (prettyAt level a ++ rest) a rest := by
  induction h generalizing level rest with
  | null => exact reads_word rfl (by decide) rest
  | bool value => cases value <;> exact reads_word rfl (by decide) rest
  | number number =>
    rw [prettyAt]
    exact reads_valueAt_of_numberAt (number.reads ends)
  | string value =>
    rw [prettyAt, quote_append]
    exact reads_valueAt_iff.2 ⟨'"', _, rfl, .inr
      ⟨_, rfl, reads_map_iff.2 ⟨value, reads_stringBody_quoted value rest, rfl⟩⟩⟩
  | array _ ih => exact reads_prettyAt_array rest fun item hi rest => ih item hi (level + 1)
  | object _ ih => exact reads_prettyAt_object rest fun member hm rest => ih member hm (level + 1)

@[simp] theorem parse_pretty {a : Json} (h : Fits maxDepth a) : parse a.pretty = .ok a := by
  have read : Reads (valueAt (nestedReader? maxDepth)) (prettyAt 0 a ++ []) a [] :=
    reads_prettyAt h 0 nofun
  rw [List.append_nil] at read
  exact parse_eq_ok_iff.2 ⟨[], reads_value_of_valueAt [] nofun read, rfl⟩

end Json
end HttpContract
