import HttpContract.Proofs.Definitions.Block
import HttpContract.Proofs.Definitions.Reading
import HttpContract.Proofs.Variables.Declaration

/-! Request definitions as they are printed, line by line, and what may stand in such a line so that
it is read as what it was printed for and as nothing else. -/
namespace HttpContract

namespace Text

theorem IsPhrase.trimStart_blank {text : Text} (h : IsPhrase text) :
    trimStart (' ' :: text) = text := by
  rw [trimStart_cons_blank (by decide)]
  exact trimStart_eq_self_iff.2 h.head_clear

@[simp] theorem trim_blank {text : Text} (h : trim text = text) : trim (' ' :: text) = text := by
  rw [trim, trimStart_cons_blank (by decide)]
  exact h

theorem isLine_append {front text : Text} (clear : '\n' ∉ front) (h : trim text = text)
    (one : '\n' ∉ text) : IsLine (front ++ ' ' :: text) := by
  refine ⟨by simp [clear, one], ?_⟩
  cases text with
  | nil => simp
  | cons c rest =>
    rw [List.getLast?_append_of_ne_nil _ (by simp), List.getLast?_cons_cons]
    intro last
    have blank := (trim_eq_self_iff.1 h).2 '\r' last
    cases blank

end Text

namespace Printing

open Text

/-- Lines that are read one by one as what they were printed for give all of it back. -/
theorem filterMap_map_print {α : Type} {print : α → Text} {read : Text → Option α} {items : List α}
    (h : ∀ item ∈ items, read (print item) = some item) :
    (items.map print).filterMap read = items := by
  induction items with
  | nil => rfl
  | cons item items ih =>
    rw [List.map_cons, List.filterMap_cons_some (h item (by simp)),
      ih fun item hi => h item (by simp [hi])]

/-- A declaration that can be printed: its name is a word. -/
structure IsDeclaration (declaration : Text × Text) : Prop where
  name_ne_nil : declaration.1 ≠ []
  name_word : ∀ c ∈ declaration.1, Unicode.isWordChar c = true
  value : IsPhrase declaration.2

/-- `@name = value` -/
def declarationLine (declaration : Text × Text) : Text :=
  '@' :: declaration.1 ++ [' ', '='] ++ ' ' :: declaration.2

section

variable {declaration : Text × Text} (h : IsDeclaration declaration)

include h

theorem isLine_declarationLine : IsLine (declarationLine declaration) := by
  refine isLine_append ?_ h.value.trimmed h.value.one_line
  have word : '\n' ∉ declaration.1 := fun hn => absurd (h.name_word _ hn) (by decide)
  simp [word]

omit h in
@[simp] theorem lineKind_declarationLine (heads : List Text) :
    Block.lineKind heads (declarationLine declaration) = .skip := by
  have start : trim (declarationLine declaration) =
      '@' :: trimEnd (declaration.1 ++ [' ', '='] ++ ' ' :: declaration.2) :=
    trim_cons (by decide) _
  simp [Block.lineKind, start]

@[simp] theorem declaration?_declarationLine :
    VariableScan.declaration? (declarationLine declaration) = some declaration := by
  have start : trimStart (declarationLine declaration) =
      '@' :: (declaration.1 ++ (' ' :: '=' :: ' ' :: declaration.2)) := by
    rw [declarationLine, List.append_assoc]
    exact trimStart_cons (by decide)
  have gap : Unicode.isWordChar ' ' = false := by decide
  have word := h.name_word
  have equals : trimStart (' ' :: '=' :: ' ' :: declaration.2) = '=' :: ' ' :: declaration.2 := by
    rw [trimStart_cons_blank (by decide), trimStart_cons (by decide)]
  simp [VariableScan.declaration?, start, List.takeWhile_append_of_pos word,
    List.dropWhile_append_of_pos word, gap, equals, trim_blank h.value.trimmed, h.name_ne_nil,
    h.value.ne_nil]

end

theorem isDeclarationLine_eq_false {heads : List Text} {line : Text}
    (h : Block.lineKind heads line ≠ .skip) : VariableScan.isDeclarationLine line = false := by
  rw [VariableScan.isDeclarationLine, ← startsWith_trim, Bool.eq_false_iff]
  intro start
  exact h (by simp [Block.lineKind, start])

/-- A header that can be printed: its name is not taken for the start of another line. -/
structure IsHeader (header : Text × Text) : Prop where
  name : IsPhrase header.1
  no_colon : ':' ∉ header.1
  no_at : header.1.head? ≠ some '@'
  no_brace : header.1.head? ≠ some '\x7b'
  no_mark : ¬ Block.mark <+: header.1
  no_verb : ∀ (method : Method) (c : Char), method.text ++ [c] <+: header.1 →
    Unicode.isBlank c = false
  value_trimmed : trim header.2 = header.2
  value_one_line : '\n' ∉ header.2

/-- `name: value` -/
def headerLine (header : Text × Text) : Text := header.1 ++ [':'] ++ ' ' :: header.2

section

variable {header : Text × Text} (h : IsHeader header)

include h

theorem isLine_headerLine : IsLine (headerLine header) := by
  refine isLine_append ?_ h.value_trimmed h.value_one_line
  simp [h.name.one_line]

/-- The blank behind the colon is lost if the value is empty. -/
theorem trim_headerLine :
    trim (headerLine header) = header.1 ++ ':' :: trimEnd (' ' :: header.2) := by
  have cut : headerLine header = header.1 ++ ':' :: ' ' :: header.2 := by simp [headerLine]
  have start : trimStart (headerLine header) = headerLine header := by
    rw [trimStart_eq_self_iff, cut, List.head?_append_of_ne_nil _ h.name.ne_nil]
    exact h.name.head_clear
  rw [trim, start, cut, trimEnd_append_cons (by decide)]

@[simp] theorem head?_trim_headerLine : (trim (headerLine header)).head? = header.1.head? := by
  rw [trim_headerLine h, List.head?_append_of_ne_nil _ h.name.ne_nil]

theorem startsWith_headerLine {c : Char} (other : header.1.head? ≠ some c) :
    startsWith [c] (trim (headerLine header)) = false :=
  startsWith_eq_false (head?_trim_headerLine h ▸ other)

/-- A prefix of the line that has no colon is a prefix of the name. -/
theorem prefix_name {start : Text} (clear : ':' ∉ start)
    (hs : start <+: trim (headerLine header)) : start <+: header.1 := by
  rw [trim_headerLine h] at hs
  exact (prefix_append_cons clear).1 hs

@[simp] theorem lineKind_headerLine (heads : List Text) :
    Block.lineKind heads (headerLine header) = .content := by
  refine Block.lineKind_eq_content_iff.2 ⟨?_, startsWith_headerLine h h.no_at, ?_⟩
  · simp [trim_headerLine h]
  · exact fun hm => h.no_mark (prefix_name h (by decide) hm)

@[simp] theorem request?_headerLine : BlockReading.request? (headerLine header) = none := by
  rw [BlockReading.request?, Option.eq_none_iff_forall_ne_some]
  intro request read
  obtain ⟨gap, rest, same, more, blank, -⟩ := RequestLine.ofText?_eq_some_iff.1 read
  obtain ⟨c, gap, rfl⟩ := List.exists_cons_of_ne_nil more
  have hc : Unicode.isBlank c = true := blank c (by simp)
  have start : request.method.text ++ [c] <+: trim (headerLine header) := by
    rw [same]
    exact ⟨gap ++ rest, by simp⟩
  -- Neither the verb nor the blank behind it is the colon.
  have clear : ':' ∉ request.method.text ++ [c] := by
    intro hm
    obtain hm | hm := List.mem_append.1 hm
    · revert hm
      cases request.method <;> decide
    · obtain rfl := List.mem_singleton.1 hm
      revert hc
      decide
  have word := h.no_verb _ _ (prefix_name h clear start)
  rw [hc] at word
  cases word

@[simp] theorem opensBody_headerLine : BlockReading.opensBody (headerLine header) = false :=
  startsWith_headerLine h h.no_brace

@[simp] theorem header?_headerLine : BlockReading.header? (headerLine header) = some header := by
  have other : BlockReading.isRequest (headerLine header) = false := by
    simp [BlockReading.isRequest, request?_headerLine h]
  have cut : splitFirst? ':' (trim (headerLine header)) =
      some (header.1, trimEnd (' ' :: header.2)) :=
    splitFirst?_eq_some_iff.2 ⟨trim_headerLine h, h.no_colon⟩
  have value : trim (trimEnd (' ' :: header.2)) = header.2 := by
    by_cases empty : header.2 = []
    · rw [empty]
      rfl
    · have last : (' ' :: header.2).getLast? = header.2.getLast? :=
        List.getLast?_append_of_ne_nil [' '] empty
      have keeps : trimEnd (' ' :: header.2) = ' ' :: header.2 := by
        rw [trimEnd_eq_self_iff, last]
        exact (trim_eq_self_iff.1 h.value_trimmed).2
      rw [keeps, trim_blank h.value_trimmed]
  simp [BlockReading.header?, other, cut, h.name.trimmed, h.name.ne_nil, value]

end

end Printing
end HttpContract
