import HttpContract.Proofs.Unicode.CharClass
import HttpContract.Proofs.Variables.Declaration
import Mathlib.Data.List.TakeWhile

/-! The grammar of declarations. A line that has the form of a declaration has it in one way only,
and it is read in this way; a scan knows the last value of each declared name, and the numbers of
all other lines that start with an at sign. -/
namespace HttpContract

namespace VariableScan

open Unicode

/-- The form of a declaration: blanks, an at sign, the name, blanks, an equals sign, and a rest that
is the value up to the blanks around it. The name is a word, and the value is not empty. -/
def Declares (line name value : Text) : Prop :=
  ∃ front gap behind, line = front ++ '@' :: (name ++ (gap ++ '=' :: behind)) ∧
    (∀ c ∈ front, isBlank c = true) ∧ name ≠ [] ∧ (∀ c ∈ name, isWordChar c = true) ∧
    (∀ c ∈ gap, isBlank c = true) ∧ Text.trim behind = value ∧ value ≠ []

theorem trimStart_append_cons {front : Text} (blank : ∀ c ∈ front, isBlank c = true) {c : Char}
    (shown : isBlank c = false) (rest : Text) :
    Text.trimStart (front ++ c :: rest) = c :: rest := by
  rw [Text.trimStart, List.dropWhile_append_of_pos blank]
  exact Text.trimStart_cons shown

theorem eq_takeWhile_append {text rest : Text} (h : Text.trimStart text = rest) :
    text = text.takeWhile isBlank ++ rest := by
  rw [← h]
  exact List.takeWhile_append_dropWhile.symm

theorem span_word {name rest : Text} (word : ∀ c ∈ name, isWordChar c = true)
    (stop : ∀ c ∈ rest.head?, isWordChar c = false) :
    (name ++ rest).takeWhile isWordChar = name ∧ (name ++ rest).dropWhile isWordChar = rest := by
  rw [List.takeWhile_append_of_pos word, List.dropWhile_append_of_pos word]
  cases rest with
  | nil => simp
  | cons c rest => simp [stop c rfl]

theorem declaration?_eq_some_iff {line name value : Text} :
    declaration? line = some (name, value) ↔ Declares line name value := by
  constructor
  · intro h
    unfold declaration? at h
    split at h
    · rename_i rest start
      dsimp only at h
      split at h
      · rename_i behind equals
        split_ifs at h with empty
        obtain ⟨rfl, rfl⟩ := Prod.mk.inj (Option.some.inj h)
        obtain ⟨some_name, some_value⟩ := not_or.1 empty
        refine ⟨line.takeWhile isBlank, (rest.dropWhile isWordChar).takeWhile isBlank, behind, ?_,
          fun _ => List.mem_takeWhile_imp, some_name, fun _ => List.mem_takeWhile_imp,
          fun _ => List.mem_takeWhile_imp, rfl, some_value⟩
        rw [← eq_takeWhile_append equals, List.takeWhile_append_dropWhile]
        exact eq_takeWhile_append start
      · cases h
    · cases h
  · rintro ⟨front, gap, behind, rfl, blank, some_name, word, blank', rfl, some_value⟩
    have stop : ∀ c ∈ (gap ++ '=' :: behind).head?, isWordChar c = false := by
      cases gap with
      | nil => rintro c ⟨⟩; decide
      | cons c gap => rintro _ ⟨⟩; exact isWordChar_eq_false (blank' c (by simp))
    obtain ⟨before, after⟩ := span_word word stop
    have start := trimStart_append_cons blank (c := '@') (by decide)
      (name ++ (gap ++ '=' :: behind))
    have equals := trimStart_append_cons blank' (c := '=') (by decide) behind
    simp only [declaration?, start, before, after, equals]
    exact if_neg (not_or.2 ⟨some_name, some_value⟩)

theorem Declares.unique {line name value other also : Text} (h : Declares line name value)
    (ho : Declares line other also) : name = other ∧ value = also := by
  rw [← declaration?_eq_some_iff] at h ho
  exact Prod.mk.inj (Option.some.inj (h.symm.trans ho))

theorem declaration?_eq_none_iff {line : Text} :
    declaration? line = none ↔ ∀ name value, ¬ Declares line name value := by
  rw [Option.eq_none_iff_forall_ne_some]
  simp only [Prod.forall, ne_eq, declaration?_eq_some_iff]

/-- The lines that start like a declaration are those whose first character is an at sign, the
blanks apart. -/
theorem isDeclarationLine_iff_find? {line : Text} :
    isDeclarationLine line = true ↔ line.find? (fun c => !isBlank c) = some '@' := by
  rw [isDeclarationLine, Text.startsWith_iff, List.find?_not_eq_head?_dropWhile, ← Text.trimStart]
  cases Text.trimStart line <;> simp [eq_comm]

theorem isMalformed_iff {line : Text} : isMalformed line = true ↔
    line.find? (fun c => !isBlank c) = some '@' ∧ ∀ name value, ¬ Declares line name value := by
  rw [isMalformed, Bool.and_eq_true, isDeclarationLine_iff_find?, Option.isNone_iff_eq_none,
    declaration?_eq_none_iff]

/-- Of the pairs that lines give the last one with a name counts. -/
theorem lookup_reverse_eq_some_iff {read : Text → Option (Text × Text)} {lines : List Text}
    {name value : Text} : (lines.filterMap read).reverse.lookup name = some value ↔
      ∃ before line after, lines = before ++ line :: after ∧ read line = some (name, value) ∧
        ∀ later ∈ after, ∀ other, read later ≠ some (name, other) := by
  rw [List.lookup_eq_some_iff]
  constructor
  · rintro ⟨later, earlier, cut, others⟩
    rw [List.reverse_eq_append_iff, List.filterMap_eq_append_iff] at cut
    obtain ⟨front, after, rfl, own, behind⟩ := cut
    rw [List.reverse_cons, List.filterMap_eq_append_iff] at own
    obtain ⟨before, middle, rfl, -, own⟩ := own
    obtain ⟨silent, line, more, rfl, -, read_eq, rest⟩ := List.filterMap_eq_cons_iff.1 own
    refine ⟨before ++ silent, line, more ++ after, by simp, read_eq, fun next hn other told => ?_⟩
    rcases List.mem_append.1 hn with hn | hn
    · rw [List.filterMap_eq_nil_iff.1 rest next hn] at told
      cases told
    · have listed : (name, other) ∈ later := by
        rw [← List.mem_reverse, ← behind]
        exact List.mem_filterMap.2 ⟨next, hn, told⟩
      simpa using others _ listed
  · rintro ⟨before, line, after, rfl, read_eq, others⟩
    refine ⟨(after.filterMap read).reverse, (before.filterMap read).reverse, ?_, ?_⟩
    · rw [List.filterMap_append, List.filterMap_cons_some read_eq]
      simp
    · rintro ⟨key, other⟩ listed
      obtain ⟨next, hn, told⟩ := List.mem_filterMap.1 (List.mem_reverse.1 listed)
      rw [bne_iff_ne]
      rintro rfl
      exact others next hn other told

theorem get?_table_eq_some_iff {text name value : Text} :
    (ofText text).table.get? name = some value ↔ ∃ before line after,
      Text.terminatedLines text = before ++ line :: after ∧ Declares line name value ∧
        ∀ later ∈ after, ∀ other, ¬ Declares later name other := by
  rw [ofText_eq, VariableTable.get?_ofList, lookup_reverse_eq_some_iff]
  simp only [ne_eq, declaration?_eq_some_iff]

theorem get?_table_eq_none_iff {text name : Text} : (ofText text).table.get? name = none ↔
    ∀ line ∈ Text.terminatedLines text, ∀ value, ¬ Declares line name value := by
  rw [ofText_eq, VariableTable.get?_ofList, List.lookup_eq_none_iff]
  simp only [← declaration?_eq_some_iff, List.mem_reverse, List.mem_filterMap, bne_iff_ne]
  constructor
  · intro others line listed value told
    exact others (name, value) ⟨line, listed, told⟩ rfl
  · rintro others ⟨key, value⟩ ⟨line, listed, told⟩ rfl
    exact others line listed value told

theorem mem_malformed_iff {text : Text} {number : Nat} : number ∈ (ofText text).malformed ↔
    ∃ line, (line, number) ∈ Text.numbered (Text.terminatedLines text) ∧
      line.find? (fun c => !isBlank c) = some '@' ∧ ∀ name value, ¬ Declares line name value := by
  rw [ofText_eq]
  simp only [List.mem_map, List.mem_filter, isMalformed_iff, Prod.exists, exists_eq_right]

/-- A line that declares nothing takes no part in the table. -/
theorem table_eq_of_silent {text other line : Text} {before after : List Text}
    (cut : Text.terminatedLines text = before ++ line :: after)
    (without : Text.terminatedLines other = before ++ after)
    (silent : ∀ name value, ¬ Declares line name value) :
    (ofText other).table = (ofText text).table := by
  rw [ofText_eq, ofText_eq, cut, without, List.filterMap_append, List.filterMap_append,
    List.filterMap_cons_none (declaration?_eq_none_iff.2 silent)]

/-- Declarations are read by their grammar. A line declares a name with a value exactly if it has
the form for it, which it has for one name and one value at most. The table has the names that are
declared in some line, letter for letter, each with the value of the last line that declares it, and
no others. A line that starts with an at sign, behind blanks or not, and declares nothing is told by
its number, and the table is what it would be without that line. -/
theorem ofText_grammar (text : Text) :
    let lines := Text.terminatedLines text
    let scan := ofText text
    (∀ line name value, declaration? line = some (name, value) ↔ Declares line name value) ∧
    (∀ line name value other also, Declares line name value → Declares line other also →
      name = other ∧ value = also) ∧
    (∀ name value, scan.table.get? name = some value ↔ ∃ before line after,
      lines = before ++ line :: after ∧ Declares line name value ∧
        ∀ later ∈ after, ∀ other, ¬ Declares later name other) ∧
    (∀ name, scan.table.get? name = none ↔
      ∀ line ∈ lines, ∀ value, ¬ Declares line name value) ∧
    (∀ name value, (name, value) ∈ scan.table.entries ↔ scan.table.get? name = some value) ∧
    (∀ name value, scan.table.get? name = some value → value ≠ [] ∧ Text.trim value = value) ∧
    scan.malformed.Pairwise (· < ·) ∧
    (∀ number, number ∈ scan.malformed ↔ ∃ line, (line, number) ∈ Text.numbered lines ∧
      line.find? (fun c => !isBlank c) = some '@' ∧ ∀ name value, ¬ Declares line name value) ∧
    ∀ before line after other, lines = before ++ line :: after →
      (∀ name value, ¬ Declares line name value) →
      Text.terminatedLines other = before ++ after → (ofText other).table = scan.table := by
  intro lines scan
  have ordered : VariableTable.IsOrdered scan.table.entries := by
    simp only [scan, ofText_eq]
    exact VariableTable.isOrdered_ofList _
  refine ⟨fun _ _ _ => declaration?_eq_some_iff, fun _ _ _ _ _ => Declares.unique,
    fun _ _ => get?_table_eq_some_iff, fun _ => get?_table_eq_none_iff,
    fun _ _ => VariableTable.mem_entries_iff ordered, fun name value found => ?_,
    pairwise_malformed text, fun _ => mem_malformed_iff,
    fun _ _ _ _ cut silent without => table_eq_of_silent cut without silent⟩
  have phrase := holdsPhrases_ofText text name value found
  exact ⟨phrase.ne_nil, phrase.trimmed⟩

/-- Names that differ in a capital are two, and a value of blanks takes none away. -/
example : let scan := ofText "@Id = 1\n @id\t=a=b \r\n@id = \n@ id = 2"
    scan.table = .ofList [("Id", "1"), ("id", "a=b")] ∧ scan.malformed = [3, 4] := by
  decide +kernel

end VariableScan
end HttpContract
