import HttpContract.Proofs.Variables.Occurrence

/-! Interpolating an interpolated text. That values refer to nothing does not make it change
nothing: a value between braces of the text can become a name. It changes nothing exactly if no
reference that is left has a value. -/
namespace HttpContract

namespace TemplatePart

def HasReference (text : Text) : Prop := ∃ start name, Occurs text start name

theorem not_hasReference_of_clear {text : Text} (clear : '\x7b' ∉ text) : ¬ HasReference text := by
  rintro ⟨start, name, -, shown⟩
  exact clear (List.mem_of_mem_drop (shown.subset (by simp [source])))

variable {table : VariableTable} {parts : List TemplatePart}

/-- What is put for the first part of a text moves the rest of it. -/
theorem exists_shift {put rest front text : Text} (h : put ++ rest = front ++ text)
    (short : put.length ≤ front.length) : ∃ shift, front = put ++ shift ∧ rest = shift ++ text := by
  obtain ⟨shift, rfl⟩ : put <+: front :=
    List.prefix_of_prefix_length_le (List.prefix_append put rest) (h ▸ List.prefix_append ..) short
  rw [List.append_assoc] at h
  exact ⟨shift, rfl, List.append_cancel_left h⟩

/-- Values that refer to nothing cannot give back what the references to them were. The induction
goes on with the characters by which the values so far are too short; a value that made up for them
would contain the reference that it is put for. -/
theorem unknown_of_flatMap_resolve (named : ∀ name, .reference name ∈ parts → IsName name)
    (values : ∀ name value, table.get? name = some value → ¬ HasReference value) {shift : Text}
    (h : parts.flatMap (resolve table) = shift ++ parts.flatMap source) :
    shift = [] ∧ ∀ name, .reference name ∈ parts → table.get? name = none := by
  induction parts generalizing shift with
  | nil => exact ⟨by simpa using h.symm, nofun⟩
  | cons part parts ih =>
    have later := @ih fun name listed => named name (List.mem_cons_of_mem _ listed)
    rw [List.flatMap_cons, List.flatMap_cons, ← List.append_assoc] at h
    rcases resolve_cases table part with ⟨name, value, rfl, found, put⟩ | ⟨kept, unknown⟩
    · have own : IsName name := named name List.mem_cons_self
      rw [put] at h
      have refers : ¬ shift ++ source (.reference name) <+: value := by
        rintro ⟨rest, same⟩
        refine values name value found ⟨shift.length + 0, name, ?_⟩
        rw [← same, List.append_assoc, occurs_append_iff]
        exact ⟨own, List.prefix_append _ _⟩
      rcases Nat.le_total value.length (shift ++ source (.reference name)).length with short | long
      · obtain ⟨more, cut, rest⟩ := exists_shift h short
        obtain ⟨rfl, -⟩ := later rest
        exact absurd (by simp [cut]) refers
      · obtain ⟨more, cut, -⟩ := exists_shift h.symm long
        exact absurd ⟨more, cut.symm⟩ refers
    · rw [kept] at h
      obtain ⟨more, cut, rest⟩ := exists_shift h (by simp)
      obtain ⟨rfl, others⟩ := later rest
      refine ⟨by simpa using cut, fun name listed => ?_⟩
      rcases List.mem_cons.1 listed with same | listed
      · exact unknown name same.symm
      · exact others name listed

/-- Where opening braces stand in references only, no new references arise. -/
theorem unknown_of_occurs (named : ∀ name, .reference name ∈ parts → IsName name)
    (plain : .plain '\x7b' ∉ parts)
    (values : ∀ name value, table.get? name = some value → '\x7b' ∉ value) {start : Nat}
    {name : Text} (h : Occurs (parts.flatMap (resolve table)) start name) :
    table.get? name = none := by
  induction parts generalizing start with
  | nil =>
    have clear : '\x7b' ∉ ([] : Text) := List.not_mem_nil
    exact absurd ⟨start, name, h⟩ (not_hasReference_of_clear clear)
  | cons part parts ih =>
    have later := @ih (fun other listed => named other (List.mem_cons_of_mem _ listed))
      fun listed => plain (List.mem_cons_of_mem _ listed)
    rw [List.flatMap_cons] at h
    have behind (le : (part.resolve table).length ≤ start) : table.get? name = none := by
      obtain ⟨gap, rfl⟩ := Nat.exists_eq_add_of_le le
      exact later ((occurs_append_iff ..).1 h)
    rcases resolve_cases table part with ⟨other, value, rfl, found, put⟩ | ⟨kept, unknown⟩
    · exact behind (h.length_le (put ▸ values other value found))
    · cases part with
      | plain c =>
        refine behind (h.length_le fun inside => plain ?_)
        obtain rfl : '\x7b' = c := List.mem_singleton.1 inside
        exact List.mem_cons_self
      | reference other =>
        rw [kept] at h
        rcases occurs_source_append (named other List.mem_cons_self) h with ⟨-, rfl⟩ | le
        · exact unknown name rfl
        · exact behind (kept ▸ le)

end TemplatePart

namespace VariableTable

open TemplatePart

theorem interpolate_eq_self {table : VariableTable} {text : Text}
    (h : ∀ start name, Occurs text start name → table.get? name = none) :
    (table.interpolate text).text = text := by
  have kept : ∀ part ∈ TemplatePart.ofText text, part.resolve table = part.source := by
    intro part listed
    rcases resolve_cases table part with ⟨name, value, rfl, found, -⟩ | ⟨kept, -⟩
    · obtain ⟨start, placed⟩ := isPlaced_of_mem listed
      rw [h start name (occurs_iff_isPlaced.2 placed)] at found
      cases found
    · exact kept
  calc (table.interpolate text).text
    _ = (TemplatePart.ofText text).flatMap source := List.flatMap_congr kept
    _ = text := flatMap_source_ofText text

/-- With values that refer to nothing, interpolating twice is interpolating once exactly if no
reference to a declared variable is left. This is so in each text whose opening braces are those of
its references, provided that no value has one. -/
theorem interpolate_interpolate_iff {table : VariableTable}
    (values : ∀ name value, table.get? name = some value → ¬ HasReference value) (text : Text) :
    ((table.interpolate (table.interpolate text).text).text = (table.interpolate text).text ↔
      ∀ start name, Occurs (table.interpolate text).text start name → table.get? name = none) ∧
    (.plain '\x7b' ∉ TemplatePart.ofText text →
      (∀ name value, table.get? name = some value → '\x7b' ∉ value) →
      (table.interpolate (table.interpolate text).text).text = (table.interpolate text).text) := by
  refine ⟨⟨fun same start name h => ?_, interpolate_eq_self⟩,
    fun plain clear => interpolate_eq_self fun start name => ?_⟩
  · set once := (table.interpolate text).text
    have back : (TemplatePart.ofText once).flatMap (resolve table) =
        [] ++ (TemplatePart.ofText once).flatMap source := by
      rw [List.nil_append, flatMap_source_ofText]
      exact same
    have unknown := (unknown_of_flatMap_resolve (fun _ => isName_of_mem_ofText) values back).2
    exact unknown name (occurs_iff_isPlaced.1 h).mem
  · exact unknown_of_occurs (fun _ => isName_of_mem_ofText) plain clear

/-- A closing brace of the text and one of a value stand around a reference without a value. -/
theorem interpolate_interpolate_iff_closing :
    let table := ofList [("id", "7"), ("close", "\x7d")]
    let text : Text := "/\x7b\x7bid\x7d\x7d\x7d/\x7b\x7buser\x7d\x7d\x7b\x7bclose\x7d\x7d"
    (∀ name value, table.get? name = some value → ¬ HasReference value) ∧
      .plain '\x7b' ∉ TemplatePart.ofText text ∧
      (∀ name value, table.get? name = some value → '\x7b' ∉ value) ∧
      (table.interpolate (table.interpolate text).text).text = (table.interpolate text).text ∧
      ∀ start name, Occurs (table.interpolate text).text start name →
        table.get? name = none := by
  intro table text
  have clear : ∀ entry ∈ table.entries, '\x7b' ∉ entry.2 := by decide +kernel
  have plain : .plain '\x7b' ∉ TemplatePart.ofText text := by decide +kernel
  have values : ∀ name value, table.get? name = some value → '\x7b' ∉ value :=
    fun _ _ found => clear _ (mem_of_get? found)
  have refers : ∀ name value, table.get? name = some value → ¬ HasReference value :=
    fun name value found => not_hasReference_of_clear (values name value found)
  obtain ⟨settled, enough⟩ := interpolate_interpolate_iff refers text
  have same := enough plain values
  exact ⟨refers, plain, values, same, settled.1 same⟩

/-- Between the braces of the text a value becomes the name of another variable. -/
theorem interpolate_nested :
    let table := ofList [("env", "dev"), ("devHost", "localhost")]
    let once := (table.interpolate "\x7b\x7b\x7b\x7benv\x7d\x7dHost\x7d\x7d").text
    (∀ name value, table.get? name = some value → ¬ HasReference value) ∧
      once = "\x7b\x7bdevHost\x7d\x7d" ∧ (table.interpolate once).text = "localhost" ∧
      (table.interpolate once).text ≠ once := by
  intro table once
  have clear : ∀ entry ∈ table.entries, '\x7b' ∉ entry.2 := by decide +kernel
  exact ⟨fun _ _ found => not_hasReference_of_clear (clear _ (mem_of_get? found)),
    by decide +kernel, by decide +kernel, by decide +kernel⟩

end VariableTable
end HttpContract
