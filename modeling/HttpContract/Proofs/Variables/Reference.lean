import HttpContract.Proofs.Variables.Table
import HttpContract.Variables.Reference

/-! A text is the sequence of its parts, and putting values for references keeps it a phrase: what
is put there neither is empty nor brings a blank to an end of the text or a newline into it. -/
namespace HttpContract

namespace TemplatePart

theorem reference?_eq_some {text name rest : Text} (h : reference? text = some (name, rest)) :
    text = source (.reference name) ++ rest ∧ name ≠ [] ∧ ∀ c ∈ name, isBrace c = false := by
  unfold reference? at h
  split at h
  · rename_i inside
    have cut := List.takeWhile_append_dropWhile (p := fun c => !isBrace c) (l := inside)
    dsimp only at h
    split at h
    · rename_i behind closing
      split at h
      · cases h
      · rename_i shown
        obtain ⟨rfl, rfl⟩ := Prod.mk.inj (Option.some.inj h)
        refine ⟨?_, shown, fun c hc => ?_⟩
        · conv_lhs => rw [← cut, closing]
          simp [source]
        · simpa using List.mem_takeWhile_imp hc
    · cases h
  · cases h

@[simp] theorem flatMap_source_ofText (text : Text) : (ofText text).flatMap source = text := by
  fun_induction ofText text with
  | case1 text name rest h _ ih => rw [List.flatMap_cons, ih, ← (reference?_eq_some h).1]
  | case2 => rfl
  | case3 c rest _ ih =>
    rw [List.flatMap_cons, ih]
    rfl

@[simp]
theorem source_ne_nil (part : TemplatePart) : part.source ≠ [] := by cases part <;> simp [source]

theorem resolve_cases (table : VariableTable) (part : TemplatePart) :
    (∃ name value, part = .reference name ∧ table.get? name = some value ∧
      part.resolve table = value) ∨
    part.resolve table = part.source ∧ ∀ name, part = .reference name → table.get? name = none := by
  cases part with
  | plain c => exact .inr ⟨rfl, nofun⟩
  | reference name =>
    cases found : table.get? name with
    | none =>
      refine .inr ⟨by simp [resolve, found], fun other same => ?_⟩
      obtain rfl := TemplatePart.reference.inj same
      exact found
    | some value => exact .inl ⟨name, value, rfl, found, by simp [resolve, found]⟩

theorem resolve_eq {table : VariableTable} (h : table.HoldsPhrases) (part : TemplatePart) :
    part.resolve table = part.source ∨ Text.IsPhrase (part.resolve table) := by
  rcases resolve_cases table part with ⟨name, value, -, found, put⟩ | ⟨kept, -⟩
  · exact .inr (put ▸ h name value found)
  · exact .inl kept

/-- Each part may be left as it is or exchanged for a phrase. -/
theorem isPhrase_flatMap {parts : List TemplatePart} {exchange : TemplatePart → Text}
    (h : Text.IsPhrase (parts.flatMap source))
    (each : ∀ part, exchange part = source part ∨ Text.IsPhrase (exchange part)) :
    Text.IsPhrase (parts.flatMap exchange) := by
  have shown (part : TemplatePart) : exchange part ≠ [] :=
    (each part).elim (fun same => same ▸ part.source_ne_nil) Text.IsPhrase.ne_nil
  obtain ⟨front, back⟩ := Text.trim_eq_self_iff.1 h.trimmed
  have some_part : parts ≠ [] := by
    rintro rfl
    exact h.ne_nil rfl
  refine ⟨?_, Text.trim_eq_self_iff.2 ⟨?_, ?_⟩, ?_⟩
  · obtain ⟨first, rest, rfl⟩ := List.exists_cons_of_ne_nil some_part
    simp [shown first]
  · obtain ⟨first, rest, rfl⟩ := List.exists_cons_of_ne_nil some_part
    rw [List.flatMap_cons, List.head?_append_of_ne_nil _ first.source_ne_nil] at front
    rw [List.flatMap_cons, List.head?_append_of_ne_nil _ (shown first)]
    obtain same | phrase := each first
    · rwa [same]
    · exact phrase.head_clear
  · obtain ⟨rest, last, rfl⟩ := List.eq_nil_or_concat' parts |>.resolve_left some_part
    rw [List.flatMap_append, List.flatMap_singleton,
      List.getLast?_append_of_ne_nil _ last.source_ne_nil] at back
    rw [List.flatMap_append, List.flatMap_singleton,
      List.getLast?_append_of_ne_nil _ (shown last)]
    obtain same | phrase := each last
    · rwa [same]
    · exact (Text.trim_eq_self_iff.1 phrase.trimmed).2
  · intro newline
    obtain ⟨part, listed, inside⟩ := List.mem_flatMap.1 newline
    obtain same | phrase := each part
    · exact h.one_line (List.mem_flatMap.2 ⟨part, listed, same ▸ inside⟩)
    · exact phrase.one_line inside

end TemplatePart

namespace VariableTable

theorem isPhrase_interpolate {table : VariableTable} {text : Text}
    (values : table.HoldsPhrases) (h : Text.IsPhrase text) :
    Text.IsPhrase (table.interpolate text).text := by
  rw [← TemplatePart.flatMap_source_ofText text] at h
  exact TemplatePart.isPhrase_flatMap h (TemplatePart.resolve_eq values)

end VariableTable
end HttpContract
