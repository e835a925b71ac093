import HttpContract.Headers.Attachment
import HttpContract.Proofs.Headers.List
import Mathlib.Data.List.Nodup

/-! The header fields that a list of headers comes to. Each header stands or falls by itself, and
the spelling of its name does not decide which; so each name has one field at most, in lower case.
-/
namespace HttpContract
namespace AttachedHeaders

variable {name value : Text} {hasBody : Bool}

@[simp] theorem isTokenChar_toLower (c : Char) : isTokenChar c.toLower = isTokenChar c := by
  have letters : Text.upperLetters.all fun c => isTokenChar c.toLower = isTokenChar c := by decide
  by_cases h : c ∈ Text.upperLetters
  · exact of_decide_eq_true (List.all_eq_true.1 letters c h)
  · rw [Text.toLower_eq_self h]

@[simp] theorem isValidName_lowerAscii (name : Text) :
    isValidName (Text.lowerAscii name) = isValidName name := by
  simp [isValidName, Text.lowerAscii, List.all_map, Function.comp_def]

@[simp] theorem isContentName_lowerAscii (name : Text) :
    isContentName (Text.lowerAscii name) = isContentName name := by
  simp [isContentName, Text.sameAscii]

/-- A header that can be sent: its name is not the one that the body implies, name and value are
valid, and if it describes the payload there is a body. -/
structure IsSendable (hasBody : Bool) (name value : Text) : Prop where
  other : Text.lowerAscii name ≠ impliedName
  name_valid : isValidName name = true
  value_valid : isValidValue value = true
  needs_body : isContentName name = true → hasBody = true

@[simp] theorem isSendable_lowerAscii_iff :
    IsSendable hasBody (Text.lowerAscii name) value ↔ IsSendable hasBody name value := by
  constructor
  · rintro ⟨other, valid, content, needs⟩
    exact ⟨by simpa using other, by simpa using valid, content, by simpa using needs⟩
  · rintro ⟨other, valid, content, needs⟩
    exact ⟨by simpa using other, by simpa using valid, content, by simpa using needs⟩

theorem outcome_eq_request_iff : outcome name value hasBody = .request ↔
    Text.lowerAscii name ≠ impliedName ∧ isValidName name = true ∧ isValidValue value = true ∧
      isContentName name = false := by
  have other : Text.sameAscii name impliedName = false ↔ Text.lowerAscii name ≠ impliedName :=
    Text.sameAscii_eq_false_iff
  rw [outcome, ← other]
  split_ifs <;> simp_all

theorem outcome_eq_content_iff : outcome name value hasBody = .content ↔
    Text.lowerAscii name ≠ impliedName ∧ isValidName name = true ∧ isValidValue value = true ∧
      isContentName name = true ∧ hasBody = true := by
  have other : Text.sameAscii name impliedName = false ↔ Text.lowerAscii name ≠ impliedName :=
    Text.sameAscii_eq_false_iff
  rw [outcome, ← other]
  split_ifs <;> simp_all

theorem isSendable_iff : IsSendable hasBody name value ↔
    outcome name value hasBody = .request ∨ outcome name value hasBody = .content := by
  rw [outcome_eq_request_iff, outcome_eq_content_iff]
  constructor
  · rintro ⟨other, valid, content, needs⟩
    cases payload : isContentName name with
    | false => exact .inl ⟨other, valid, content, rfl⟩
    | true => exact .inr ⟨other, valid, content, rfl, needs payload⟩
  · rintro (⟨other, valid, content, plain⟩ | ⟨other, valid, content, -, body⟩)
    · exact ⟨other, valid, content, fun payload => absurd payload (by simp [plain])⟩
    · exact ⟨other, valid, content, fun _ => body⟩

def fieldsOf (result : Attachment) (hasBody : Bool) (entries : List (Text × Text)) :
    List (Text × Text) :=
  (entries.filter fun entry => outcome entry.1 entry.2 hasBody = result).map fun entry =>
    (Text.lowerAscii entry.1, entry.2)

theorem foldl_attach (attached : AttachedHeaders) (entries : List (Text × Text)) :
    entries.foldl (fun attached (name, value) => (attached.attach name value hasBody).1) attached =
      { request := ⟨attached.request.fields ++ fieldsOf .request hasBody entries⟩
        content := ⟨attached.content.fields ++ fieldsOf .content hasBody entries⟩ } := by
  induction entries generalizing attached with
  | nil => simp [fieldsOf]
  | cons entry entries ih =>
    rw [List.foldl_cons, ih]
    cases result : outcome entry.1 entry.2 hasBody <;>
      simp [attach, fieldsOf, result, HeaderMap.append]

theorem fields_merged (headers : HeaderList) (hasBody : Bool) :
    (ofList headers hasBody).merged.fields =
      fieldsOf .request hasBody headers.entries ++ fieldsOf .content hasBody headers.entries := by
  rw [ofList, foldl_attach]
  rfl

theorem mem_fieldsOf {result : Attachment} {entries : List (Text × Text)} :
    (name, value) ∈ fieldsOf result hasBody entries ↔ ∃ spelling, (spelling, value) ∈ entries ∧
      outcome spelling value hasBody = result ∧ Text.lowerAscii spelling = name := by
  simp [fieldsOf, and_assoc]

theorem mem_merged_iff {headers : HeaderList} :
    (name, value) ∈ (ofList headers hasBody).merged.fields ↔
      ∃ spelling, (spelling, value) ∈ headers.entries ∧ IsSendable hasBody spelling value ∧
        Text.lowerAscii spelling = name := by
  rw [fields_merged, List.mem_append, mem_fieldsOf, mem_fieldsOf, ← exists_or]
  simp only [isSendable_iff, ← and_or_left, ← or_and_right]

theorem nodup_merged {headers : HeaderList} (h : headers.IsDistinct) (hasBody : Bool) :
    ((ofList headers hasBody).merged.fields.map Prod.fst).Nodup := by
  have keys := h.nodup_keys
  have slot (result : Attachment) :
      ((fieldsOf result hasBody headers.entries).map Prod.fst).Nodup := by
    rw [fieldsOf, List.map_map]
    exact keys.sublist (List.filter_sublist.map _)
  rw [fields_merged, List.map_append]
  refine List.nodup_append.2 ⟨slot .request, slot .content, ?_⟩
  rintro name inside _ also rfl
  obtain ⟨⟨_, value⟩, one, rfl⟩ := List.mem_map.1 inside
  obtain ⟨⟨_, value'⟩, two, same⟩ := List.mem_map.1 also
  obtain ⟨spelling, listed, request, rfl⟩ := mem_fieldsOf.1 one
  obtain ⟨spelling', listed', content, rfl⟩ := mem_fieldsOf.1 two
  -- One entry would be attached to both slots.
  have equal := List.inj_on_of_nodup_map keys listed' listed same
  obtain ⟨rfl, rfl⟩ := Prod.mk.inj equal
  rw [request] at content
  cases content

end AttachedHeaders
end HttpContract
