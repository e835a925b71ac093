import HttpContract.Proofs.Headers.Attachment

/-! Headers that are offered one after another. What becomes of one is its own affair; each slot has
the values that went to it, in order, and no name is in both. -/
namespace HttpContract

namespace HeaderMap

variable (map other : HeaderMap) (name value spelling : Text)

@[simp] theorem values_append : (map.append name value).values spelling =
    map.values spelling ++ if Text.sameAscii name spelling then [value] else [] := by
  rw [values, append, List.filter_append, List.map_append, ← values, List.filter_singleton,
    Text.sameAscii]
  cases Text.lowerAscii name == Text.lowerAscii spelling <;> rfl

@[simp]
theorem values_merge : (map.merge other).values name = map.values name ++ other.values name := by
  rw [values, merge, List.filter_append, List.map_append, ← values, ← values]

variable {map name}

@[simp] theorem values_eq_nil_iff :
    map.values name = [] ↔ ∀ field ∈ map.fields, field.1 ≠ Text.lowerAscii name := by
  simp [values, List.filter_eq_nil_iff]

end HeaderMap

namespace AttachedHeaders

structure Offer where
  name : Text
  value : Text
  hasBody : Bool
  deriving DecidableEq

def Offer.outcome (offer : Offer) : Attachment :=
  AttachedHeaders.outcome offer.name offer.value offer.hasBody

def attachEach (attached : AttachedHeaders) : List Offer → AttachedHeaders × List Attachment
  | [] => (attached, [])
  | offer :: offers =>
    let step := attached.attach offer.name offer.value offer.hasBody
    let run := attachEach step.1 offers
    (run.1, step.2 :: run.2)

/-- The values that offers of one outcome have for a name, in the order of the offers. -/
def valuesOf (result : Attachment) (offers : List Offer) (name : Text) : List Text :=
  (offers.filter fun offer => offer.outcome = result ∧ Text.sameAscii offer.name name).map
    Offer.value

/-! One offer. -/

theorem isContentName_iff {name : Text} :
    isContentName name = true ↔ Text.lowerAscii name ∈ contentNames := by
  have lower : ∀ candidate ∈ contentNames, Text.lowerAscii candidate = candidate := by decide
  simp only [isContentName, List.any_eq_true, Text.sameAscii_iff]
  constructor
  · rintro ⟨candidate, listed, same⟩
    rwa [← same, lower candidate listed]
  · exact fun listed => ⟨_, listed, lower _ listed⟩

section

variable (attached : AttachedHeaders) (offer : Offer)

@[simp] theorem attach_snd :
    (attached.attach offer.name offer.value offer.hasBody).2 = offer.outcome := by
  unfold attach
  dsimp only
  split <;> rfl

theorem attach_cases :
    let next := (attached.attach offer.name offer.value offer.hasBody).1
    (offer.outcome = .request ∧
      next = { attached with request := attached.request.append offer.name offer.value }) ∨
    (offer.outcome = .content ∧
      next = { attached with content := attached.content.append offer.name offer.value }) ∨
    offer.outcome ≠ .request ∧ offer.outcome ≠ .content ∧ next = attached := by
  unfold attach
  dsimp only
  rw [← Offer.outcome]
  split
  next request => exact .inl ⟨request, rfl⟩
  next content => exact .inr (.inl ⟨content, rfl⟩)
  next skipped => exact .inr (.inr ⟨by simp [skipped], by simp [skipped], rfl⟩)
  next reason dropped => exact .inr (.inr ⟨by simp [dropped], by simp [dropped], rfl⟩)

theorem valuesOf_singleton (result : Attachment) (name : Text) :
    valuesOf result [offer] name =
      if offer.outcome = result ∧ Text.sameAscii offer.name name = true then [offer.value]
      else [] := by
  rw [valuesOf, List.filter_cons, List.filter_nil]
  simp only [decide_eq_true_eq]
  split <;> rfl

theorem valuesOf_cons (result : Attachment) (offers : List Offer) (name : Text) :
    valuesOf result (offer :: offers) name =
      valuesOf result [offer] name ++ valuesOf result offers name := by
  rw [valuesOf, ← List.singleton_append, List.filter_append, List.map_append, valuesOf, valuesOf]

theorem values_attach (name : Text) :
    let next := (attached.attach offer.name offer.value offer.hasBody).1
    next.request.values name = attached.request.values name ++ valuesOf .request [offer] name ∧
    next.content.values name = attached.content.values name ++ valuesOf .content [offer] name := by
  intro next
  rw [valuesOf_singleton, valuesOf_singleton]
  obtain ⟨request, same⟩ | ⟨content, same⟩ | ⟨noRequest, noContent, same⟩ :=
    attach_cases attached offer
  · simp [next, same, request]
  · simp [next, same, content]
  · simp [next, same, noRequest, noContent]

end

/-- Payload names stand in the one slot and other names in the other, all of them in lower case, and
the name that the body implies stands in neither. -/
structure IsApart (attached : AttachedHeaders) : Prop where
  request : ∀ field ∈ attached.request.fields,
    Text.lowerAscii field.1 = field.1 ∧ field.1 ∉ contentNames ∧ field.1 ≠ impliedName
  content : ∀ field ∈ attached.content.fields,
    Text.lowerAscii field.1 = field.1 ∧ field.1 ∈ contentNames ∧ field.1 ≠ impliedName

@[simp] theorem isApart_empty : IsApart {} := ⟨nofun, nofun⟩

theorem IsApart.attach {attached : AttachedHeaders} (h : attached.IsApart) (offer : Offer) :
    (attached.attach offer.name offer.value offer.hasBody).1.IsApart := by
  obtain ⟨request, same⟩ | ⟨content, same⟩ | ⟨-, -, same⟩ := attach_cases attached offer
  · obtain ⟨other, -, -, plain⟩ := outcome_eq_request_iff.1 request
    rw [← Bool.not_eq_true, isContentName_iff] at plain
    rw [same]
    refine ⟨List.forall_mem_append.2 ⟨h.request, List.forall_mem_singleton.2 ?_⟩, h.content⟩
    exact ⟨Text.lowerAscii_lowerAscii _, plain, other⟩
  · obtain ⟨other, -, -, payload, -⟩ := outcome_eq_content_iff.1 content
    rw [isContentName_iff] at payload
    rw [same]
    refine ⟨h.request, List.forall_mem_append.2 ⟨h.content, List.forall_mem_singleton.2 ?_⟩⟩
    exact ⟨Text.lowerAscii_lowerAscii _, payload, other⟩
  · rwa [same]

theorem IsApart.disjoint {attached : AttachedHeaders} (h : attached.IsApart) (name : Text) :
    attached.request.values name = [] ∨ attached.content.values name = [] := by
  rw [HeaderMap.values_eq_nil_iff, HeaderMap.values_eq_nil_iff]
  by_cases payload : Text.lowerAscii name ∈ contentNames
  · left
    rintro field listed same
    exact (h.request field listed).2.1 (same ▸ payload)
  · right
    rintro field listed same
    exact payload (same ▸ (h.content field listed).2.1)

theorem IsApart.values_implied {attached : AttachedHeaders} (h : attached.IsApart) :
    attached.request.values impliedName = [] ∧ attached.content.values impliedName = [] := by
  have lower : Text.lowerAscii impliedName = impliedName := by decide
  rw [HeaderMap.values_eq_nil_iff, HeaderMap.values_eq_nil_iff, lower]
  exact ⟨fun field listed => (h.request field listed).2.2,
    fun field listed => (h.content field listed).2.2⟩

/-! All offers. -/

variable (attached : AttachedHeaders) (offers : List Offer)

@[simp] theorem attachEach_snd : (attachEach attached offers).2 = offers.map Offer.outcome := by
  induction offers generalizing attached with
  | nil => rfl
  | cons offer offers ih => rw [attachEach, List.map_cons, ih, attach_snd]

theorem values_attachEach (name : Text) :
    (attachEach attached offers).1.request.values name =
      attached.request.values name ++ valuesOf .request offers name ∧
    (attachEach attached offers).1.content.values name =
      attached.content.values name ++ valuesOf .content offers name := by
  induction offers generalizing attached with
  | nil => simp [attachEach, valuesOf]
  | cons offer offers ih =>
    obtain ⟨request, content⟩ := values_attach attached offer name
    rw [attachEach, (ih _).1, (ih _).2, request, content, List.append_assoc, List.append_assoc,
      ← valuesOf_cons, ← valuesOf_cons]
    exact ⟨rfl, rfl⟩

theorem IsApart.attachEach {attached : AttachedHeaders} (h : attached.IsApart) :
    (attachEach attached offers).1.IsApart := by
  induction offers generalizing attached with
  | nil => exact h
  | cons offer offers ih => exact ih (h.attach offer)

/-! Lists of headers. -/

/-- Headers that do not describe the payload go to the request with a body and without one. -/
theorem request_ofList (headers : HeaderList) :
    (ofList headers true).request = (ofList headers false).request := by
  have same : fieldsOf .request true headers.entries = fieldsOf .request false headers.entries := by
    simp only [fieldsOf, outcome_eq_request_iff]
  rw [ofList, ofList, foldl_attach, foldl_attach, same]

@[simp] theorem content_ofList (headers : HeaderList) : (ofList headers false).content = {} := by
  have none_listed : fieldsOf .content false headers.entries = [] := by
    simp [fieldsOf, outcome_eq_content_iff]
  rw [ofList, foldl_attach, none_listed]
  rfl

/-- A list of headers is attached as if its entries were offered one after another. -/
theorem ofList_eq_attachEach (headers : HeaderList) (hasBody : Bool) : ofList headers hasBody =
    (attachEach {} (headers.entries.map fun entry => ⟨entry.1, entry.2, hasBody⟩)).1 := by
  have run (entries : List (Text × Text)) (attached : AttachedHeaders) :
      entries.foldl (fun attached entry => (attached.attach entry.1 entry.2 hasBody).1) attached =
        (attachEach attached (entries.map fun entry => ⟨entry.1, entry.2, hasBody⟩)).1 := by
    induction entries generalizing attached with
    | nil => rfl
    | cons entry entries ih => exact ih _
  exact run headers.entries {}

/-- Headers that are offered one after another are parted between two slots. What becomes of one
depends on itself alone. Each slot has, for each name, the values of the offers that went to it, in
their order, and all other offers change nothing. No name is in both slots, the name that the body
implies is in neither, and the one for the payload has payload names only; so the merged fields of a
name are those of one slot. A list of headers without a body has no payload fields, and the same
other ones as with a body. -/
theorem attachEach_parts (offers : List Offer) :
    let attached := (attachEach {} offers).1
    (attachEach {} offers).2 = offers.map Offer.outcome ∧
    (∀ name, attached.request.values name = valuesOf .request offers name ∧
      attached.content.values name = valuesOf .content offers name) ∧
    (∀ (state : AttachedHeaders) (offer : Offer),
      offer.outcome ≠ .request → offer.outcome ≠ .content →
        (state.attach offer.name offer.value offer.hasBody).1 = state) ∧
    (∀ name, attached.request.values name = [] ∨ attached.content.values name = []) ∧
    (attached.request.values impliedName = [] ∧ attached.content.values impliedName = []) ∧
    (∀ field ∈ attached.request.fields ++ attached.content.fields,
      Text.lowerAscii field.1 = field.1) ∧
    (∀ field ∈ attached.content.fields, field.1 ∈ contentNames) ∧
    (∀ name, attached.merged.values name =
      attached.request.values name ++ attached.content.values name) ∧
    ∀ headers : HeaderList, (ofList headers true).request = (ofList headers false).request ∧
      (ofList headers false).content = {} ∧
      ∀ hasBody, ofList headers hasBody =
        (attachEach {} (headers.entries.map fun entry => ⟨entry.1, entry.2, hasBody⟩)).1 := by
  intro attached
  have apart : attached.IsApart := isApart_empty.attachEach offers
  refine ⟨attachEach_snd {} offers, values_attachEach {} offers, fun state offer other also => ?_,
    apart.disjoint, apart.values_implied, fun field listed => ?_,
    fun field listed => (apart.content field listed).2.1,
    fun name => HeaderMap.values_merge .., fun headers => ⟨request_ofList headers,
      content_ofList headers, ofList_eq_attachEach headers⟩⟩
  · obtain ⟨request, -⟩ | ⟨content, -⟩ | ⟨-, -, same⟩ := attach_cases state offer
    · exact absurd request other
    · exact absurd content also
    · exact same
  · obtain listed | listed := List.mem_append.1 listed
    · exact (apart.request field listed).1
    · exact (apart.content field listed).1

/-- One name in two spellings with different body flags, and headers that go nowhere among them. -/
theorem attachEach_parts_mixed :
    let offers : List Offer := [⟨"Accept", "a", false⟩, ⟨"Expires", "0", true⟩,
      ⟨"EXPIRES", "1", false⟩, ⟨"Content-Type", "b", true⟩, ⟨"Bad Name", "c", true⟩,
      ⟨"accept", "d", true⟩]
    let attached := (attachEach {} offers).1
    let implied : Offer := ⟨"Content-Type", "b", true⟩
    attached.request.values "ACCEPT" = ["a".toList, "d".toList] ∧
      attached.content.values "Expires" = ["0".toList] ∧
      implied.outcome ≠ .request ∧ implied.outcome ≠ .content ∧
      (attached.attach implied.name implied.value implied.hasBody).1 = attached := by
  intro offers attached implied
  obtain ⟨-, listed, unchanged, -⟩ := attachEach_parts offers
  have noRequest : implied.outcome ≠ .request := by decide
  have noContent : implied.outcome ≠ .content := by decide
  refine ⟨?_, ?_, noRequest, noContent, unchanged attached implied noRequest noContent⟩
  · rw [(listed "ACCEPT").1]
    decide
  · rw [(listed "Expires").2]
    decide

end AttachedHeaders
end HttpContract
