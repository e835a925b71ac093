import HttpContract.Proofs.Headers.Insertion
import HttpContract.TestCase

/-! Test cases that are made step by step. Whatever a case is given, and in whatever order, it
keeps its name and its request, expects some code, and is judged by a schema exactly if it has
one. -/
namespace HttpContract
namespace TestCase

inductive Detail where
  | expected (codes : List StatusCode)
  | schema (schema : Text)
  | header (name value : Text)
  | body (body : Text)
  deriving DecidableEq

namespace Detail

inductive Kind where
  | expected | schema | header | body
  deriving DecidableEq

def kind : Detail → Kind
  | expected _ => .expected
  | schema _ => .schema
  | header .. => .header
  | body _ => .body

def codes? : Detail → Option (List StatusCode)
  | expected codes => some codes
  | _ => none

def schema? : Detail → Option Text
  | schema text => some text
  | _ => none

def header? : Detail → Option (Text × Text)
  | header name value => some (name, value)
  | _ => none

def body? : Detail → Option Text
  | body text => some text
  | _ => none

theorem eq_none_of_kind (detail : Detail) :
    (detail.kind ≠ .expected → detail.codes? = none) ∧
    (detail.kind ≠ .schema → detail.schema? = none) ∧
    (detail.kind ≠ .header → detail.header? = none) ∧
    (detail.kind ≠ .body → detail.body? = none) := by
  cases detail <;> simp [kind, codes?, schema?, header?, body?]

section

variable {α : Type} (part : Detail → Option α)

def last? (details : List Detail) : Option α := (details.filterMap part).getLast?

@[simp] theorem last?_concat (details : List Detail) (detail : Detail) :
    last? part (details ++ [detail]) = (part detail).or (last? part details) := by
  rw [last?, List.filterMap_append, List.getLast?_append]
  cases found : part detail <;> simp [found, last?]

/-- A part that only details of one kind have can be found among these. -/
theorem filterMap_filter_kind {kind : Kind} (other : ∀ detail, detail.kind ≠ kind →
    part detail = none) (details : List Detail) :
    (details.filter fun detail => detail.kind = kind).filterMap part = details.filterMap part := by
  rw [List.filterMap_filter]
  refine List.filterMap_congr fun detail _ => ?_
  split
  next => rfl
  next apart => exact (other detail (by simpa using apart)).symm

end

def lastCodes (details : List Detail) : List StatusCode := (last? codes? details).getD []

def headers (details : List Detail) : List (Text × Text) := details.filterMap header?

@[simp] theorem headers_concat (details : List Detail) (detail : Detail) :
    headers (details ++ [detail]) = headers details ++ (header? detail).toList := by
  rw [headers, List.filterMap_append]
  cases detail <;> rfl

end Detail

open Detail

def add (test : TestCase) : Detail → TestCase
  | .expected codes => test.withExpected codes
  | .schema schema => test.withSchema schema
  | .header name value => test.withHeader name value
  | .body body => test.withBody body

def addAll (test : TestCase) (details : List Detail) : TestCase := details.foldl add test

theorem add_comm (test : TestCase) {first second : Detail} (apart : first.kind ≠ second.kind) :
    (test.add first).add second = (test.add second).add first := by
  cases first <;> cases second
  case expected.expected | schema.schema | header.header | body.body => exact absurd rfl apart
  all_goals rfl

theorem expectation_eq (codes : List StatusCode) :
    expectation codes = if codes = [] then [200] else codes.eraseDups := by
  rw [expectation, Text.distinct_eq_eraseDups]
  rfl

@[simp] theorem expectation_ne_nil (codes : List StatusCode) : expectation codes ≠ [] := by
  unfold expectation
  split
  · exact List.cons_ne_nil _ _
  next named =>
    obtain ⟨code, codes, rfl⟩ := List.exists_cons_of_ne_nil named
    exact List.ne_nil_of_mem (Text.mem_distinct.2 List.mem_cons_self)

@[simp] theorem nodup_expectation (codes : List StatusCode) : (expectation codes).Nodup := by
  unfold expectation
  split
  · exact List.nodup_singleton _
  · exact Text.nodup_distinct codes

theorem head?_expected {test : TestCase} (h : test.expected ≠ []) :
    test.expected.head? = some test.primaryStatus := by
  obtain ⟨code, codes, named⟩ := List.exists_cons_of_ne_nil h
  rw [primaryStatus, named]
  rfl

section

variable (name : Text) (method : Method) (path : Text)

def made (details : List Detail) : TestCase :=
  { name, method, path
    expected := expectation (lastCodes details)
    schema := last? schema? details
    testType := (last? schema? details).elim .statusCode fun _ => .schema
    headers := HeaderList.ofList (Detail.headers details)
    body := last? body? details }

/-- Another detail changes what it is about and nothing else. -/
@[simp] theorem add_made (details : List Detail) (detail : Detail) :
    (made name method path details).add detail = made name method path (details ++ [detail]) := by
  simp only [made, lastCodes, last?_concat, headers_concat]
  cases detail with
  | expected codes => simp [add, withExpected, codes?, schema?, header?, body?]
  | schema text => simp [add, withSchema, codes?, schema?, header?, body?]
  | header name value =>
    simp [add, withHeader, codes?, schema?, header?, body?]
  | body text => simp [add, withBody, codes?, schema?, header?, body?]

@[simp] theorem addAll_new (details : List Detail) :
    (new name method path).addAll details = made name method path details := by
  induction details using List.reverseRecOn with
  | nil => rfl
  | append_singleton details detail ih =>
    rw [addAll, List.foldl_concat, ← addAll, ih, add_made]

/-- What a case is that was made with a name and a request and then given the details. -/
structure IsMadeOf (details : List Detail) (test : TestCase) : Prop where
  name : test.name = name
  method : test.method = method
  path : test.path = path
  expected : test.expected =
    if lastCodes details = [] then [200] else (lastCodes details).eraseDups
  expected_ne_nil : test.expected ≠ []
  expected_nodup : test.expected.Nodup
  primary : test.expected.head? = some test.primaryStatus
  schema : test.schema = last? schema? details
  judged_by_schema : test.testType = .schema ↔ test.schema.isSome = true
  judged_by_status : test.testType = .statusCode ↔ test.schema = none
  headers : test.headers = HeaderList.ofList (Detail.headers details)
  header_names : test.headers.entries.map Prod.fst =
    ((Detail.headers details).map Prod.fst).eraseDupsBy Text.sameAscii
  header_values : ∀ entry ∈ test.headers.entries,
    HeaderList.IsLast (Detail.headers details) entry.1 entry.2
  body : test.body = last? body? details

@[simp] theorem isMadeOf_made (details : List Detail) :
    IsMadeOf name method path details (made name method path details) where
  name := rfl
  method := rfl
  path := rfl
  expected := expectation_eq _
  expected_ne_nil := expectation_ne_nil _
  expected_nodup := nodup_expectation _
  primary := head?_expected (expectation_ne_nil _)
  schema := rfl
  judged_by_schema := by cases found : last? schema? details <;> simp [made, found]
  judged_by_status := by cases found : last? schema? details <;> simp [made, found]
  headers := rfl
  header_names := HeaderList.map_fst_ofList _
  header_values entry listed := HeaderList.get?_ofList_eq_some_iff.1
    ((HeaderList.isDistinct_ofList _).mem_entries_iff.1 listed).2
  body := rfl

/-- Only the order within each kind of details counts. -/
theorem made_congr {details others : List Detail} (same : ∀ kind,
    (others.filter fun detail => detail.kind = kind) =
      details.filter fun detail => detail.kind = kind) :
    made name method path others = made name method path details := by
  have parts {α : Type} {part : Detail → Option α} (kind : Kind)
      (other : ∀ detail, detail.kind ≠ kind → part detail = none) :
      others.filterMap part = details.filterMap part := by
    rw [← filterMap_filter_kind part other, same, filterMap_filter_kind part other]
  have codes := parts .expected fun detail => (eq_none_of_kind detail).1
  have schemas := parts .schema fun detail => (eq_none_of_kind detail).2.1
  have headers := parts .header fun detail => (eq_none_of_kind detail).2.2.1
  have bodies := parts .body fun detail => (eq_none_of_kind detail).2.2.2
  simp only [made, lastCodes, last?, Detail.headers, codes, schemas, headers, bodies]

/-- Whatever a case is given after it was made, its codes are those that were named last, each once
and the default for none, it is judged by a schema exactly if it has one, and its headers are those
that were put. It is what it was given last of each kind: details of different kinds can change
places. -/
theorem addAll_isMadeOf (details : List Detail) :
    let test := (new name method path).addAll details
    IsMadeOf name method path details test ∧
    (∀ (any : TestCase) (first second : Detail), first.kind ≠ second.kind →
      (any.add first).add second = (any.add second).add first) ∧
    ∀ others : List Detail, (∀ kind, (others.filter fun detail => detail.kind = kind) =
        details.filter fun detail => detail.kind = kind) →
      (new name method path).addAll others = test := by
  intro test
  have whole : test = made name method path details := addAll_new name method path details
  refine ⟨whole ▸ isMadeOf_made name method path details, fun any _ _ => add_comm any,
    fun others same => ?_⟩
  rw [whole, addAll_new, made_congr name method path same]

end

/-- Codes are named twice, and a header is respelled behind a schema. -/
theorem addAll_isMadeOf_respelled :
    let details : List Detail := [.expected [404], .header "Accept" "a", .schema "Widget",
      .expected [201, 200, 201], .header "ACCEPT" "b"]
    let others : List Detail := [.header "Accept" "a", .header "ACCEPT" "b", .expected [404],
      .expected [201, 200, 201], .schema "Widget"]
    let test := (new "a" .get "/a").addAll details
    test.expected = [201, 200] ∧ test.headers = ⟨[("Accept", "b")]⟩ ∧
    ((new "b" .get "/b").add (.expected [])).add (.body "x") =
      ((new "b" .get "/b").add (.body "x")).add (.expected []) ∧
    (new "a" .get "/a").addAll others = test := by
  intro details others test
  obtain ⟨made, different, order⟩ := addAll_isMadeOf "a" .get "/a" details
  refine ⟨made.expected, made.headers, different _ _ _ (by decide), order others fun kind => ?_⟩
  cases kind <;> rfl

end TestCase
end HttpContract
