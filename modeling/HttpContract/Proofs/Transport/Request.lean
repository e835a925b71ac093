import HttpContract.Proofs.Definitions.Zones
import HttpContract.Proofs.Except
import HttpContract.Proofs.Headers.Attachment
import HttpContract.Transport.Request

/-! What is sent for a block: the method of its request line, its body as it is written, and of its
headers the last one for each name, if that one can be sent. -/
namespace HttpContract

namespace Request

open AttachedHeaders BlockReading

section

variable [DomainNames] {base : Url} {test : TestCase}

theorem prepare_eq_ok_iff {sent : Request} : prepare base test = .ok (.ok sent) ↔
    ∃ url, resolve base test.path = .ok (.ok url) ∧ toUrl test url = sent := by
  rw [prepare, map_eq_ok_iff]
  constructor
  · rintro ⟨place, resolved, made⟩
    obtain ⟨url, rfl, same⟩ := map_eq_ok_iff.1 made
    exact ⟨url, resolved, same⟩
  · rintro ⟨url, resolved, rfl⟩
    exact ⟨.ok url, resolved, rfl⟩

@[simp] theorem prepare_eq_failure_iff {failure : TransportError} :
    prepare base test = .ok (.error failure) ↔
      resolve base test.path = .ok (.error failure) := by
  rw [prepare, map_eq_ok_iff]
  constructor
  · rintro ⟨place, resolved, failed⟩
    cases place with
    | error cause =>
      obtain rfl : cause = failure := Except.error.inj failed
      exact resolved
    | ok url => cases failed
  · exact fun failed => ⟨.error failure, failed, rfl⟩

@[simp] theorem prepare_eq_crash_iff {crash : Crash} :
    prepare base test = .error crash ↔ resolve base test.path = .error crash := by
  rw [prepare]
  cases resolve base test.path with
  | error cause => exact Iff.of_eq (by simp [Except.map])
  | ok place => exact iff_of_false nofun nofun

end

section

variable {test : TestCase}

/-- The implied field is there with a body, and is no field of the headers. -/
theorem headersOf_eq (test : TestCase) : (headersOf test).fields =
    (ofList test.headers (bodyOf test).isSome).merged.fields ++
      if (bodyOf test).isSome then [(impliedName, jsonContentType)] else [] := by
  have others : ∀ field ∈ (ofList test.headers (bodyOf test).isSome).merged.fields,
      (field.1 != impliedName) = true := by
    rintro ⟨name, value⟩ listed
    obtain ⟨spelling, -, sendable, rfl⟩ := mem_merged_iff.1 listed
    simpa using sendable.other
  rw [headersOf]
  split
  · rw [HeaderMap.insert]
    exact congrArg (· ++ _) (List.filter_eq_self.2 others)
  · rw [List.append_nil]

theorem nodup_headersOf (distinct : test.headers.IsDistinct) :
    ((headersOf test).fields.map Prod.fst).Nodup := by
  rw [headersOf_eq, List.map_append]
  refine List.nodup_append.2 ⟨nodup_merged distinct _, by split <;> simp, ?_⟩
  rintro name inside _ last rfl
  obtain ⟨⟨_, value⟩, listed, rfl⟩ := List.mem_map.1 inside
  obtain ⟨spelling, -, sendable, rfl⟩ := mem_merged_iff.1 listed
  split at last
  · exact sendable.other (by simpa using last)
  · simp at last

theorem mem_headersOf_iff {name value : Text} : (name, value) ∈ (headersOf test).fields ↔
    (name = impliedName ∧ value = jsonContentType ∧ (bodyOf test).isSome = true) ∨
      ∃ spelling, (spelling, value) ∈ test.headers.entries ∧
        IsSendable (bodyOf test).isSome spelling value ∧ Text.lowerAscii spelling = name := by
  rw [headersOf_eq, List.mem_append, mem_merged_iff, or_comm]
  refine or_congr_left ?_
  cases (bodyOf test).isSome <;> simp

end

/-- A request that says what is written: of the headers the last one for each name, if it can be
sent, and with a body its content type. -/
structure IsWritten (sent : Request) (request : RequestLine) (headers : List (Text × Text))
    (body : List Text) : Prop where
  method_eq : sent.method = request.method
  body_eq : sent.body = if body = [] then none else some (Text.join ['\n'] body)
  names : (sent.headers.fields.map Prod.fst).Nodup
  fields : ∀ name value, (name, value) ∈ sent.headers.fields ↔
    (name = impliedName ∧ value = jsonContentType ∧ sent.body.isSome = true) ∨
      (Text.lowerAscii name = name ∧ IsSendable sent.body.isSome name value ∧
        HeaderList.IsLast headers name value)

theorem exists_sendable_iff {pairs : List (Text × Text)} {hasBody : Bool} {name value : Text} :
    (∃ spelling, (spelling, value) ∈ (HeaderList.ofList pairs).entries ∧
        IsSendable hasBody spelling value ∧ Text.lowerAscii spelling = name) ↔
      Text.lowerAscii name = name ∧ IsSendable hasBody name value ∧
        HeaderList.IsLast pairs name value := by
  rw [← HeaderList.get?_ofList_eq_some_iff,
    (HeaderList.isDistinct_ofList pairs).get?_eq_some_iff]
  constructor
  · rintro ⟨spelling, listed, sendable, rfl⟩
    have lower := Text.lowerAscii_lowerAscii spelling
    exact ⟨lower, isSendable_lowerAscii_iff.2 sendable, spelling, listed,
      Text.sameAscii_iff.2 lower.symm⟩
  · rintro ⟨lower, sendable, spelling, listed, same⟩
    have key : Text.lowerAscii spelling = name := (Text.sameAscii_iff.1 same).trans lower
    refine ⟨spelling, listed, isSendable_lowerAscii_iff.1 ?_, key⟩
    rwa [key]

variable {block : Block} {table : VariableTable} {index : Nat} {request : RequestLine}
  {headers : List (Text × Text)} {body : List Text}

/-- A body is never empty, since its first line opens it. -/
theorem bodyOf_caseOf (zones : HasZones block.lines index request headers body) :
    bodyOf (block.caseOf table request) =
      if body = [] then none else some (Text.join ['\n'] body) := by
  rw [bodyOf, Block.caseOf_of_hasZones zones]
  cases lines : body with
  | nil => rfl
  | cons line rest =>
    have first : line ∈ (bodyLines block.lines).head? := by
      rw [bodyLines_eq_drop, zones.body_eq, lines]
      rfl
    have opens := opensBody_of_mem_head? first
    have shown : line ≠ [] := by
      rintro rfl
      cases opens
    rw [if_neg (by simp), Option.filter_some, if_pos]
    cases line with
    | nil => exact absurd rfl shown
    | cons c line => cases rest <;> rfl

theorem isWritten_toUrl (zones : HasZones block.lines index request headers body) (url : Url) :
    (toUrl (block.caseOf table request) url).IsWritten request headers body := by
  have list : (block.caseOf table request).headers = HeaderList.ofList headers := by
    rw [Block.caseOf_of_hasZones zones]
  constructor
  case method_eq => rfl
  case body_eq => exact bodyOf_caseOf zones
  case names =>
    refine nodup_headersOf ?_
    rw [list]
    exact HeaderList.isDistinct_ofList headers
  case fields =>
    intro name value
    refine mem_headersOf_iff.trans (or_congr_right ?_)
    rw [list]
    exact exists_sendable_iff

/-- What is written in a block is what is sent for it, to the URL of its target. Whether there is
such a URL is no matter of headers and body, and if there is none, its reason is why nothing is
sent. -/
theorem prepare_testCase? [DomainNames] {block : Block} {table : VariableTable} {test : TestCase}
    (given : (block.testCase? table).1 = some test) (base : Url) :
    (∃ index request headers body, HasZones block.lines index request headers body ∧
      ∀ url, resolve base test.path = .ok (.ok url) →
        ∃ sent, prepare base test = .ok (.ok sent) ∧ sent.url = url ∧
          sent.IsWritten request headers body) ∧
    ∀ other : TestCase,
      ((∃ sent, prepare base other = .ok (.ok sent)) ↔
        ∃ url, resolve base other.path = .ok (.ok url)) ∧
      (∀ failure, prepare base other = .ok (.error failure) ↔
        resolve base other.path = .ok (.error failure)) ∧
      ∀ crash, prepare base other = .error crash ↔ resolve base other.path = .error crash := by
  refine ⟨?_, fun other => ⟨?_, fun _ => prepare_eq_failure_iff, fun _ => prepare_eq_crash_iff⟩⟩
  · obtain ⟨index, request, headers, body, zones, -, rfl⟩ := Block.testCase?_eq_some_iff.1 given
    exact ⟨index, request, headers, body, zones, fun url resolved =>
      ⟨_, prepare_eq_ok_iff.2 ⟨url, resolved, rfl⟩, rfl, isWritten_toUrl zones url⟩⟩
  · constructor
    · rintro ⟨sent, made⟩
      obtain ⟨url, resolved, -⟩ := prepare_eq_ok_iff.1 made
      exact ⟨url, resolved⟩
    · rintro ⟨url, resolved⟩
      exact ⟨_, prepare_eq_ok_iff.2 ⟨url, resolved, rfl⟩⟩

theorem prepare_testCase?_respelled :
    let _ : DomainNames := .asciiOnly
    let block : Block :=
      { heading := none
        lines := ["x-early: 0", "POST /a", "x-run: one", "Expires: 0", "Content-Type: text/plain",
          "X-Trace: 1", "PUT /b", "bad name: 2", "x-trace: \x7f", "X-RUN: two:3", " \x7b",
          "Allow: *", "\x7d"]
        line := 1 }
    let base : Url :=
      { scheme := "http", authority := some { host := .domain "h" }, path := .segments [[]] }
    let url : Url := { base with path := .segments ["a"] }
    let test := block.caseOf .empty { method := .post, target := "/a" }
    let fields : List (Text × Text) :=
      [("x-run", "two:3"), ("expires", "0"), ("content-type", "application/json; charset=utf-8")]
    (block.testCase? .empty).1 = some test ∧ resolve base test.path = .ok (.ok url) ∧
      ∃ index request headers body sent, HasZones block.lines index request headers body ∧
        prepare base test = .ok (.ok sent) ∧ sent.url = url ∧
        sent.IsWritten request headers body ∧
        sent.headers.fields = fields ∧
        sent.body = some " \x7b\nAllow: *\n\x7d" := by
  intro names block base url test fields
  have given : (block.testCase? .empty).1 = some test := by decide +kernel
  have resolved : resolve base test.path = .ok (.ok url) := by decide +kernel
  obtain ⟨⟨index, request, headers, body, zones, made⟩, -⟩ := prepare_testCase? given base
  obtain ⟨sent, prepared, place, written⟩ := made url resolved
  have known : prepare base test = .ok (.ok (toUrl test url)) :=
    prepare_eq_ok_iff.2 ⟨url, resolved, rfl⟩
  obtain rfl : sent = toUrl test url := Except.ok.inj (Except.ok.inj (prepared.symm.trans known))
  exact ⟨given, resolved, index, request, headers, body, toUrl test url, zones, prepared, place,
    written, by decide +kernel, by decide +kernel⟩

end Request
end HttpContract
