import HttpContract.Proofs.Definitions.Warning

/-! The zones of a block: what stands before its request line, what stands between that line and the
body, and the body. A case is read from the request line, the headers and the body, and the other
lines are no matter of it. -/
namespace HttpContract

namespace BlockReading

def bodyIndex (lines : List Text) : Nat := lines.findIdx opensBody

def requestIndex? (lines : List Text) : Option Nat :=
  (lines.take (bodyIndex lines)).findIdx? isRequest

def between (lines : List Text) (index : Nat) : List Text :=
  (lines.take (bodyIndex lines)).drop (index + 1)

/-- What a case is read from: the request line and its index, the headers in the order of their
lines, and the lines of the body. -/
structure HasZones (lines : List Text) (index : Nat) (request : RequestLine)
    (headers : List (Text × Text)) (body : List Text) : Prop where
  first : requestIndex? lines = some index
  read : lines[index]?.bind request? = some request
  headers_eq : (between lines index).filterMap header? = headers
  body_eq : lines.drop (bodyIndex lines) = body

variable {lines : List Text}

theorem front_eq_take (lines : List Text) : front lines = lines.take (bodyIndex lines) := by
  rw [front, List.takeWhile_eq_take_findIdx_not]
  simp only [Bool.not_not, bodyIndex]

theorem bodyLines_eq_drop (lines : List Text) :
    bodyLines lines = lines.drop (bodyIndex lines) := by
  rw [bodyLines, List.dropWhile_eq_drop_findIdx_not]
  simp only [Bool.not_not, bodyIndex]

@[simp]
theorem bodyIndex_eq_length_iff : bodyIndex lines = lines.length ↔ bodyLines lines = [] := by
  rw [bodyLines_eq_drop, List.drop_eq_nil_iff]
  exact ⟨Eq.ge, List.findIdx_le_length.antisymm⟩

theorem requestIndex?_eq_none_iff :
    requestIndex? lines = none ↔ (front lines).findSome? request? = none := by
  rw [requestIndex?, ← front_eq_take, List.findIdx?_eq_none_iff, List.findSome?_eq_none_iff]
  simp [isRequest]

@[simp] theorem requestNumbers_append (first : Nat) (before after : List Text) :
    requestNumbers first (before ++ after) =
      requestNumbers first before ++ requestNumbers (first + before.length) after := by
  simp [requestNumbers, List.zipIdx_append]

theorem lt_of_mem_requestNumbers {first number : Nat} (h : number ∈ requestNumbers first lines) :
    number < first + lines.length := by
  obtain ⟨⟨line, _⟩, listed, rfl⟩ := List.mem_map.1 h
  have placed := List.mem_zipIdx_iff_le_and_getElem?_sub.1 (List.mem_filter.1 listed).1
  have bound := (List.getElem?_eq_some_iff.1 placed.2).1
  dsimp only at placed bound ⊢
  omega

theorem exists_cut {index : Nat} (h : requestIndex? lines = some index) :
    ∃ before line request, front lines = before ++ line :: between lines index ∧
      before.length = index ∧ (∀ other ∈ before, request? other = none) ∧
      lines[index]? = some line ∧ request? line = some request := by
  rw [requestIndex?, ← front_eq_take] at h
  obtain ⟨bound, found, others⟩ := List.findIdx?_eq_some_iff_getElem.1 h
  obtain ⟨request, read⟩ := Option.isSome_iff_exists.1 found
  refine ⟨(front lines).take index, (front lines)[index], request, ?_,
    List.length_take_of_le bound.le, fun other listed => ?_, ?_, read⟩
  · rw [between, ← front_eq_take, ← List.drop_eq_getElem_cons bound, List.take_append_drop]
  · obtain ⟨place, inside, rfl⟩ := List.mem_iff_getElem.1 listed
    rw [List.length_take] at inside
    have silent := others place (by omega)
    simpa [isRequest] using silent
  · have whole : lines = front lines ++ bodyLines lines := List.takeWhile_append_dropWhile.symm
    rw [← List.getElem?_eq_getElem bound]
    conv_lhs => rw [whole, List.getElem?_append_left bound]

theorem exists_hasZones {index : Nat} (h : requestIndex? lines = some index) :
    ∃ request headers body, HasZones lines index request headers body := by
  obtain ⟨before, line, request, -, -, -, found, read⟩ := exists_cut h
  exact ⟨request, _, _, h, by rw [found, Option.bind_some, read], rfl, rfl⟩

section

/-! Lines that are cut at the first request line among them. -/

variable {before after : List Text} {line : Text} {request : RequestLine}
  (silent : ∀ other ∈ before, request? other = none) (read : request? line = some request)

include silent read

theorem findSome?_request?_cut : (before ++ line :: after).findSome? request? = some request := by
  rw [List.findSome?_append, List.findSome?_eq_none_iff.2 silent, Option.none_or,
    List.findSome?_cons_of_isSome (by simp [read]), read]

theorem headerPairs_cut :
    headerPairs false (before ++ line :: after) = after.filterMap header? := by
  have isReq : isRequest line = true := by simp [isRequest, read]
  have others : ∀ other ∈ before, isRequest other = false := fun other listed => by
    simp [isRequest, silent other listed]
  have dropped : (before ++ line :: after).dropWhile (fun line => !isRequest line) =
      line :: after := by
    rw [List.dropWhile_append_of_pos (by simpa using others),
      List.dropWhile_cons_of_neg (by simp [isReq])]
  rw [headerPairs, if_neg (by simp), dropped, List.filterMap_cons_none (by simp [header?, isReq])]

theorem drop_requestNumbers_cut (first : Nat) :
    (requestNumbers first (before ++ line :: after)).drop 1 =
      requestNumbers (first + before.length + 1) after := by
  have isReq : isRequest line = true := by simp [isRequest, read]
  rw [requestNumbers_append, requestNumbers_eq_nil silent, List.nil_append, requestNumbers_cons,
    isReq]
  rfl

end

theorem HasZones.ofBlock_eq {block : Block} {index : Nat} {request : RequestLine}
    {headers : List (Text × Text)} {body : List Text}
    (h : HasZones block.lines index request headers body) : ofBlock block =
      { request := some request
        headers := HeaderList.ofList headers
        body
        extra := requestNumbers (block.firstLine + index + 1) (between block.lines index) } := by
  obtain ⟨first, read, rfl, rfl⟩ := h
  obtain ⟨before, line, request', cut, rfl, silent, found, read'⟩ := exists_cut first
  rw [found, Option.bind_some, read'] at read
  obtain rfl := Option.some.inj read
  rw [BlockReading.ofBlock_eq, cut, findSome?_request?_cut silent read',
    headerPairs_cut silent read', drop_requestNumbers_cut silent read', bodyLines_eq_drop]

end BlockReading

namespace Block

open BlockReading

variable {block : Block} {table : VariableTable}

section

variable {index : Nat} {request : RequestLine} {headers : List (Text × Text)} {body : List Text}

theorem target?_of_hasZones (zones : HasZones block.lines index request headers body) :
    block.target? = if request.target = [] then none else some request := by
  rw [target?, zones.ofBlock_eq]
  cases target : request.target <;> simp [target]

theorem target?_of_no_request (h : requestIndex? block.lines = none) : block.target? = none := by
  rw [target?, BlockReading.ofBlock_eq, requestIndex?_eq_none_iff.1 h, Option.filter_none]

theorem caseOf_of_hasZones (zones : HasZones block.lines index request headers body) :
    block.caseOf table request =
      { block.caseOf table request with
        headers := HeaderList.ofList headers
        body := if body = [] then none else some (Text.join ['\n'] body) } := by
  rw [caseOf, zones.ofBlock_eq]
  cases body <;> rfl

theorem caseOf_of_sameZones {other : Block} {place : Nat}
    (zones : HasZones block.lines index request headers body)
    (zones' : HasZones other.lines place request headers body)
    (heading : other.heading = block.heading) :
    other.caseOf table request = block.caseOf table request := by
  rw [caseOf, caseOf, zones.ofBlock_eq, zones'.ofBlock_eq, heading]

end

theorem target?_eq_some_iff {request : RequestLine} : block.target? = some request ↔
    ∃ index headers body, HasZones block.lines index request headers body ∧
      request.target ≠ [] := by
  constructor
  · intro given
    cases h : requestIndex? block.lines with
    | none =>
      rw [target?_of_no_request h] at given
      cases given
    | some index =>
      obtain ⟨first, headers, body, zones⟩ := exists_hasZones h
      rw [target?_of_hasZones zones] at given
      split_ifs at given with empty
      obtain rfl := Option.some.inj given
      exact ⟨index, headers, body, zones, empty⟩
  · rintro ⟨index, headers, body, zones, shown⟩
    rw [target?_of_hasZones zones, if_neg shown]

theorem target?_eq_none_iff : block.target? = none ↔ requestIndex? block.lines = none ∨
    ∃ index request headers body, HasZones block.lines index request headers body ∧
      request.target = [] := by
  constructor
  · intro given
    cases h : requestIndex? block.lines with
    | none => exact .inl rfl
    | some index =>
      obtain ⟨request, headers, body, zones⟩ := exists_hasZones h
      rw [target?_of_hasZones zones] at given
      split_ifs at given with empty
      exact .inr ⟨index, request, headers, body, zones, empty⟩
  · rintro (absent | ⟨index, request, headers, body, zones, empty⟩)
    · exact target?_of_no_request absent
    · rw [target?_of_hasZones zones, if_pos empty]

theorem testCase?_eq_some_iff {test : TestCase} : (block.testCase? table).1 = some test ↔
    ∃ index request headers body, HasZones block.lines index request headers body ∧
      request.target ≠ [] ∧ test = block.caseOf table request := by
  rw [testCase?_fst, Option.map_eq_some_iff]
  constructor
  · rintro ⟨request, given, rfl⟩
    obtain ⟨index, headers, body, zones, shown⟩ := target?_eq_some_iff.1 given
    exact ⟨index, request, headers, body, zones, shown, rfl⟩
  · rintro ⟨index, request, headers, body, zones, shown, rfl⟩
    exact ⟨request, target?_eq_some_iff.2 ⟨index, headers, body, zones, shown⟩, rfl⟩

theorem testCase?_eq_none_iff : (block.testCase? table).1 = none ↔
    requestIndex? block.lines = none ∨
      ∃ index request headers body, HasZones block.lines index request headers body ∧
        request.target = [] := by
  rw [testCase?_fst, Option.map_eq_none_iff, target?_eq_none_iff]

/-- A block is read, unless it stands so far behind that its lines have no numbers. -/
theorem read_cases (block : Block) (table : VariableTable) :
    block.read table = .ok (block.testCase? table) ∨
      block.read table = .error .linesOverflow ∧
        maxLine < block.firstLine + block.lines.length := by
  rw [read]
  split
  next beyond =>
    refine .inr ⟨rfl, ?_⟩
    rcases beyond with start | late
    · omega
    · rw [BlockReading.ofBlock_eq, List.any_eq_true] at late
      obtain ⟨number, listed, above⟩ := late
      have below := lt_of_mem_requestNumbers (List.mem_of_mem_drop listed)
      have shorter : (front block.lines).length ≤ block.lines.length :=
        (List.takeWhile_prefix _).length_le
      rw [decide_eq_true_iff] at above
      omega
  next => exact .inl rfl

/-- A block is read in three zones. It gives no case exactly if no line before its body is a request
line, or the first one has no target. Otherwise method and target are those of that line, the
headers are those of the lines between it and the body, the body is everything from its first line
on, and each later request line before it gives one warning. A block with the same heading and the
same zones gives the same case, whatever else it holds. -/
theorem testCase?_zones (block : Block) (table : VariableTable) :
    ((block.testCase? table).1 = none ↔ requestIndex? block.lines = none ∨
      ∃ index request headers body, HasZones block.lines index request headers body ∧
        request.target = []) ∧
    (∀ test, (block.testCase? table).1 = some test →
      ∃ index request headers body, HasZones block.lines index request headers body ∧
        test.method = request.method ∧ test.path = (table.interpolate request.target).text ∧
        test.headers = HeaderList.ofList headers ∧
        test.body = (if bodyIndex block.lines = block.lines.length then none
          else some (Text.join ['\n'] body)) ∧
        (block.testCase? table).2 =
          (requestNumbers (block.firstLine + index + 1) (between block.lines index)).map
              Warning.extraRequestLine ++
            (table.interpolate request.target).unresolved.map
              (Warning.unresolvedVariable · test.name) ∧
        ∀ (other : Block) (place : Nat), other.heading = block.heading →
          HasZones other.lines place request headers body →
            (other.testCase? table).1 = some test) ∧
    (block.read table = .ok (block.testCase? table) ∨
      block.read table = .error .linesOverflow ∧
        maxLine < block.firstLine + block.lines.length) := by
  refine ⟨testCase?_eq_none_iff, fun test given => ?_, read_cases block table⟩
  obtain ⟨index, request, headers, body, zones, shown, rfl⟩ := testCase?_eq_some_iff.1 given
  have target : block.target? = some request := by rw [target?_of_hasZones zones, if_neg shown]
  have ends : bodyIndex block.lines = block.lines.length ↔ body = [] := by
    rw [bodyIndex_eq_length_iff, bodyLines_eq_drop, zones.body_eq]
  refine ⟨index, request, headers, body, zones, rfl, rfl, ?_, ?_, ?_, ?_⟩
  · rw [caseOf_of_hasZones zones]
  · rw [caseOf_of_hasZones zones]
    simp only [ends]
  · rw [testCase?_of_some target, lateWarnings, zones.ofBlock_eq]
  · intro other place heading zones'
    rw [← caseOf_of_sameZones zones zones' heading]
    exact testCase?_eq_some_iff.2 ⟨place, request, headers, body, zones', shown, rfl⟩

end Block
end HttpContract
