import HttpContract.Proofs.Definitions.Zones
import HttpContract.Proofs.Unicode.CharClass
import HttpContract.Proofs.Variables.Idempotence

/-! Request lines that name no target. A version token is dropped behind blanks, and the blanks
behind the verb are no part of the target; so a version token that alone follows the verb is read as
the target, and no request line is without one. -/
namespace HttpContract

namespace VariableTable

@[simp] theorem interpolate_of_clear (table : VariableTable) {text : Text} (clear : '\x7b' ∉ text) :
    table.interpolate text = { text, unresolved := [] } := by
  have nothing : ∀ start name, ¬ TemplatePart.Occurs text start name := fun start name h =>
    TemplatePart.not_hasReference_of_clear clear ⟨start, name, h⟩
  have same : (table.interpolate text).text = text :=
    interpolate_eq_self fun start name h => absurd h (nothing start name)
  have resolved : (table.interpolate text).unresolved = [] := by
    rw [List.eq_nil_iff_forall_not_mem]
    intro name missing
    obtain ⟨start, h⟩ := (mem_unresolved_iff.1 missing).2
    exact nothing start name h
  exact congrArg₂ Interpolated.mk same resolved

end VariableTable

namespace RequestLine

theorem IsVersion.mem {word : Text} (h : IsVersion word) {c : Char} (hc : c ∈ word) :
    c ∈ ("HTTP/" : Text) ∨ c = '.' ∨ Unicode.isDecimalDigit c = true := by
  obtain ⟨major, -, digits, rfl | ⟨minor, -, digits', rfl⟩⟩ := h
  · rcases List.mem_append.1 hc with name | number
    · exact .inl name
    · exact .inr (.inr (digits c number))
  · rcases List.mem_append.1 hc with name | number
    · exact .inl name
    · rcases List.mem_append.1 number with number | behind
      · exact .inr (.inr (digits c number))
      · exact .inr ((List.mem_cons.1 behind).imp_right (digits' c))

theorem IsVersion.clear {word : Text} (h : IsVersion word) :
    ∀ c ∈ word, Unicode.isBlank c = false := by
  have name : ∀ c ∈ ("HTTP/" : Text), Unicode.isBlank c = false := Text.clear_of_all (by decide)
  intro c hc
  rcases h.mem hc with letter | rfl | digit
  · exact name c letter
  · decide
  · rw [Bool.eq_false_iff]
    intro blank
    rw [Unicode.isDecimalDigit_eq_false blank] at digit
    cases digit

theorem IsVersion.no_brace {word : Text} (h : IsVersion word) : '\x7b' ∉ word := by
  intro hc
  rcases h.mem hc with letter | point | digit
  · exact absurd letter (by decide)
  · cases point
  · exact absurd digit (by decide)

theorem IsVersion.isPhrase {word : Text} (h : IsVersion word) : Text.IsPhrase word where
  ne_nil := by
    obtain ⟨major, -, -, rfl | ⟨minor, -, -, rfl⟩⟩ := h
    · exact List.cons_ne_nil _ _
    · exact List.cons_ne_nil _ _
  trimmed := Text.trim_eq_self_iff.2 ⟨fun c first => h.clear c (List.mem_of_mem_head? first),
    fun c last => h.clear c (List.mem_of_getLast? last)⟩
  one_line := fun newline => absurd (h.clear _ newline) (by decide)

/-- Up to the blanks around it the line is a verb, blanks, and nothing but a version token. -/
def IsBare (line : Text) (method : Method) (version : Text) : Prop :=
  ∃ gap, Text.trim line = method.text ++ (gap ++ version) ∧ gap ≠ [] ∧
    (∀ c ∈ gap, Unicode.isBlank c = true) ∧ IsVersion version

theorem IsBare.isVersion {line version : Text} {method : Method} (h : IsBare line method version) :
    IsVersion version := by
  obtain ⟨gap, -, -, -, token⟩ := h
  exact token

/-- The version token stays, since the blanks before it are those behind the verb. -/
theorem ofText?_of_isBare {line version : Text} {method : Method}
    (h : IsBare line method version) :
    ofText? (Text.trim line) = some { method, target := version } := by
  obtain ⟨gap, cut, some_gap, blank, token⟩ := h
  have phrase := token.isPhrase
  have kept : version = dropVersion (Text.trim version) := by
    rw [phrase.trimmed, dropVersion_eq_self (not_endsInVersion_of_clear token.clear)]
  exact ofText?_eq_some_iff.2 ⟨gap, version, cut, some_gap, blank, phrase.ne_nil,
    phrase.head_clear, phrase.one_line, kept⟩

end RequestLine

namespace Block

open BlockReading RequestLine

variable {block : Block}

theorem target_ne_nil {line : Text} {request : RequestLine} (h : request? line = some request) :
    request.target ≠ [] := (RequestLine.isPhrase_target h).ne_nil

theorem testCase?_of_no_request (none_read : requestIndex? block.lines = none)
    (table : VariableTable) : block.testCase? table = (none, [.unusableBlock block.line]) := by
  have silent := requestIndex?_eq_none_iff.1 none_read
  have late : block.lateWarnings = [] := by
    rw [lateWarnings, BlockReading.ofBlock_eq,
      requestNumbers_eq_nil (List.findSome?_eq_none_iff.1 silent)]
    rfl
  rw [testCase?_of_none (target?_of_no_request none_read), late, List.nil_append]

/-- The first request line before the body gives the case. -/
theorem testCase?_of_requestIndex {index : Nat} (first : requestIndex? block.lines = some index)
    (table : VariableTable) : ∃ line request, block.lines[index]? = some line ∧
      line ∈ front block.lines ∧ request? line = some request ∧
      block.testCase? table = (some (block.caseOf table request),
        (requestNumbers (block.firstLine + index + 1) (between block.lines index)).map
            Warning.extraRequestLine ++
          (table.interpolate request.target).unresolved.map fun missing =>
            .unresolvedVariable missing (block.caseOf table request).name) := by
  obtain ⟨before, line, request, cut, -, -, found, read⟩ := exists_cut first
  have zones : HasZones block.lines index request
      ((between block.lines index).filterMap header?)
      (block.lines.drop (bodyIndex block.lines)) :=
    ⟨first, by rw [found, Option.bind_some, read], rfl, rfl⟩
  have target : block.target? = some request := by
    rw [target?_of_hasZones zones, if_neg (target_ne_nil read)]
  refine ⟨line, request, found, by simp [cut], read, ?_⟩
  rw [testCase?_of_some target, lateWarnings, zones.ofBlock_eq]

/-- No request line is without a target: a version token that alone follows the verb is one. So a
block whose request lines name nothing else still gives a case, that of the first of them, with the
token as its path. It gives none only if it has no request line before its body at all, and only
then it is told to be unusable. -/
theorem testCase?_versionTarget (bare : ∀ line ∈ front block.lines, isRequest line = true →
      ∃ method version, IsBare line method version) (table : VariableTable) :
    (∀ line request, request? line = some request → request.target ≠ []) ∧
    (requestIndex? block.lines = none →
      block.testCase? table = (none, [.unusableBlock block.line])) ∧
    ∀ index, requestIndex? block.lines = some index → ∃ line method version test,
      block.lines[index]? = some line ∧ IsBare line method version ∧
      request? line = some { method, target := version } ∧
      block.testCase? table = (some test,
        (requestNumbers (block.firstLine + index + 1) (between block.lines index)).map
          Warning.extraRequestLine) ∧
      test.method = method ∧ test.path = version := by
  refine ⟨fun _ _ => target_ne_nil, fun none_read => testCase?_of_no_request none_read table,
    fun index first => ?_⟩
  obtain ⟨line, request, found, inside, read, given⟩ := testCase?_of_requestIndex first table
  obtain ⟨method, version, own⟩ := bare line inside (by simp [isRequest, read])
  have told : request? line = some { method, target := version } := ofText?_of_isBare own
  obtain rfl : request = { method, target := version } := Option.some.inj (read.symm.trans told)
  have kept := table.interpolate_of_clear own.isVersion.no_brace
  have path : (block.caseOf table { method, target := version }).path = version := by
    rw [caseOf, kept]
  simp only [kept, List.map_nil, List.append_nil] at given
  exact ⟨line, method, version, _, found, own, told, given, rfl, path⟩

/-- Blanks around the request line, and another one behind it that comes too late. -/
theorem testCase?_versionTarget_twice :
    let block : Block :=
      { heading := none
        lines := ["notes", " POST \t HTTP/2 ", "X-A: b", "GET HTTP/1.1", "\x7b", "GET /a"]
        line := 7 }
    (∀ line ∈ front block.lines, isRequest line = true →
        ∃ method version, IsBare line method version) ∧
      requestIndex? block.lines = some 1 ∧ ∃ test : TestCase,
        test.method = .post ∧ test.path = "HTTP/2" ∧
          block.testCase? {} = (some test, [.extraRequestLine 10]) := by
  intro block
  have requests : (front block.lines).filter isRequest = [" POST \t HTTP/2 ", "GET HTTP/1.1"] := by
    decide +kernel
  have bare : ∀ line ∈ front block.lines, isRequest line = true →
      ∃ method version, IsBare line method version := by
    intro line listed own
    have among := requests ▸ List.mem_filter.2 ⟨listed, own⟩
    rcases List.mem_cons.1 among with rfl | among
    · exact ⟨.post, "HTTP/2", " \t ", by decide, by decide, List.all_eq_true.1 rfl,
        isVersion_iff.1 (by decide)⟩
    · obtain rfl := List.mem_singleton.1 among
      exact ⟨.get, "HTTP/1.1", " ", by decide, by decide, List.all_eq_true.1 rfl,
        isVersion_iff.1 (by decide)⟩
  have first : requestIndex? block.lines = some 1 := by decide +kernel
  have read : request? " POST \t HTTP/2 " = some { method := .post, target := "HTTP/2" } := by
    decide +kernel
  obtain ⟨line, method, version, test, found, -, told, given, verb, path⟩ :=
    (testCase?_versionTarget bare {}).2.2 1 first
  obtain rfl : " POST \t HTTP/2 " = line := Option.some.inj found
  obtain ⟨rfl, rfl⟩ := RequestLine.mk.inj (Option.some.inj (read.symm.trans told))
  exact ⟨bare, first, test, verb, path, given⟩

/-- One line, which names no target. -/
theorem testCase?_lone_version :
    let block : Block := { heading := some "### A", lines := ["GET HTTP/1.1"], line := 1 }
    (∀ line ∈ front block.lines, isRequest line = true →
        ∃ method version, IsBare line method version) ∧
      block.testCase? {} ≠ (none, [.unusableBlock 1]) ∧
      (block.testCase? {}).1.map TestCase.path = some ("HTTP/1.1" : Text) := by
  intro block
  refine ⟨fun line listed _ => ?_, by decide +kernel, by decide +kernel⟩
  have only : front block.lines = ["GET HTTP/1.1"] := by decide
  obtain rfl := List.mem_singleton.1 (only ▸ listed)
  exact ⟨.get, "HTTP/1.1", " ", by decide, by decide, List.all_eq_true.1 rfl,
    isVersion_iff.1 (by decide)⟩

end Block
end HttpContract
