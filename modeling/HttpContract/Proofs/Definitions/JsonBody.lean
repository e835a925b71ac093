import HttpContract.Definitions.Document
import HttpContract.Proofs.Definitions.Printing
import HttpContract.Proofs.Definitions.Warning
import HttpContract.Proofs.Json.Relocation
import HttpContract.Proofs.Variables.Declaration

/-! A JSON object behind a request line comes back as the body, however it is laid out over lines:
what is lost of it are blank lines and carriage returns. -/
namespace HttpContract

/-- A request definition with a JSON text behind its request line, and the text that may follow on a
new line. -/
structure JsonRequest where
  name : Text
  method : Method
  target : Text
  json : Text
  next? : Option Text

namespace JsonRequest

open Text

/-- `### name` -/
def headingLine (request : JsonRequest) : Text := Block.mark ++ ' ' :: request.name

/-- `VERB target` -/
def requestLine (request : JsonRequest) : Text := request.method.text ++ ' ' :: request.target

def behind (request : JsonRequest) : Text :=
  match request.next? with
  | none => []
  | some next => '\n' :: next

def text (request : JsonRequest) : Text :=
  request.headingLine ++ '\n' :: (request.requestLine ++ '\n' :: (request.json ++ request.behind))

/-- A definition with one line for the heading and one for the request, whose body is an object. If
something follows, then under a heading of its own. -/
structure IsWritten (heads : List Text) (request : JsonRequest) (members : List (Text × Json)) :
    Prop where
  one_heading : '\n' ∉ request.name
  unprotected : Block.isProtected heads (trim request.headingLine) = false
  one_target : '\n' ∉ request.target
  target_shown : trim request.target ≠ []
  object : Json.parse request.json = .ok (.object members)
  heading : ∀ next ∈ request.next?, ∀ line ∈ (separatedLines next).head?,
    Block.lineKind heads line = .boundary

def bodyLines (request : JsonRequest) : List Text :=
  (separatedLines request.json).filter Json.Laid.isShown

def block (request : JsonRequest) : Block where
  heading := some (dropReturn request.headingLine)
  lines := dropReturn request.requestLine :: request.bodyLines
  line := 1

def linesBehind (request : JsonRequest) : List Text := request.next?.elim [] separatedLines

def lineCount (request : JsonRequest) : Nat := 2 + (separatedLines request.json).length

def blocksBehind (heads : List Text) (request : JsonRequest) : List Block :=
  Block.ofLines heads none (request.linesBehind.zipIdx (request.lineCount + 1))

def scanBehind (request : JsonRequest) : VariableScan :=
  let scan := VariableScan.ofText (request.next?.getD [])
  { scan with malformed := scan.malformed.map (request.lineCount + ·) }

section

variable {heads : List Text} {request : JsonRequest} {members : List (Text × Json)}
  (h : request.IsWritten heads members)

include h

@[simp] theorem lineKind_headingLine :
    Block.lineKind heads (dropReturn request.headingLine) = .boundary := by
  rw [Block.lineKind_dropReturn, Block.lineKind_eq_boundary_iff]
  refine ⟨?_, h.unprotected⟩
  have marked : trim request.headingLine = Block.mark ++ trimEnd (' ' :: request.name) := by
    change trim ('#' :: '#' :: '#' :: ' ' :: request.name) = _
    rw [trim_cons (by decide), trimEnd_cons (by decide), trimEnd_cons (by decide)]
    rfl
  rw [marked]
  exact List.prefix_append _ _

theorem trim_requestLine : trim request.requestLine = request.method.text ++
    (' ' :: request.target.takeWhile Unicode.isBlank ++ trim request.target) := by
  have cut : request.requestLine = (request.method.text ++ [' ']) ++ request.target := by
    simp [requestLine]
  rw [cut, trim_append_shown (by simp) ?_ h.target_shown]
  · simp
  · cases request.method <;> decide

@[simp] theorem request?_requestLine : BlockReading.request? (dropReturn request.requestLine) =
    some { method := request.method, target := RequestLine.dropVersion (trim request.target) } := by
  have clear : ∀ c ∈ (trim request.target).head?, Unicode.isBlank c = false :=
    (trim_eq_self_iff.1 (trim_trim _)).1
  rw [BlockReading.request?, trim_dropReturn, trim_requestLine h]
  refine RequestLine.ofText?_eq_some_iff.2 ⟨_, trim request.target, rfl, List.cons_ne_nil _ _, ?_,
    h.target_shown, clear, fun newline => h.one_target (trim_subset _ newline), ?_⟩
  · refine List.forall_mem_cons.2 ⟨by decide, fun c hc => List.mem_takeWhile_imp hc⟩
  · rw [trim_trim]

@[simp] theorem lineKind_requestLine :
    Block.lineKind heads (dropReturn request.requestLine) = .content := by
  have first : (trim request.requestLine).head? = request.method.text.head? := by
    rw [trim_requestLine h, List.head?_append_of_ne_nil _ request.method.text_ne_nil]
  rw [Block.lineKind_dropReturn, Block.lineKind_eq_content_iff]
  refine ⟨?_, startsWith_eq_false ?_, fun hm => ?_⟩
  · simp [trim_requestLine h]
  · rw [first]
    cases request.method <;> decide
  · have marked := Block.head?_of_mark hm
    rw [first] at marked
    revert marked
    cases request.method <;> decide

theorem line_start : ∀ piece ∈ splitAt '\n' request.json,
    ∀ c ∈ (trim piece).head?, c ≠ '@' ∧ c ≠ '#' := by
  obtain ⟨lexemes, laid, -⟩ := Json.exists_laid h.object
  exact laid.line_start

@[simp]
theorem parse_bodyLines : Json.parse (join ['\n'] request.bodyLines) = .ok (.object members) := by
  obtain ⟨lexemes, laid, same⟩ := Json.exists_laid h.object
  exact same _ laid.join_shown

theorem exists_bodyLines : ∃ line lines, request.bodyLines = line :: lines ∧
    BlockReading.opensBody line = true := by
  obtain ⟨behind, start⟩ := Json.skip_of_object (parse_bodyLines h)
  cases cut : request.bodyLines with
  | nil =>
    rw [cut] at start
    cases start
  | cons line lines =>
    refine ⟨line, lines, rfl, ?_⟩
    have shown : Json.Laid.isShown line = true := by
      have listed : line ∈ request.bodyLines := by simp [cut]
      exact (List.mem_filter.1 listed).2
    rw [cut, Json.Laid.join_cons] at start
    obtain ⟨rest, first⟩ := List.head?_eq_some_iff.1
      (Json.Laid.head?_trim_of_skip shown (by decide) start)
    rw [BlockReading.opensBody, first, startsWith_cons, beq_self_eq_true]

theorem splitAt_text : splitAt '\n' request.text = request.headingLine :: request.requestLine ::
    (splitAt '\n' request.json ++ request.next?.elim [] (splitAt '\n')) := by
  have heading : '\n' ∉ request.headingLine := by
    rw [headingLine, List.mem_append, List.mem_cons, not_or, not_or]
    exact ⟨by decide, by decide, h.one_heading⟩
  have verb : '\n' ∉ request.requestLine := by
    rw [requestLine, List.mem_append, List.mem_cons, not_or, not_or]
    exact ⟨by cases request.method <;> decide, by decide, h.one_target⟩
  rw [text, splitAt_append_cons, splitAt_append_cons, splitAt_eq_singleton heading,
    splitAt_eq_singleton verb, behind]
  cases request.next? with
  | none => simp
  | some next => simp

theorem separatedLines_text : separatedLines request.text =
    dropReturn request.headingLine :: dropReturn request.requestLine ::
      (separatedLines request.json ++ request.linesBehind) := by
  rw [separatedLines, splitAt_text h, linesBehind]
  cases request.next? <;> simp [separatedLines]

theorem lineKind_json : ∀ line ∈ separatedLines request.json, Block.lineKind heads line =
    if Json.Laid.isShown line then .content else .skip := by
  intro line hl
  cases shown : Json.Laid.isShown line with
  | true =>
    obtain ⟨piece, listed, rfl⟩ := List.mem_map.1 hl
    have start := line_start h piece listed
    rw [← trim_dropReturn] at start
    refine Block.lineKind_eq_content_iff.2 ⟨by simpa [Json.Laid.isShown] using shown,
      startsWith_eq_false fun at_ => (start _ at_).1 rfl, fun hm => ?_⟩
    exact (start _ (Block.head?_of_mark hm)).2 rfl
  | false =>
    have blank : (trim line).isEmpty = true := by simpa [Json.Laid.isShown] using shown
    simp [Block.lineKind, blank]

@[simp] theorem ofText_text : Block.ofText heads request.text =
    request.block :: request.blocksBehind heads := by
  have kinds := lineKind_json h
  have unbounded : ∀ line ∈ separatedLines request.json, Block.lineKind heads line ≠ .boundary := by
    intro line hl
    rw [kinds line hl]
    split <;> decide
  have content : (separatedLines request.json).filter
      (fun line => Block.lineKind heads line = .content) = request.bodyLines := by
    refine List.filter_congr fun line hl => ?_
    rw [kinds line hl]
    cases Json.Laid.isShown line <;> rfl
  have boundary : ∀ line ∈ request.linesBehind.head?, Block.lineKind heads line = .boundary := by
    rw [linesBehind]
    cases next : request.next? with
    | none => exact fun _ absurd => nomatch absurd
    | some text => exact h.heading text next
  rw [Block.ofText, separatedLines_text h, numbered, List.zipIdx_cons,
    Block.ofLines_boundary (lineKind_headingLine h), List.zipIdx_cons,
    Block.ofLines_content (lineKind_requestLine h)]
  simp only [Block.addContent, List.nil_append]
  rw [Block.ofLines_filter unbounded, content, Block.ofLines_of_boundary boundary]
  have number : 1 + 1 + 1 + (separatedLines request.json).length = request.lineCount + 1 := by
    rw [lineCount]
    omega
  rw [number]
  rfl

@[simp] theorem scan_text : VariableScan.ofText request.text = request.scanBehind := by
  have headingKind : Block.lineKind heads (dropReturn request.headingLine) ≠ .skip := by
    simp [lineKind_headingLine h]
  have verbKind : Block.lineKind heads (dropReturn request.requestLine) ≠ .skip := by
    simp [lineKind_requestLine h]
  have heading := Printing.isDeclarationLine_eq_false headingKind
  have verb := Printing.isDeclarationLine_eq_false verbKind
  have json : ∀ line, (∃ piece ∈ splitAt '\n' request.json, trim line = trim piece) →
      VariableScan.isDeclarationLine line = false := by
    rintro line ⟨piece, listed, same⟩
    rw [VariableScan.isDeclarationLine, ← startsWith_trim, same]
    exact startsWith_eq_false fun at_ => (line_start h piece listed _ at_).1 rfl
  have ended : terminatedLines request.text = dropReturn request.headingLine ::
      dropReturn request.requestLine ::
        endLines (splitAt '\n' request.json ++ request.next?.elim [] (splitAt '\n')) := by
    obtain ⟨piece, pieces, cut⟩ := List.exists_cons_of_ne_nil (splitAt_ne_nil '\n' request.json)
    rw [terminatedLines, splitAt_text h, cut]
    rfl
  -- Without anything behind it, the last line of the JSON text has no newline to end it.
  cases next : request.next? with
  | none =>
    rw [next] at ended
    have cut : terminatedLines request.text = (dropReturn request.headingLine ::
        dropReturn request.requestLine :: terminatedLines request.json) ++ terminatedLines [] := by
      simpa [terminatedLines, splitAt, endLines] using ended
    rw [VariableScan.ofText_of_append cut, scanBehind, next]
    · rfl
    · exact List.forall_mem_cons.2 ⟨heading, List.forall_mem_cons.2
        ⟨verb, fun line hl => json line (exists_piece_of_mem_endLines hl)⟩⟩
  | some text =>
    rw [next] at ended
    have cut : terminatedLines request.text = (dropReturn request.headingLine ::
        dropReturn request.requestLine :: separatedLines request.json) ++ terminatedLines text := by
      rw [ended, Option.elim_some, endLines_append _ (splitAt_ne_nil _ _)]
      rfl
    rw [VariableScan.ofText_of_append cut, scanBehind, next, lineCount, Nat.add_comm]
    · rfl
    · refine List.forall_mem_cons.2 ⟨heading, List.forall_mem_cons.2 ⟨verb, fun line hl => ?_⟩⟩
      obtain ⟨piece, listed, rfl⟩ := List.mem_map.1 hl
      exact json _ ⟨piece, listed, trim_dropReturn piece⟩

@[simp] theorem ofBlock_block : BlockReading.ofBlock request.block =
    { request := some
        { method := request.method, target := RequestLine.dropVersion (trim request.target) }
      body := request.bodyLines } := by
  have read := request?_requestLine h
  have isRequest : BlockReading.isRequest (dropReturn request.requestLine) = true := by
    simp [BlockReading.isRequest, read]
  obtain ⟨line, lines, cut, opens⟩ := exists_bodyLines h
  have closed := BlockReading.opensBody_eq_false read
  have front : BlockReading.front request.block.lines = [dropReturn request.requestLine] := by
    simp [BlockReading.front, block, closed, cut, opens]
  have body : BlockReading.bodyLines request.block.lines = request.bodyLines := by
    simp [BlockReading.bodyLines, block, closed, cut, opens]
  rw [BlockReading.ofBlock_eq, front, body]
  simp [read, isRequest, BlockReading.headerPairs, BlockReading.header?, HeaderList.ofList,
    HeaderList.insertAll, HeaderList.empty]

@[simp] theorem target?_block : request.block.target? = some
    { method := request.method, target := RequestLine.dropVersion (trim request.target) } := by
  have clear : ∀ c ∈ (trim request.target).head?, Unicode.isBlank c = false :=
    (trim_eq_self_iff.1 (trim_trim _)).1
  simp [Block.target?, ofBlock_block h, RequestLine.dropVersion_ne_nil h.target_shown clear]

end

/-- A JSON object behind a request line is read back with its value: the definition gives the first
test case, without headers, and every line of the text that is not blank is a line of its body. The
blocks and the declared variables are otherwise those of what follows. -/
theorem parse_body_ofText {heads : List Text} {request : JsonRequest}
    {members : List (Text × Json)} (h : request.IsWritten heads members) :
    Block.ofText heads request.text = request.block :: request.blocksBehind heads ∧
      BlockReading.ofBlock request.block =
        { request := some
            { method := request.method, target := RequestLine.dropVersion (trim request.target) }
          body := request.bodyLines } ∧
      VariableScan.ofText request.text = request.scanBehind ∧
      ∃ test body,
        (Document.ofText heads request.text).cases = test ::
          (request.blocksBehind heads).filterMap
            (fun block => (block.testCase? request.scanBehind.table).1) ∧
        test.method = request.method ∧ test.headers = {} ∧ test.body = some body ∧
        Json.parse body = .ok (.object members) := by
  refine ⟨ofText_text h, ofBlock_block h, scan_text h, request.block.caseOf request.scanBehind.table
    { method := request.method, target := RequestLine.dropVersion (trim request.target) },
    join ['\n'] request.bodyLines, ?_, rfl, ?_, ?_, parse_bodyLines h⟩
  · have first := Block.testCase?_of_some (target?_block h) request.scanBehind.table
    rw [Document.ofText, scan_text h, ofText_text h, List.map_cons, first]
    simp [List.filterMap_map]
  · rw [Block.caseOf, ofBlock_block h]
  · obtain ⟨line, lines, cut, -⟩ := exists_bodyLines h
    simp [Block.caseOf, ofBlock_block h, cut]

/-- A definition whose body has blank lines, both kinds of line ends, and text that looks like other
lines. -/
def spaced : JsonRequest where
  name := "create"
  method := .post
  target := "/users HTTP/1.1"
  json := "\x7b\r\n\r\n  \"tags\":\n  [\"@id = 1\",\r\n\r\n true, \"### b: c\"]\r\n\x7d\r"
  next? := some "### list\nGET /users"

def spacedMembers : List (Text × Json) :=
  [("tags", .array [.string "@id = 1", .bool true, .string "### b: c"])]

theorem parse_body_ofText_spaced :
    spaced.IsWritten Block.defaultProtected spacedMembers ∧ ∃ test others body,
      (Document.ofText Block.defaultProtected spaced.text).cases = test :: others ∧
      others.length = 1 ∧ test.headers = {} ∧ test.body = some body ∧
      Json.parse body = .ok (.object spacedMembers) := by
  have written : spaced.IsWritten Block.defaultProtected spacedMembers := {
    one_heading := by decide
    unprotected := by decide
    one_target := by decide
    target_shown := by decide
    object := toOption_eq_some_iff.1 (by decide +kernel)
    heading := by
      rintro _ ⟨⟩ _ ⟨⟩
      decide }
  obtain ⟨-, -, -, test, body, cases, -, headers, found, value⟩ := parse_body_ofText written
  exact ⟨written, test, _, body, cases, by decide, headers, found, value⟩

end JsonRequest
end HttpContract
