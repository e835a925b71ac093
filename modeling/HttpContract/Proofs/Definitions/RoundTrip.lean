import HttpContract.Proofs.Definitions.Printing
import HttpContract.Proofs.Definitions.Warning
import HttpContract.Proofs.Headers.List
import HttpContract.Proofs.Variables.Table

/-! Reading a printed document gives back what was printed: every declaration, and one test case for
each request definition, in order. -/
namespace HttpContract
namespace Printing

open Text

structure Definition where
  heading : Text
  method : Method
  target : Text
  headers : List (Text × Text)
  body : List Text

structure IsBodyLine (line : Text) : Prop where
  whole : IsLine line
  ne_blank : trim line ≠ []
  no_at : (trim line).head? ≠ some '@'
  no_mark : ¬ Block.mark <+: trim line

namespace Definition

/-- `### heading` -/
def headingLine (definition : Definition) : Text := Block.mark ++ ' ' :: definition.heading

/-- `VERB target` -/
def requestLine (definition : Definition) : Text :=
  definition.method.text ++ ' ' :: definition.target

def contents (definition : Definition) : List Text :=
  definition.requestLine :: definition.headers.map headerLine ++ definition.body

def lines (definition : Definition) : List Text := definition.headingLine :: definition.contents

/-- A definition that can be printed for a reader with some protected headings. -/
structure Printable (heads : List Text) (definition : Definition) : Prop where
  heading : IsPhrase definition.heading
  unprotected : ∀ head ∈ heads, head <+: definition.heading → head = []
  target : IsPhrase definition.target
  no_version : ¬ RequestLine.EndsInVersion definition.target
  headers : ∀ header ∈ definition.headers, IsHeader header
  distinct : definition.headers.Pairwise fun a b => sameAscii a.1 b.1 = false
  opens : ∀ line ∈ definition.body.head?, startsWith ['\x7b'] (trim line) = true
  body : ∀ line ∈ definition.body, IsBodyLine line

def testCase (definition : Definition) (table : VariableTable) : TestCase where
  name := Naming.sanitize definition.heading
  method := definition.method
  path := (table.interpolate definition.target).text
  expected := Naming.inferStatus definition.heading
  schema := none
  testType := .statusCode
  headers := ⟨definition.headers⟩
  body := if definition.body = [] then none else some (join ['\n'] definition.body)

def warnings (definition : Definition) (table : VariableTable) : List Warning :=
  (table.interpolate definition.target).unresolved.map fun missing =>
    .unresolvedVariable missing (Naming.sanitize definition.heading)

section

variable {heads : List Text} {definition : Definition} (h : definition.Printable heads)

include h

@[simp] theorem trim_headingLine : trim definition.headingLine = definition.headingLine := by
  have cut : definition.headingLine = (Block.mark ++ [' ']) ++ definition.heading := by
    simp [headingLine]
  rw [cut]
  exact trim_append (by decide) (by decide) h.heading.ne_nil h.heading.trimmed

@[simp] theorem lineKind_headingLine : Block.lineKind heads definition.headingLine = .boundary := by
  have free : Block.isProtected heads definition.headingLine = false := by
    rw [Bool.eq_false_iff, ne_eq, Block.isProtected_iff]
    rintro ⟨rest, same, head, listed, more, start⟩
    obtain rfl : ' ' :: definition.heading = rest := List.append_cancel_left same
    rw [h.heading.trimStart_blank] at start
    exact more (h.unprotected head listed start)
  have start : startsWith Block.mark definition.headingLine = true :=
    startsWith_iff.2 (List.prefix_append _ _)
  have other : startsWith ['@'] definition.headingLine = false := rfl
  have more : definition.headingLine.isEmpty = false := rfl
  simp [Block.lineKind, trim_headingLine h, free, start, other, more]

@[simp] theorem isLine_headingLine : IsLine definition.headingLine :=
  isLine_append (by decide) h.heading.trimmed h.heading.one_line

@[simp] theorem ofHeading?_headingLine :
    Naming.ofHeading? definition.headingLine = some definition.heading := by
  have cut : strip? Block.mark definition.headingLine = some (' ' :: definition.heading) :=
    strip?_eq_some_iff.2 rfl
  simp [Naming.ofHeading?, trim_headingLine h, cut, trim_blank h.heading.trimmed, h.heading.ne_nil]

@[simp] theorem trim_requestLine : trim definition.requestLine = definition.requestLine := by
  have cut : definition.requestLine = (definition.method.text ++ [' ']) ++ definition.target := by
    simp [requestLine]
  rw [cut]
  refine trim_append (by simp) ?_ h.target.ne_nil h.target.trimmed
  cases definition.method <;> decide

@[simp] theorem request?_requestLine : BlockReading.request? definition.requestLine =
    some { method := definition.method, target := definition.target } := by
  rw [BlockReading.request?, trim_requestLine h]
  refine RequestLine.ofText?_eq_some_iff.2 ⟨[' '], definition.target, by simp [requestLine],
    by simp, List.all_eq_true.1 rfl, h.target.ne_nil, h.target.head_clear, h.target.one_line, ?_⟩
  rw [h.target.trimmed, RequestLine.dropVersion_eq_self h.no_version]

@[simp] theorem lineKind_requestLine : Block.lineKind heads definition.requestLine = .content := by
  rw [Block.lineKind_eq_content_iff, trim_requestLine h, requestLine]
  refine ⟨by simp, ?_, fun hm => ?_⟩
  · cases definition.method <;> rfl
  · have first := Block.head?_of_mark hm
    rw [List.head?_append_of_ne_nil _ definition.method.text_ne_nil] at first
    revert first
    cases definition.method <;> decide

@[simp] theorem isLine_requestLine : IsLine definition.requestLine := by
  refine isLine_append ?_ h.target.trimmed h.target.one_line
  cases definition.method <;> decide

theorem lineKind_contents : ∀ line ∈ definition.contents, Block.lineKind heads line = .content := by
  intro line hl
  rw [contents, List.cons_append, List.mem_cons, List.mem_append, List.mem_map] at hl
  obtain rfl | ⟨header, hh, rfl⟩ | hb := hl
  · exact lineKind_requestLine h
  · exact lineKind_headerLine (h.headers header hh) heads
  · have body := h.body line hb
    refine Block.lineKind_eq_content_iff.2 ⟨body.ne_blank, ?_, body.no_mark⟩
    exact startsWith_eq_false body.no_at

theorem lineKind_lines : ∀ line ∈ definition.lines, Block.lineKind heads line ≠ .skip := by
  intro line hl
  obtain rfl | hl := List.mem_cons.1 hl
  · rw [lineKind_headingLine h]
    decide
  · rw [lineKind_contents h line hl]
    decide

theorem isLine_lines : ∀ line ∈ definition.lines, IsLine line := by
  intro line hl
  rw [lines, contents, List.cons_append, List.mem_cons, List.mem_cons, List.mem_append,
    List.mem_map] at hl
  obtain rfl | rfl | ⟨header, hh, rfl⟩ | hb := hl
  · exact isLine_headingLine h
  · exact isLine_requestLine h
  · exact isLine_headerLine (h.headers header hh)
  · exact (h.body line hb).whole

theorem contents_cut : BlockReading.front definition.contents =
      definition.requestLine :: definition.headers.map headerLine ∧
    BlockReading.bodyLines definition.contents = definition.body := by
  have closed : ∀ line ∈ definition.requestLine :: definition.headers.map headerLine,
      (!BlockReading.opensBody line) = true := by
    intro line hl
    rw [List.mem_cons, List.mem_map] at hl
    obtain rfl | ⟨header, hh, rfl⟩ := hl
    · rw [BlockReading.opensBody_eq_false (request?_requestLine h), Bool.not_false]
    · rw [opensBody_headerLine (h.headers header hh), Bool.not_false]
  have opens : (definition.body.takeWhile fun line => !BlockReading.opensBody line) = [] ∧
      (definition.body.dropWhile fun line => !BlockReading.opensBody line) = definition.body := by
    cases hb : definition.body with
    | nil => simp
    | cons line rest =>
      have first : BlockReading.opensBody line = true := h.opens line (by simp [hb])
      simp [first]
  rw [BlockReading.front, BlockReading.bodyLines, contents, List.takeWhile_append_of_pos closed,
    List.dropWhile_append_of_pos closed, opens.1, opens.2, List.append_nil]
  exact ⟨rfl, rfl⟩

def block (definition : Definition) (number : Nat) : Block where
  heading := some definition.headingLine
  lines := definition.contents
  line := number

@[simp] theorem ofBlock_block (number : Nat) : BlockReading.ofBlock (definition.block number) =
    { request := some { method := definition.method, target := definition.target }
      headers := ⟨definition.headers⟩
      body := definition.body } := by
  have found := request?_requestLine h
  have isRequest : BlockReading.isRequest definition.requestLine = true := by
    simp [BlockReading.isRequest, found]
  have late : ∀ first, BlockReading.requestNumbers first (definition.headers.map headerLine) = [] :=
    BlockReading.requestNumbers_eq_nil fun line hl => by
      obtain ⟨header, hh, rfl⟩ := List.mem_map.1 hl
      exact request?_headerLine (h.headers header hh)
  have pairs : (definition.headers.map headerLine).filterMap BlockReading.header? =
      definition.headers :=
    filterMap_map_print fun header hh => header?_headerLine (h.headers header hh)
  rw [BlockReading.ofBlock_eq, block]
  simp only [(contents_cut h).1, (contents_cut h).2]
  simp [found, isRequest, late, BlockReading.headerPairs, BlockReading.header?, pairs,
    HeaderList.ofList_of_distinct h.distinct]

@[simp] theorem testCase?_block (table : VariableTable) (number : Nat) :
    (definition.block number).testCase? table =
      (some (definition.testCase table), definition.warnings table) := by
  have read := ofBlock_block h number
  have target : (definition.block number).target? =
      some { method := definition.method, target := definition.target } := by
    simp [Block.target?, read, h.target.ne_nil]
  have heading : (definition.block number).heading.bind Naming.ofHeading? =
      some definition.heading := ofHeading?_headingLine h
  have expected : TestCase.expectation (Naming.inferStatus definition.heading) =
      Naming.inferStatus definition.heading := by
    simp [Naming.inferStatus, TestCase.expectation, distinct]
  have given : (definition.block number).caseOf table
      { method := definition.method, target := definition.target } = definition.testCase table := by
    simp [Block.caseOf, heading, read, expected, testCase]
  rw [Block.testCase?_of_some target, given]
  simp [Block.lateWarnings, read, warnings, testCase]

end

def blocks (first : Nat) : List Definition → List Block
  | [] => []
  | definition :: definitions =>
    definition.block first :: blocks (first + definition.lines.length) definitions

variable {heads : List Text} {definitions : List Definition}

/-- Each definition closes the block before it and opens its own. -/
theorem ofLines_definitions (h : ∀ definition ∈ definitions, definition.Printable heads)
    (opened : Option Block) (first : Nat) :
    Block.ofLines heads opened ((definitions.flatMap lines).zipIdx first) =
      Block.close opened ++ blocks first definitions := by
  induction definitions generalizing opened first with
  | nil => simp [Block.ofLines, blocks]
  | cons definition definitions ih =>
    have first_printable := h definition (by simp)
    have closed : Block.close (some (definition.block first)) = [definition.block first] := rfl
    have next : first + 1 + definition.contents.length = first + definition.lines.length := by
      rw [lines, List.length_cons]
      omega
    rw [List.flatMap_cons, lines, List.cons_append, List.zipIdx_cons,
      Block.ofLines_boundary (lineKind_headingLine first_printable),
      Block.ofLines_contents (lineKind_contents first_printable), List.nil_append, next]
    change Block.close opened ++ Block.ofLines heads (some (definition.block first)) _ = _
    rw [ih (fun definition hd => h definition (by simp [hd])), closed]
    rfl

theorem map_testCase?_blocks (h : ∀ definition ∈ definitions, definition.Printable heads)
    (table : VariableTable) (first : Nat) :
    (blocks first definitions).map (fun block => block.testCase? table) =
      definitions.map fun definition =>
        (some (definition.testCase table), definition.warnings table) := by
  induction definitions generalizing first with
  | nil => rfl
  | cons definition definitions ih =>
    rw [blocks, List.map_cons, List.map_cons, testCase?_block (h definition (by simp)),
      ih fun definition hd => h definition (by simp [hd])]

end Definition

def documentLines (declarations : List (Text × Text)) (definitions : List Definition) : List Text :=
  declarations.map declarationLine ++ definitions.flatMap Definition.lines

def document (declarations : List (Text × Text)) (definitions : List Definition) : Text :=
  join ['\n'] (documentLines declarations definitions)

section

variable {heads : List Text} {declarations : List (Text × Text)} {definitions : List Definition}
  (hd : ∀ declaration ∈ declarations, IsDeclaration declaration)
  (hp : ∀ definition ∈ definitions, definition.Printable heads)

include hd hp

theorem isLine_documentLines : ∀ line ∈ documentLines declarations definitions, IsLine line := by
  intro line hl
  obtain hl | hl := List.mem_append.1 hl
  · obtain ⟨declaration, listed, rfl⟩ := List.mem_map.1 hl
    exact isLine_declarationLine (hd declaration listed)
  · obtain ⟨definition, listed, hl⟩ := List.mem_flatMap.1 hl
    exact Definition.isLine_lines (hp definition listed) line hl

omit hd in
theorem lineKind_definitions : ∀ line ∈ definitions.flatMap Definition.lines,
    Block.lineKind heads line ≠ .skip := by
  intro line hl
  obtain ⟨definition, listed, hl⟩ := List.mem_flatMap.1 hl
  exact Definition.lineKind_lines (hp definition listed) line hl

/-- Only the lines of declarations declare something, and no line only starts like one. -/
@[simp] theorem scan_document : VariableScan.ofText (document declarations definitions) =
    { table := VariableTable.ofList declarations } := by
  have shown := lineKind_definitions hp
  have declared : (declarations.map declarationLine).filterMap VariableScan.declaration? =
      declarations :=
    filterMap_map_print fun declaration listed =>
      declaration?_declarationLine (hd declaration listed)
  have undeclared : (definitions.flatMap Definition.lines).filterMap VariableScan.declaration? =
      [] := by
    rw [List.filterMap_eq_nil_iff]
    exact fun line hl =>
      VariableScan.declaration?_eq_none (isDeclarationLine_eq_false (shown line hl))
  have sound : ∀ line ∈ documentLines declarations definitions,
      VariableScan.isMalformed line = false := by
    intro line hl
    rw [VariableScan.isMalformed]
    obtain hl | hl := List.mem_append.1 hl
    · obtain ⟨declaration, listed, rfl⟩ := List.mem_map.1 hl
      simp [declaration?_declarationLine (hd declaration listed)]
    · simp [isDeclarationLine_eq_false (shown line hl)]
  have more : [] ∉ documentLines declarations definitions := by
    intro hl
    obtain hl | hl := List.mem_append.1 hl
    · obtain ⟨declaration, -, empty⟩ := List.mem_map.1 hl
      cases empty
    · exact shown [] hl rfl
  rw [VariableScan.ofText_eq, document, terminatedLines_join (isLine_documentLines hd hp) more]
  congr 1
  · rw [documentLines, List.filterMap_append, declared, undeclared, List.append_nil]
  · rw [List.map_eq_nil_iff, List.filter_eq_nil_iff]
    intro pair hpair
    rw [sound pair.1 (List.fst_mem_of_mem_zipIdx hpair)]
    decide

@[simp] theorem blocks_document : Block.ofText heads (document declarations definitions) =
    Definition.blocks (declarations.length + 1) definitions := by
  have start : Block.ofLines heads none
      ((documentLines declarations definitions).zipIdx 1) =
        Definition.blocks (declarations.length + 1) definitions := by
    rw [documentLines, Block.ofLines_skips, Definition.ofLines_definitions hp]
    · rw [List.length_map, Nat.add_comm]
      rfl
    · intro line hl
      obtain ⟨declaration, -, rfl⟩ := List.mem_map.1 hl
      exact lineKind_declarationLine heads
  by_cases none_left : documentLines declarations definitions = []
  · rw [none_left] at start
    rw [← start, document, none_left]
    rfl
  · rw [Block.ofText, document, separatedLines_join (isLine_documentLines hd hp) none_left]
    exact start

end

/-- Reading undoes printing: each name has the value of its last declaration, and each definition
gives its test case and no warning but about undeclared names in its target. -/
theorem ofText_document {heads : List Text} {declarations : List (Text × Text)}
    {definitions : List Definition}
    (hd : ∀ declaration ∈ declarations, IsDeclaration declaration)
    (hp : ∀ definition ∈ definitions, definition.Printable heads) :
    Document.ofText heads (document declarations definitions) =
        { table := VariableTable.ofList declarations
          cases := definitions.map fun definition =>
            definition.testCase (VariableTable.ofList declarations)
          warnings := definitions.flatMap fun definition =>
            definition.warnings (VariableTable.ofList declarations) } ∧
      ∀ name, (VariableTable.ofList declarations).get? name = declarations.reverse.lookup name := by
  set table := VariableTable.ofList declarations with ht
  have read : (Block.ofText heads (document declarations definitions)).map
      (fun block => block.testCase? table) = definitions.map fun definition =>
        (some (definition.testCase table), definition.warnings table) := by
    rw [blocks_document hd hp]
    exact Definition.map_testCase?_blocks hp table _
  refine ⟨?_, VariableTable.get?_ofList declarations⟩
  rw [Document.ofText, scan_document hd hp]
  dsimp only
  rw [← ht, read, List.filterMap_map, List.flatMap_map]
  simp

/-- A declared and an undeclared name in the target of one definition. -/
theorem ofText_document_login :
    let declaration : Text × Text := ("host", "h:80")
    let login : Definition :=
      { heading := "Log in", method := .post, target := "\x7b\x7bhost\x7d\x7d/\x7b\x7bid\x7d\x7d",
        headers := [("Accept", "*/*")], body := ["\x7b", "  1", "\x7d"] }
    let read := Document.ofText ["SEGAPI"] (document [declaration] [login])
    IsDeclaration declaration ∧ login.Printable ["SEGAPI"] ∧
      read.table.get? "host" = some "h:80" ∧
      read.cases.map TestCase.path = [("h:80/\x7b\x7bid\x7d\x7d" : Text)] ∧
      read.warnings = [.unresolvedVariable "id" "Log_in"] := by
  intro declaration login read
  have declared : IsDeclaration declaration :=
    ⟨by decide, List.all_eq_true.1 (by decide), ⟨by decide, by decide, by decide⟩⟩
  have clear : ∀ c ∈ ("Accept" : Text), Unicode.isBlank c = false := clear_of_all (by decide)
  have accept : IsHeader ("Accept", "*/*") :=
    { name := ⟨by decide, by decide, by decide⟩
      no_colon := by decide
      no_at := by decide
      no_brace := by decide
      no_mark := by decide
      no_verb := fun _ c start => clear c (start.subset (by simp))
      value_trimmed := by decide
      value_one_line := by decide }
  have body : ∀ line ∈ login.body, IsBodyLine line := by
    intro line hl
    have one : line = "\x7b".toList ∨ line = "  1".toList ∨ line = "\x7d".toList := by
      simpa [login] using hl
    rcases one with rfl | rfl | rfl <;>
      exact ⟨⟨by decide, by decide⟩, by decide, by decide, by decide⟩
  have printable : login.Printable ["SEGAPI"] :=
    { heading := ⟨by decide, by decide, by decide⟩
      unprotected := by decide
      target := ⟨by decide, by decide, by decide⟩
      no_version := RequestLine.not_endsInVersion_of_clear (clear_of_all (by decide))
      headers := by simpa [login] using accept
      distinct := by simp [login]
      opens := by decide
      body }
  have hd : ∀ other ∈ [declaration], IsDeclaration other := by simpa using declared
  have hp : ∀ other ∈ [login], other.Printable ["SEGAPI"] := by simpa using printable
  have same : read = _ := (ofText_document hd hp).1
  refine ⟨declared, printable, ?_⟩
  rw [same]
  decide +kernel

end Printing
end HttpContract
