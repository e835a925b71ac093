import HttpContract.Definitions.Document
import HttpContract.Proofs.Definitions.Block
import HttpContract.Proofs.Definitions.Reading

/-! The warnings of a block by their kinds, and what a block with a request target gives. -/
namespace HttpContract

namespace Warning

def malformedLine? : Warning → Option Nat
  | malformedVariable line => some line
  | _ => none

def unusableLine? : Warning → Option Nat
  | unusableBlock line => some line
  | _ => none

def extraLine? : Warning → Option Nat
  | extraRequestLine line => some line
  | _ => none

def isUnresolved : Warning → Bool
  | unresolvedVariable _ _ => true
  | _ => false

end Warning

namespace Block

def caseOf (block : Block) (table : VariableTable) (request : RequestLine) : TestCase :=
  let heading := block.heading.bind Naming.ofHeading?
  let path := (table.interpolate request.target).text
  let reading := BlockReading.ofBlock block
  { name := Naming.sanitize (heading.getD (Naming.synthesize request.method path))
    method := request.method
    path
    expected := TestCase.expectation
      ((heading.map Naming.inferStatus).getD [TestCase.defaultStatus])
    schema := none
    testType := .statusCode
    headers := reading.headers
    body := if reading.body.isEmpty then none else some (Text.join ['\n'] reading.body) }

def target? (block : Block) : Option RequestLine :=
  (BlockReading.ofBlock block).request.filter fun request => !request.target.isEmpty

def lateWarnings (block : Block) : List Warning :=
  (BlockReading.ofBlock block).extra.map .extraRequestLine

theorem testCase?_of_none {block : Block} (h : block.target? = none) (table : VariableTable) :
    block.testCase? table = (none, block.lateWarnings ++ [.unusableBlock block.line]) := by
  rw [target?] at h
  simp [testCase?, h, lateWarnings]

theorem testCase?_of_some {block : Block} {request : RequestLine}
    (h : block.target? = some request) (table : VariableTable) :
    block.testCase? table = (some (block.caseOf table request), block.lateWarnings ++
      (table.interpolate request.target).unresolved.map fun missing =>
        .unresolvedVariable missing (block.caseOf table request).name) := by
  rw [target?] at h
  simp [testCase?, h, lateWarnings, caseOf, TestCase.withExpected, TestCase.new]

theorem testCase?_fst (block : Block) (table : VariableTable) :
    (block.testCase? table).1 = block.target?.map (block.caseOf table) := by
  cases h : block.target? with
  | none => rw [testCase?_of_none h, Option.map_none]
  | some request => rw [testCase?_of_some h, Option.map_some]

@[simp] theorem target?_renumber (f : Nat → Nat) (block : Block) :
    (block.renumber f).target? = block.target? := by
  rw [target?, target?, BlockReading.ofBlock_eq, BlockReading.ofBlock_eq, lines_renumber]

@[simp] theorem caseOf_renumber (f : Nat → Nat) (block : Block) (table : VariableTable)
    (request : RequestLine) : (block.renumber f).caseOf table request =
      block.caseOf table request := by
  simp only [caseOf, BlockReading.ofBlock_eq, lines_renumber, heading_renumber]

@[simp] theorem testCase?_renumber (f : Nat → Nat) (block : Block) (table : VariableTable) :
    ((block.renumber f).testCase? table).1 = (block.testCase? table).1 := by
  have same := target?_renumber f block
  cases h : block.target? with
  | none => rw [testCase?_of_none h, testCase?_of_none (same.trans h)]
  | some request =>
    rw [testCase?_of_some h, testCase?_of_some (same.trans h), caseOf_renumber]

section

variable (block : Block) (table : VariableTable)

@[simp] theorem malformedLine?_testCase? :
    (block.testCase? table).2.filterMap Warning.malformedLine? = [] := by
  cases h : block.target? with
  | none => simp [testCase?_of_none h, lateWarnings, Warning.malformedLine?]
  | some request => simp [testCase?_of_some h, lateWarnings, Warning.malformedLine?]

@[simp] theorem extraLine?_testCase? :
    (block.testCase? table).2.filterMap Warning.extraLine? =
      (BlockReading.ofBlock block).extra := by
  cases h : block.target? with
  | none => simp [testCase?_of_none h, lateWarnings, Warning.extraLine?, Function.comp_def]
  | some request =>
    simp [testCase?_of_some h, lateWarnings, Warning.extraLine?, Function.comp_def]

theorem unresolved_testCase? :
    (block.testCase? table).2.filter Warning.isUnresolved =
      block.target?.elim [] fun request =>
        (table.interpolate request.target).unresolved.map fun missing =>
          .unresolvedVariable missing (block.caseOf table request).name := by
  have late : block.lateWarnings.filter Warning.isUnresolved = [] := by
    simp [lateWarnings, Warning.isUnresolved]
  cases h : block.target? with
  | none => simp [testCase?_of_none h, late, Warning.isUnresolved]
  | some request => simp [testCase?_of_some h, late, List.filter_map, Function.comp_def,
      Warning.isUnresolved]

theorem unusableLine?_testCase? :
    (block.testCase? table).2.filterMap Warning.unusableLine? =
      if (block.testCase? table).1.isNone then [block.line] else [] := by
  cases h : block.target? with
  | none => simp [testCase?_of_none h, lateWarnings, Warning.unusableLine?]
  | some request => simp [testCase?_of_some h, lateWarnings, Warning.unusableLine?]

/-- Only a block with a test case has references that nothing resolves. -/
theorem isSome_of_unresolved {warning : Warning} (hw : warning ∈ (block.testCase? table).2)
    (hu : warning.isUnresolved = true) : (block.testCase? table).1.isSome = true := by
  cases h : block.target? with
  | none =>
    simp only [testCase?_of_none h, lateWarnings, List.mem_append, List.mem_map,
      List.mem_singleton] at hw
    obtain ⟨_, -, rfl⟩ | rfl := hw <;> cases hu
  | some request => simp [testCase?_of_some h]

end

end Block

namespace Document

variable (heads : List Text) (text : Text)

/-- Each kind of warnings of a document is that of its blocks, the malformed declarations apart. -/
theorem filterMap_warnings {α : Type} (kind : Warning → Option α)
    (h : ∀ line, kind (.malformedVariable line) = none) :
    (ofText heads text).warnings.filterMap kind = (Block.ofText heads text).flatMap fun block =>
      (block.testCase? (ofText heads text).table).2.filterMap kind := by
  have none_malformed : (VariableScan.ofText text).malformed.filterMap
      (kind ∘ Warning.malformedVariable) = [] := by simp [h]
  simp only [ofText, List.filterMap_append, List.filterMap_map, none_malformed, List.nil_append,
    List.flatMap_map, List.filterMap_flatMap]

end Document
end HttpContract
