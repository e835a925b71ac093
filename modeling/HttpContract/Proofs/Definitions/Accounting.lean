import HttpContract.Proofs.Definitions.Block
import HttpContract.Proofs.Definitions.Warning
import HttpContract.Proofs.Variables.Declaration

/-! Every block of a document is accounted for once: it gives one test case, or one warning that it
is unusable. -/
namespace HttpContract

namespace BlockReading

theorem isRequest_iff {line : Text} (h : '\n' ∉ line) :
    isRequest line = true ↔ RequestLine.HasForm (Text.trim line) :=
  RequestLine.isSome_ofText?_iff (Text.trim_trim line) fun hn => h (Text.trim_subset line hn)

theorem findSome?_front_eq_some_iff {lines : List Text} {request : RequestLine} :
    (front lines).findSome? request? = some request ↔
      ∃ before line after, lines = before ++ line :: after ∧
        (∀ other ∈ before, opensBody other = false ∧ request? other = none) ∧
        request? line = some request := by
  rw [List.findSome?_eq_some_iff]
  constructor
  · rintro ⟨before, line, after, cut, read, others⟩
    have whole : lines = front lines ++ bodyLines lines := List.takeWhile_append_dropWhile.symm
    refine ⟨before, line, after ++ bodyLines lines, ?_, fun other ho => ⟨?_, others other ho⟩, read⟩
    · rw [cut] at whole
      simpa using whole
    · have mem : other ∈ front lines := by simp [cut, ho]
      simpa using List.mem_takeWhile_imp mem
  · rintro ⟨before, line, after, rfl, others, read⟩
    refine ⟨before, line, front after, ?_, read, fun other ho => (others other ho).2⟩
    rw [front, List.takeWhile_append_of_pos fun other ho => by simp [(others other ho).1]]
    simp [opensBody_eq_false read, front]

end BlockReading

namespace Block

open BlockReading

/-- A block is usable if a line before its body is a request line, and the first such line has a
target. -/
def Usable (block : Block) : Prop :=
  ∃ before line after, block.lines = before ++ line :: after ∧
    (∀ other ∈ before, opensBody other = false ∧ ¬ RequestLine.HasForm (Text.trim other)) ∧
    RequestLine.HasForm (Text.trim line) ∧
    ∃ request, RequestLine.ofText? (Text.trim line) = some request ∧ request.target ≠ []

theorem usable_iff {block : Block} (h : ∀ line ∈ block.lines, '\n' ∉ line) :
    block.Usable ↔ block.target?.isSome = true := by
  have form : ∀ line ∈ block.lines,
      (request? line = none ↔ ¬ RequestLine.HasForm (Text.trim line)) := fun line hl => by
    rw [← isRequest_iff (h line hl), isRequest, Bool.not_eq_true, Option.isSome_eq_false_iff,
      Option.isNone_iff_eq_none]
  have found : block.target?.isSome = true ↔
      ∃ request, (front block.lines).findSome? request? = some request ∧ request.target ≠ [] := by
    rw [target?, ofBlock_eq, Option.isSome_iff_exists]
    simp [Option.filter_eq_some_iff]
  rw [found]
  constructor
  · rintro ⟨before, line, after, cut, others, -, request, read, target⟩
    refine ⟨request, findSome?_front_eq_some_iff.2
      ⟨before, line, after, cut, fun other ho => ⟨(others other ho).1, ?_⟩, read⟩, target⟩
    exact (form other (by simp [cut, ho])).2 (others other ho).2
  · rintro ⟨request, read, target⟩
    obtain ⟨before, line, after, cut, others, read⟩ := findSome?_front_eq_some_iff.1 read
    refine ⟨before, line, after, cut, fun other ho => ⟨(others other ho).1, ?_⟩, ?_, request, read,
      target⟩
    · exact (form other (by simp [cut, ho])).1 (others other ho).2
    · exact (isRequest_iff (h line (by simp [cut]))).1 (by simp [isRequest, read])

theorem isSome_testCase?_iff {block : Block} (h : ∀ line ∈ block.lines, '\n' ∉ line)
    (table : VariableTable) : (block.testCase? table).1.isSome = true ↔ block.Usable := by
  rw [usable_iff h, testCase?_fst, Option.isSome_map, Option.isSome_iff_exists]

end Block

namespace Document

variable (heads : List Text) (text : Text)

theorem unusableLines_eq : (ofText heads text).warnings.filterMap Warning.unusableLine? =
    ((Block.ofText heads text).filter fun block =>
      (block.testCase? (ofText heads text).table).1.isNone).map Block.line := by
  rw [filterMap_warnings _ _ _ fun _ => rfl]
  generalize Block.ofText heads text = blocks
  induction blocks with
  | nil => rfl
  | cons block blocks ih =>
    rw [List.flatMap_cons, ih, Block.unusableLine?_testCase?, List.filter_cons]
    split <;> rfl

theorem length_cases_add : (ofText heads text).cases.length +
    ((ofText heads text).warnings.filterMap Warning.unusableLine?).length =
      (Block.ofText heads text).length := by
  rw [unusableLines_eq, List.length_map]
  simp only [ofText, List.filterMap_map]
  generalize Block.ofText heads text = blocks
  induction blocks with
  | nil => rfl
  | cons block blocks ih =>
    cases h : (block.testCase? (VariableScan.ofText text).table).1 <;>
      simp [h] <;> simp only [Function.comp_def] at ih <;> omega

/-- Each block gives either a case and no warning that it is unusable, or no case and one such
warning with its own number, both in the order of the blocks; which of the two is decided by the
request lines before its body. Malformed declarations are told before all of that. -/
theorem blocks_accounted_once (heads : List Text) (text : Text) :
    let blocks := Block.ofText heads text
    let document := ofText heads text
    let given := fun block : Block => block.testCase? document.table
    (∀ block ∈ blocks,
      (block.Usable ∧ (given block).1.isSome = true ∧
        (given block).2.filterMap Warning.unusableLine? = []) ∨
      (¬ block.Usable ∧ (given block).1 = none ∧
        (given block).2.filterMap Warning.unusableLine? = [block.line])) ∧
    document.cases = blocks.filterMap (fun block => (given block).1) ∧
    document.warnings.filterMap Warning.unusableLine? =
      (blocks.filter fun block => (given block).1.isNone).map Block.line ∧
    document.cases.length + (document.warnings.filterMap Warning.unusableLine?).length =
      blocks.length ∧
    (document.warnings.filterMap Warning.unusableLine?).Pairwise (· < ·) ∧
    (∀ block ∈ blocks, ∀ warning ∈ (given block).2, warning.isUnresolved = true →
      (given block).1.isSome = true) ∧
    ∃ malformed : List Nat, malformed.Pairwise (· < ·) ∧
      document.warnings = malformed.map .malformedVariable ++
        blocks.flatMap (fun block => (given block).2) ∧
      ∀ block ∈ blocks, (given block).2.filterMap Warning.malformedLine? = [] := by
  intro blocks document given
  refine ⟨fun block hb => ?_, by simp [document, ofText, given, blocks],
    unusableLines_eq heads text, length_cases_add heads text, ?_,
    fun block _ warning => block.isSome_of_unresolved document.table,
    (VariableScan.ofText text).malformed, VariableScan.pairwise_malformed text,
    by simp [document, ofText, given, blocks, List.flatMap_map],
    fun block _ => block.malformedLine?_testCase? document.table⟩
  · have usable := Block.isSome_testCase?_iff
      (fun line hl => Block.newline_not_mem_of_mem_ofText hb hl) document.table
    have told := block.unusableLine?_testCase? document.table
    cases h : (given block).1 with
    | some test => exact .inl ⟨usable.1 (by simp [given] at h; simp [h]), rfl, by simp_all [given]⟩
    | none => exact .inr ⟨fun hu => by simp_all [given], rfl, by simp_all [given]⟩
  · rw [unusableLines_eq]
    exact List.Pairwise.sublist (List.filter_sublist.map _) (Block.pairwise_line_ofText heads text)

/-- Of two blocks the first has an undeclared reference and the second no request line. -/
theorem blocks_accounted_once_notes :
    let text : Text := "GET /\x7b\x7bid\x7d\x7d\n### Notes\nsee the wiki"
    let first : Block := { heading := none, lines := ["GET /\x7b\x7bid\x7d\x7d"], line := 1 }
    let notes : Block := { heading := some "### Notes", lines := ["see the wiki"], line := 2 }
    let table := (ofText [] text).table
    (first.testCase? table).1.isSome = true ∧
      (notes.testCase? table).2.filterMap Warning.unusableLine? = [2] := by
  intro text first notes table
  have opens : first ∈ Block.ofText [] text := by decide
  have listed : notes ∈ Block.ofText [] text := by decide
  obtain ⟨each, -, -, -, -, unresolved, -⟩ := blocks_accounted_once [] text
  have missing : Warning.unresolvedVariable "id" "GET__id_Should_Return_SuccessStatusCode" ∈
      (first.testCase? table).2 := by decide +kernel
  have lacking : (notes.testCase? table).1 = none := by
    rw [Block.testCase?_of_none (by decide)]
  refine ⟨unresolved first opens _ missing rfl, ?_⟩
  obtain ⟨-, given, -⟩ | ⟨-, -, told⟩ := each notes listed
  · rw [lacking] at given
    cases given
  · exact told

end Document
end HttpContract
