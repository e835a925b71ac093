import HttpContract.Proofs.Definitions.Accounting
import HttpContract.Proofs.Variables.Table

/-! What the cases of a document depend on: the lines that are not skipped, in their order, and the
values of the declared variables. Where a line stands in the text is no matter, nor what is skipped
around it. -/
namespace HttpContract

namespace Block

/-- Whether a line belongs to no block: it is blank, starts like a declaration, or is a protected
heading. -/
def isStructural (heads : List Text) (line : Text) : Bool :=
  (Text.trim line).isEmpty || Text.startsWith ['@'] (Text.trim line) ||
    isProtected heads (Text.trim line)

def plainLines (heads : List Text) (text : Text) : List Text :=
  (Text.separatedLines text).filter fun line => !isStructural heads line

variable {heads : List Text}

theorem lineKind_eq_skip_iff {line : Text} :
    lineKind heads line = .skip ↔ isStructural heads line = true := by
  unfold lineKind isStructural
  constructor
  · intro kind
    by_contra plain
    rw [Bool.not_eq_true] at plain
    dsimp only at kind
    rw [plain] at kind
    by_cases heading : Text.startsWith mark (Text.trim line) = true
    · simp [heading] at kind
    · simp [heading] at kind
  · intro skipped
    dsimp only
    rw [skipped]
    rfl

theorem unplaced_ofText (text : Text) :
    (ofText heads text).map (renumber fun _ => 0) =
      ofLines heads none ((plainLines heads text).map fun line => (line, 0)) := by
  have unplaced (lines : List Text) : (Text.numbered lines).map (Prod.map id fun _ => 0) =
      lines.map fun line => (line, 0) := by
    have fronts : (Text.numbered lines).map Prod.fst = lines := List.zipIdx_map_fst ..
    conv_rhs => rw [← fronts]
    rw [List.map_map]
    rfl
  have shown (line : Text) : (!isStructural heads line) =
      decide (lineKind heads line ≠ .skip) := by
    have same : lineKind heads line = .skip ↔ isStructural heads line = true :=
      lineKind_eq_skip_iff
    cases h : isStructural heads line <;> simp_all
  have cut := @ofLines_renumber heads (fun _ => 0) none
    (Text.numbered (Text.separatedLines text))
  rw [Option.map_none, unplaced] at cut
  rw [ofText, ← cut, ← ofLines_shown, List.filter_map, plainLines]
  simp only [shown, Function.comp_def]

@[simp] theorem isStructural_dropReturn (line : Text) :
    isStructural heads (Text.dropReturn line) = isStructural heads line := by
  rw [isStructural, isStructural, Text.trim_dropReturn]

theorem isStructural_of_isDeclarationLine {line : Text}
    (h : VariableScan.isDeclarationLine line = true) : isStructural heads line = true := by
  rw [VariableScan.isDeclarationLine, ← Text.startsWith_trim] at h
  simp [isStructural, h]

/-- A carriage return before the newline counts for nothing here. -/
theorem plainLines_join {pieces : List Text} (h : ∀ piece ∈ pieces, '\n' ∉ piece) :
    plainLines heads (Text.join ['\n'] pieces) =
      (pieces.filter fun piece => !isStructural heads piece).map Text.dropReturn := by
  by_cases hn : pieces = []
  · subst hn
    rfl
  · rw [plainLines, Text.separatedLines, Text.splitAt_join_of_clear h hn, List.filter_map]
    simp only [Function.comp_def, isStructural_dropReturn]

@[simp] theorem length_extra_renumber (f : Nat → Nat) (block : Block) :
    (BlockReading.ofBlock (block.renumber f)).extra.length =
      (BlockReading.ofBlock block).extra.length := by
  simp only [BlockReading.ofBlock_eq, lines_renumber, List.length_drop,
    BlockReading.length_requestNumbers]

@[simp] theorem unresolved_renumber (f : Nat → Nat) (block : Block) (table : VariableTable) :
    ((block.renumber f).testCase? table).2.filter Warning.isUnresolved =
      (block.testCase? table).2.filter Warning.isUnresolved := by
  simp only [unresolved_testCase?, target?_renumber, caseOf_renumber]

end Block

namespace Document

/-- Two documents that differ at most in line numbers, in their declarations and in what is told of
these. -/
structure Alike (document other : Document) : Prop where
  cases : document.cases = other.cases
  unresolved : document.warnings.filter Warning.isUnresolved =
    other.warnings.filter Warning.isUnresolved
  unusable : (document.warnings.filterMap Warning.unusableLine?).length =
    (other.warnings.filterMap Warning.unusableLine?).length
  extra : (document.warnings.filterMap Warning.extraLine?).length =
    (other.warnings.filterMap Warning.extraLine?).length

section

variable (heads : List Text) (text : Text)

def unplaced : List Block := (Block.ofText heads text).map (Block.renumber fun _ => 0)

theorem cases_eq_unplaced : (ofText heads text).cases = (unplaced heads text).filterMap
    fun block => (block.testCase? (VariableScan.ofText text).table).1 := by
  simp only [ofText, unplaced, List.filterMap_map, Function.comp_def, Block.testCase?_renumber]

theorem unresolved_eq_unplaced :
    (ofText heads text).warnings.filter Warning.isUnresolved = (unplaced heads text).flatMap
      fun block => (block.testCase? (VariableScan.ofText text).table).2.filter
        Warning.isUnresolved := by
  have none_malformed : ((VariableScan.ofText text).malformed.map Warning.malformedVariable).filter
      Warning.isUnresolved = [] := by simp [Warning.isUnresolved]
  simp only [ofText, List.filter_append, none_malformed, List.nil_append, unplaced,
    List.flatMap_map, List.filter_flatMap, Block.unresolved_renumber]

theorem length_extra_eq_unplaced :
    ((ofText heads text).warnings.filterMap Warning.extraLine?).length =
      ((unplaced heads text).flatMap fun block => (BlockReading.ofBlock block).extra).length := by
  rw [filterMap_warnings _ _ _ fun _ => rfl]
  simp only [Block.extraLine?_testCase?, unplaced, List.length_flatMap, List.map_map,
    Function.comp_def, Block.length_extra_renumber]

end

theorem alike_of_plainLines {heads : List Text} {text other : Text}
    (lines : Block.plainLines heads text = Block.plainLines heads other)
    (table : (VariableScan.ofText text).table = (VariableScan.ofText other).table) :
    Alike (ofText heads text) (ofText heads other) := by
  have blocks : unplaced heads text = unplaced heads other := by
    rw [unplaced, unplaced, Block.unplaced_ofText, Block.unplaced_ofText, lines]
  have cases_eq : (ofText heads text).cases = (ofText heads other).cases := by
    rw [cases_eq_unplaced, cases_eq_unplaced, blocks, table]
  refine ⟨cases_eq, ?_, ?_, ?_⟩
  · rw [unresolved_eq_unplaced, unresolved_eq_unplaced, blocks, table]
  · -- Blocks without a case are what the cases leave of all blocks.
    have all := length_cases_add heads text
    have all' := length_cases_add heads other
    have count : (Block.ofText heads text).length = (Block.ofText heads other).length := by
      have lengths := congrArg List.length blocks
      simpa only [unplaced, List.length_map] using lengths
    rw [cases_eq] at all
    omega
  · rw [length_extra_eq_unplaced, length_extra_eq_unplaced, blocks]

/-- The texts that are made of pieces and newlines between them. -/
theorem alike_of_pieces {heads : List Text} {pieces others : List Text}
    (clear : ∀ piece ∈ pieces, '\n' ∉ piece) (clear' : ∀ piece ∈ others, '\n' ∉ piece)
    (plain : pieces.filter (fun piece => !Block.isStructural heads piece) =
      others.filter fun piece => !Block.isStructural heads piece)
    (table : (VariableScan.ofText (Text.join ['\n'] pieces)).table =
      (VariableScan.ofText (Text.join ['\n'] others)).table) :
    Alike (ofText heads (Text.join ['\n'] pieces)) (ofText heads (Text.join ['\n'] others)) := by
  apply alike_of_plainLines
  · rw [Block.plainLines_join clear, Block.plainLines_join clear', plain]
  · exact table

/-- Two texts with the same plain lines and the same variables have documents that are alike. So a
line that is skipped can be put anywhere, provided that the variables keep their values, and a
declaration can be moved past lines that do not declare its variable. -/
theorem ofText_alike (heads : List Text) :
    (∀ text other : Text, Block.plainLines heads text = Block.plainLines heads other →
      (VariableScan.ofText text).table = (VariableScan.ofText other).table →
      Alike (ofText heads text) (ofText heads other)) ∧
    (∀ (front back : List Text) (line : Text),
      let inserted := Text.join ['\n'] (front ++ line :: back)
      let plain := Text.join ['\n'] (front ++ back)
      (∀ piece ∈ front ++ line :: back, '\n' ∉ piece) → Block.isStructural heads line = true →
      (VariableScan.isDeclarationLine line = true →
        (VariableScan.ofText inserted).table = (VariableScan.ofText plain).table) →
      Alike (ofText heads inserted) (ofText heads plain)) ∧
    ∀ (front middle back : List Text) (line name value : Text),
      let before := Text.join ['\n'] (front ++ line :: middle ++ back)
      let behind := Text.join ['\n'] (front ++ middle ++ line :: back)
      (∀ piece ∈ front ++ line :: middle ++ back, '\n' ∉ piece) →
      VariableScan.declaration? line = some (name, value) →
      (∀ other ∈ middle, ∀ pair ∈ VariableScan.declaration? other, pair.1 ≠ name) →
      Alike (ofText heads before) (ofText heads behind) := by
  refine ⟨fun _ _ => alike_of_plainLines, ?_, ?_⟩
  · intro front back line inserted plain clear structural table
    have clear' : ∀ piece ∈ front ++ back, '\n' ∉ piece := by
      intro piece hp
      apply clear
      simp only [List.mem_append, List.mem_cons] at hp ⊢
      tauto
    apply alike_of_pieces clear clear'
    · simp [structural]
    · cases start : VariableScan.isDeclarationLine line with
      | true => exact table start
      | false =>
        have nothing := VariableScan.declaration?_eq_none start
        rw [VariableScan.table_join clear, VariableScan.table_join clear']
        simp [nothing]
  · intro front middle back line name value before behind clear declared others
    have clear' : ∀ piece ∈ front ++ middle ++ line :: back, '\n' ∉ piece := by
      intro piece hp
      apply clear
      simp only [List.mem_append, List.mem_cons] at hp ⊢
      tauto
    have structural : Block.isStructural heads line = true :=
      Block.isStructural_of_isDeclarationLine
        (VariableScan.isDeclarationLine_of_declaration? (by simp [declared]))
    apply alike_of_pieces clear clear'
    · simp [structural]
    · have apart : ∀ pair ∈ middle.filterMap VariableScan.declaration?, pair.1 ≠ name := by
        intro pair hp
        obtain ⟨other, ho, found⟩ := List.mem_filterMap.1 hp
        exact others other ho pair found
      have moved := @VariableTable.ofList_move name value _ apart
        (front.filterMap VariableScan.declaration?) (back.filterMap VariableScan.declaration?)
      rw [VariableScan.table_join clear, VariableScan.table_join clear']
      simpa [declared] using moved

/-- The second text has blank lines in its header and its body, and declares the variable last. -/
theorem ofText_alike_scattered :
    let heads := Block.defaultProtected
    let text : Text := "@id = 7\n### A\nPUT /\x7b\x7bid\x7d\x7d\nkey: value\n\x7b\n\x7d"
    let other : Text := "### SEGAPI\n### A\r\nPUT /\x7b\x7bid\x7d\x7d\n\nkey: value\n" ++
      "\x7b\n\n### Use REST\n\x7d\n@id=7"
    Block.plainLines heads text = Block.plainLines heads other ∧
      (VariableScan.ofText text).table = (VariableScan.ofText other).table ∧
      Alike (ofText heads text) (ofText heads other) := by
  intro heads text other
  have lines : Block.plainLines heads text = Block.plainLines heads other := by decide +kernel
  have table : (VariableScan.ofText text).table = (VariableScan.ofText other).table := by
    decide +kernel
  exact ⟨lines, table, (ofText_alike heads).1 text other lines table⟩

end Document
end HttpContract
