import HttpContract.Proofs.Definitions.Reading
import HttpContract.Proofs.Definitions.Block
import HttpContract.Proofs.Headers.List
import HttpContract.Proofs.Variables.Declaration
import Mathlib.Data.List.Forall2

/-! What becomes of the lines of a text. The scan for declarations and the cutting into blocks split
and trim them in different ways, but they agree on which lines are meant as declarations, so that
each line has one fate and no declaration gets into a block. -/
namespace HttpContract

inductive Fate where
  | bound | malformed | passed | boundary | content
  deriving DecidableEq

namespace Text

theorem exists_mem_zipIdx_cons_iff {P : Text → Prop} {line : Text} {lines : List Text}
    {first number : Nat} : (∃ other, (other, number) ∈ (line :: lines).zipIdx first ∧ P other) ↔
      number = first ∧ P line ∨ ∃ other, (other, number) ∈ lines.zipIdx (first + 1) ∧ P other := by
  simp only [List.zipIdx_cons, List.mem_cons, Prod.mk.injEq, or_and_right, exists_or, and_assoc,
    exists_eq_left]

section

variable {P : Text → Prop} (drop : ∀ line, P (dropReturn line) ↔ P line)

include drop

/-- Lines are found at the numbers of their pieces, and only an empty piece is no line. -/
theorem exists_mem_endLines_iff (empty : ¬ P []) (pieces : List Text) (first number : Nat) :
    (∃ line, (line, number) ∈ (endLines pieces).zipIdx first ∧ P line) ↔
      ∃ piece, (piece, number) ∈ pieces.zipIdx first ∧ P piece := by
  fun_induction endLines pieces generalizing first with
  | case1 => rfl
  | case2 => simp [empty]
  | case3 => rfl
  | case4 piece next pieces ih =>
    rw [exists_mem_zipIdx_cons_iff, exists_mem_zipIdx_cons_iff, ih, drop]

theorem exists_mem_terminatedLines_iff (empty : ¬ P []) (text : Text) (number : Nat) :
    (∃ line, (line, number) ∈ numbered (terminatedLines text) ∧ P line) ↔
      ∃ piece, (piece, number) ∈ numbered (splitAt '\n' text) ∧ P piece :=
  exists_mem_endLines_iff drop empty _ 1 number

theorem exists_mem_separatedLines_iff (text : Text) (number : Nat) :
    (∃ line, (line, number) ∈ numbered (separatedLines text) ∧ P line) ↔
      ∃ piece, (piece, number) ∈ numbered (splitAt '\n' text) ∧ P piece := by
  rw [numbered, separatedLines, List.zipIdx_map]
  simp only [List.mem_map, Prod.exists, Prod.map_apply, Prod.mk.injEq, id]
  constructor
  · rintro ⟨_, ⟨piece, _, listed, rfl, rfl⟩, holds⟩
    exact ⟨piece, listed, (drop piece).1 holds⟩
  · rintro ⟨piece, listed, holds⟩
    exact ⟨_, ⟨piece, number, listed, rfl, rfl⟩, (drop piece).2 holds⟩

end

theorem exists_mem_numbered_iff {P : Text → Prop} {lines : List Text} {line : Text} {number : Nat}
    (listed : (line, number) ∈ numbered lines) :
    (∃ other, (other, number) ∈ numbered lines ∧ P other) ↔ P line := by
  refine ⟨?_, fun holds => ⟨line, listed, holds⟩⟩
  rintro ⟨other, also, holds⟩
  have found := (List.mem_zipIdx_iff_le_and_getElem?_sub.1 listed).2
  rw [(List.mem_zipIdx_iff_le_and_getElem?_sub.1 also).2] at found
  obtain rfl : other = line := Option.some.inj found
  exact holds

end Text

namespace Block

inductive SkipReason where
  | blank | declaration | protectedHeading
  deriving DecidableEq

def skipReason? (heads : List Text) (line : Text) : Option SkipReason :=
  let trimmed := Text.trim line
  if trimmed.isEmpty then some .blank
  else if Text.startsWith ['@'] trimmed then some .declaration
  else if isProtected heads trimmed then some .protectedHeading
  else none

variable {heads : List Text}

@[simp] theorem isSome_skipReason?_iff {line : Text} :
    (skipReason? heads line).isSome = true ↔ lineKind heads line = .skip := by
  rw [skipReason?, lineKind]
  cases (Text.trim line).isEmpty <;> cases Text.startsWith ['@'] (Text.trim line) <;>
    cases isProtected heads (Text.trim line) <;>
    cases Text.startsWith mark (Text.trim line) <;> simp

@[simp] theorem skipReason?_dropReturn (line : Text) :
    skipReason? heads (Text.dropReturn line) = skipReason? heads line := by
  rw [skipReason?, skipReason?, Text.trim_dropReturn]

theorem skipReason?_eq_declaration_iff {line : Text} :
    skipReason? heads line = some .declaration ↔ ['@'] <+: Text.trim line := by
  rw [← Text.startsWith_iff, skipReason?]
  cases hl : Text.trim line with
  | nil => simp
  | cons c rest =>
    cases Text.startsWith ['@'] (c :: rest) <;> cases isProtected heads (c :: rest) <;> simp

/-- A block with the numbers of its lines among numbered ones; its heading stands at its own. -/
structure IsTaken (heads : List Text) (numbered : List (Text × Nat)) (block : Block)
    (numbers : List Nat) : Prop where
  heading : ∀ line ∈ block.heading, (line, block.line) ∈ numbered ∧ lineKind heads line = .boundary
  lines : List.Forall₂ (fun line number => (line, number) ∈ numbered) block.lines numbers

def contentNumbers (heads : List Text) (numbered : List (Text × Nat)) : List Nat :=
  (numbered.filter fun pair => lineKind heads pair.1 = .content).map Prod.snd

section

variable {all : List (Text × Nat)}

theorem exists_sources_close {opened : Option Block} {held : List Nat}
    (closed : opened = none → held = [])
    (taken : ∀ block ∈ opened, IsTaken heads all block held) :
    ∃ sources, List.Forall₂ (IsTaken heads all) (close opened) sources ∧
      sources.flatten = held := by
  cases opened with
  | none => exact ⟨[], .nil, (closed rfl).symm⟩
  | some block =>
    have numbers := taken block rfl
    cases lines : block.lines with
    | nil =>
      have none_held : held = [] := by simpa [lines] using numbers.lines
      exact ⟨[], by simp [close, lines], none_held.symm⟩
    | cons line rest => exact ⟨[held], by simp [close, lines, numbers], by simp⟩

/-- The blocks that follow an open one take its lines and all content lines, in their order. -/
theorem exists_sources_ofLines {numbered : List (Text × Nat)} (inside : numbered ⊆ all)
    {opened : Option Block} {held : List Nat} (closed : opened = none → held = [])
    (taken : ∀ block ∈ opened, IsTaken heads all block held) :
    ∃ sources, List.Forall₂ (IsTaken heads all) (ofLines heads opened numbered) sources ∧
      sources.flatten = held ++ contentNumbers heads numbered := by
  induction numbered generalizing opened held with
  | nil => simpa [ofLines, contentNumbers] using exists_sources_close closed taken
  | cons pair rest ih =>
    obtain ⟨line, number⟩ := pair
    obtain ⟨listed, others⟩ := List.cons_subset.1 inside
    cases kind : lineKind heads line with
    | skip =>
      rw [ofLines_skip kind]
      simpa [contentNumbers, kind] using ih others closed taken
    | boundary =>
      obtain ⟨front, frontTaken, frontNumbers⟩ := exists_sources_close closed taken
      have opens : ∀ block ∈ some { heading := some line, lines := [], line := number },
          IsTaken heads all block [] := by
        rintro _ ⟨⟩
        exact ⟨by rintro _ ⟨⟩; exact ⟨listed, kind⟩, .nil⟩
      obtain ⟨back, backTaken, backNumbers⟩ := ih others (by simp) opens
      refine ⟨front ++ back, ?_, ?_⟩
      · rw [ofLines_boundary kind]
        exact List.rel_append frontTaken backTaken
      · simp [frontNumbers, backNumbers, contentNumbers, kind]
    | content =>
      have grows : ∀ block ∈ some (addContent opened line number),
          IsTaken heads all block (held ++ [number]) := by
        rintro _ ⟨⟩
        cases opened with
        | none =>
          rw [closed rfl]
          exact ⟨by simp [addContent], .cons listed .nil⟩
        | some block =>
          obtain ⟨heading, lines⟩ := taken block rfl
          exact ⟨heading, List.rel_append lines (.cons listed .nil)⟩
      obtain ⟨sources, each, numbers⟩ := ih others (by simp) grows
      refine ⟨sources, by rwa [ofLines_content kind], ?_⟩
      simp [numbers, contentNumbers, kind]

end

end Block

structure BlockReading.ComesFrom (reading : BlockReading) (lines : List Text) : Prop where
  name : ∀ header ∈ reading.headers.entries,
    ∃ line ∈ lines, ∃ value, header? line = some (header.1, value)
  value : ∀ header ∈ reading.headers.entries,
    ∃ line ∈ lines, ∃ name, header? line = some (name, header.2)
  body : reading.body ⊆ lines

theorem BlockReading.comesFrom_ofBlock (block : Block) : (ofBlock block).ComesFrom block.lines := by
  have read : ∀ pair ∈ headerPairs false (front block.lines),
      (∃ line ∈ block.lines, ∃ value, header? line = some (pair.1, value)) ∧
        ∃ line ∈ block.lines, ∃ name, header? line = some (name, pair.2) := by
    intro pair listed
    obtain ⟨line, inside, header⟩ := List.mem_filterMap.1 listed
    have here : line ∈ block.lines :=
      (List.takeWhile_prefix _).subset ((List.dropWhile_suffix _).subset inside)
    exact ⟨⟨line, here, pair.2, header⟩, line, here, pair.1, header⟩
  have all := HeaderList.forall_mem_ofList
    (P := fun name => ∃ line ∈ block.lines, ∃ value, header? line = some (name, value))
    (Q := fun value => ∃ line ∈ block.lines, ∃ name, header? line = some (name, value)) read
  rw [ofBlock_eq]
  exact ⟨fun header listed => (all header listed).1, fun header listed => (all header listed).2,
    (List.dropWhile_suffix _).subset⟩

namespace Document

/-- For each block of a text the numbers of its lines: together they are those of all content lines
in order, so that each of these is a line of one block only. -/
structure AreSources (heads : List Text) (text : Text) (sources : List (List Nat)) : Prop where
  taken : List.Forall₂ (Block.IsTaken heads (Text.numbered (Text.separatedLines text)))
    (Block.ofText heads text) sources
  all : sources.flatten = Block.contentNumbers heads (Text.numbered (Text.separatedLines text))
  increasing : sources.flatten.Pairwise (· < ·)

/-- The scan for declarations looks at a line as one. -/
def IsExamined (text : Text) (number : Nat) : Prop :=
  ∃ line, (line, number) ∈ Text.numbered (Text.terminatedLines text) ∧
    VariableScan.isDeclarationLine line = true

/-- The cutting into blocks skips a line, and the first reason for it is the given one. -/
def IsSkipped (heads : List Text) (text : Text) (reason : Block.SkipReason) (number : Nat) : Prop :=
  ∃ line, (line, number) ∈ Text.numbered (Text.separatedLines text) ∧
    Block.lineKind heads line = .skip ∧ Block.skipReason? heads line = some reason

def IsLineOf (sources : List (List Nat)) (number index : Nat) : Prop :=
  ∃ numbers ∈ sources[index]?, number ∈ numbers

/-- What a line comes to, in the eyes of the scan or of the cutting. -/
def HasFate (heads : List Text) (text : Text) (sources : List (List Nat)) (number : Nat) :
    Fate → Prop
  | .bound => ∃ line, (line, number) ∈ Text.numbered (Text.terminatedLines text) ∧
      ∃ name value, VariableScan.declaration? line = some (name, value)
  | .malformed => number ∈ (VariableScan.ofText text).malformed
  | .passed => IsSkipped heads text .blank number ∨ IsSkipped heads text .protectedHeading number
  | .boundary => ∃ line, (line, number) ∈ Text.numbered (Text.separatedLines text) ∧
      Block.lineKind heads line = .boundary
  | .content => ∃! index, IsLineOf sources number index

/-- The line of the number is the heading or a content line of a block. -/
def IsInBlock (heads : List Text) (text : Text) (sources : List (List Nat)) (number : Nat) : Prop :=
  (∃ block ∈ Block.ofText heads text, block.heading.isSome = true ∧ block.line = number) ∨
    ∃ index, IsLineOf sources number index

variable {heads : List Text} {text : Text}

theorem exists_areSources (heads : List Text) (text : Text) :
    ∃ sources, AreSources heads text sources := by
  obtain ⟨sources, taken, numbers⟩ := Block.exists_sources_ofLines
    (List.Subset.refl (Text.numbered (Text.separatedLines text))) (fun _ => rfl)
    (show ∀ block ∈ none, Block.IsTaken heads _ block [] from nofun)
  refine ⟨sources, taken, numbers, ?_⟩
  rw [numbers]
  refine List.Pairwise.sublist (List.filter_sublist.map Prod.snd) ?_
  rw [Text.numbered, List.zipIdx_map_snd]
  exact List.pairwise_lt_range'

theorem AreSources.exists_isTaken {sources : List (List Nat)} (h : AreSources heads text sources)
    {block : Block} (hb : block ∈ Block.ofText heads text) : ∃ numbers ∈ sources,
      Block.IsTaken heads (Text.numbered (Text.separatedLines text)) block numbers := by
  obtain ⟨index, bound, rfl⟩ := List.getElem_of_mem hb
  have same : index < sources.length := h.taken.length_eq ▸ bound
  exact ⟨sources[index], List.getElem_mem same,
    (List.forall₂_iff_get.1 h.taken).2 index bound same⟩

theorem exists_isLineOf_iff {sources : List (List Nat)} {number : Nat} :
    (∃ index, IsLineOf sources number index) ↔ number ∈ sources.flatten := by
  simp only [IsLineOf, List.mem_flatten, Option.mem_def]
  constructor
  · rintro ⟨index, numbers, found, inside⟩
    exact ⟨numbers, List.mem_of_getElem? found, inside⟩
  · rintro ⟨numbers, listed, inside⟩
    obtain ⟨index, found⟩ := List.mem_iff_getElem?.1 listed
    exact ⟨index, numbers, found, inside⟩

/-- Numbers that increase all through belong to one block each. -/
theorem isLineOf_unique {sources : List (List Nat)} (h : sources.flatten.Pairwise (· < ·))
    {number index other : Nat} (one : IsLineOf sources number index)
    (also : IsLineOf sources number other) : index = other := by
  wlog less : index < other generalizing index other
  · by_contra apart
    exact apart (this also one (by omega)).symm
  obtain ⟨numbers, found, inside⟩ := one
  obtain ⟨others, alsoFound, alsoInside⟩ := also
  obtain ⟨bound, rfl⟩ := List.getElem?_eq_some_iff.1 found
  obtain ⟨alsoBound, rfl⟩ := List.getElem?_eq_some_iff.1 alsoFound
  have before := List.pairwise_iff_getElem.1 (List.pairwise_flatten.1 h).2 _ _ bound alsoBound less
  exact absurd (before number inside number alsoInside) (lt_irrefl number)

theorem hasFate_content_iff_exists {sources : List (List Nat)} (h : AreSources heads text sources)
    {number : Nat} : HasFate heads text sources number .content ↔
      ∃ index, IsLineOf sources number index :=
  ⟨ExistsUnique.exists, fun ⟨index, inside⟩ =>
    ⟨index, inside, fun _ also => isLineOf_unique h.increasing also inside⟩⟩

def fateOf (heads : List Text) (line : Text) : Fate :=
  match Block.skipReason? heads line with
  | some .declaration => if (VariableScan.declaration? line).isSome then .bound else .malformed
  | some _ => .passed
  | none => if Block.lineKind heads line = .boundary then .boundary else .content

section

variable {piece : Text} {number : Nat}
  (listed : (piece, number) ∈ Text.numbered (Text.splitAt '\n' text))

include listed

theorem isExamined_iff : IsExamined text number ↔ ['@'] <+: Text.trim piece := by
  have drop (line : Text) : VariableScan.isDeclarationLine (Text.dropReturn line) = true ↔
      VariableScan.isDeclarationLine line = true := by
    rw [VariableScan.isDeclarationLine_dropReturn]
  rw [IsExamined, Text.exists_mem_terminatedLines_iff drop (by decide),
    Text.exists_mem_numbered_iff listed, VariableScan.isDeclarationLine_iff]

theorem isSkipped_iff (reason : Block.SkipReason) :
    IsSkipped heads text reason number ↔ Block.skipReason? heads piece = some reason := by
  have drop (line : Text) : (Block.lineKind heads (Text.dropReturn line) = .skip ∧
      Block.skipReason? heads (Text.dropReturn line) = some reason) ↔
        Block.lineKind heads line = .skip ∧ Block.skipReason? heads line = some reason := by
    rw [Block.lineKind_dropReturn, Block.skipReason?_dropReturn]
  rw [IsSkipped, Text.exists_mem_separatedLines_iff drop, Text.exists_mem_numbered_iff listed]
  exact and_iff_right_of_imp fun found => Block.isSome_skipReason?_iff.1 (by rw [found]; rfl)

theorem hasFate_bound_iff {sources : List (List Nat)} : HasFate heads text sources number .bound ↔
    ∃ name value, VariableScan.declaration? piece = some (name, value) := by
  rw [HasFate, Text.exists_mem_terminatedLines_iff
    (fun line => by rw [VariableScan.declaration?_dropReturn]) (by rintro ⟨_, _, ⟨⟩⟩),
    Text.exists_mem_numbered_iff listed]

theorem hasFate_malformed_iff {sources : List (List Nat)} :
    HasFate heads text sources number .malformed ↔ VariableScan.isMalformed piece = true := by
  have drop (line : Text) : VariableScan.isMalformed (Text.dropReturn line) = true ↔
      VariableScan.isMalformed line = true := by
    rw [VariableScan.isMalformed_dropReturn]
  rw [← Text.exists_mem_numbered_iff listed (P := fun line => VariableScan.isMalformed line = true),
    ← Text.exists_mem_terminatedLines_iff drop (by decide), HasFate, VariableScan.ofText_eq]
  simp

theorem exists_lineKind_iff (kind : LineKind) :
    (∃ line, (line, number) ∈ Text.numbered (Text.separatedLines text) ∧
      Block.lineKind heads line = kind) ↔ Block.lineKind heads piece = kind := by
  rw [Text.exists_mem_separatedLines_iff (fun line => by rw [Block.lineKind_dropReturn]),
    Text.exists_mem_numbered_iff listed]

theorem hasFate_content_iff {sources : List (List Nat)} (h : AreSources heads text sources) :
    HasFate heads text sources number .content ↔ Block.lineKind heads piece = .content := by
  rw [← exists_lineKind_iff listed, hasFate_content_iff_exists h, exists_isLineOf_iff, h.all,
    Block.contentNumbers]
  simp

theorem isExamined_iff_hasFate {sources : List (List Nat)} : IsExamined text number ↔
    HasFate heads text sources number .bound ∨ HasFate heads text sources number .malformed := by
  have declares : (VariableScan.declaration? piece).isSome = true →
      VariableScan.isDeclarationLine piece = true :=
    VariableScan.isDeclarationLine_of_declaration?
  rw [hasFate_bound_iff listed, hasFate_malformed_iff listed, isExamined_iff listed,
    ← VariableScan.isDeclarationLine_iff, VariableScan.isMalformed]
  cases declared : VariableScan.declaration? piece <;> grind

theorem hasFate_iff {sources : List (List Nat)} (h : AreSources heads text sources) (fate : Fate) :
    HasFate heads text sources number fate ↔ fateOf heads piece = fate := by
  have reason : (Block.skipReason? heads piece).isSome = true ↔
      Block.lineKind heads piece = .skip := Block.isSome_skipReason?_iff
  have start : VariableScan.isDeclarationLine piece = true ↔
      Block.skipReason? heads piece = some .declaration := by
    rw [VariableScan.isDeclarationLine_iff, Block.skipReason?_eq_declaration_iff]
  have declares : (VariableScan.declaration? piece).isSome = true →
      VariableScan.isDeclarationLine piece = true :=
    VariableScan.isDeclarationLine_of_declaration?
  have declared : (∃ name value, VariableScan.declaration? piece = some (name, value)) ↔
      (VariableScan.declaration? piece).isSome = true := by
    simp [Option.isSome_iff_exists]
  rw [fateOf]
  cases fate with
  | bound =>
    rw [hasFate_bound_iff listed, declared]
    grind
  | malformed =>
    rw [hasFate_malformed_iff listed, VariableScan.isMalformed, ← Option.not_isSome]
    grind
  | passed =>
    rw [HasFate, isSkipped_iff listed, isSkipped_iff listed]
    cases Block.skipReason? heads piece with
    | none => grind
    | some reason => cases reason <;> grind
  | boundary =>
    rw [HasFate, exists_lineKind_iff listed]
    grind
  | content =>
    rw [hasFate_content_iff listed h]
    cases kind : Block.lineKind heads piece <;> grind

end

example : (Text.splitAt '\n'
    "@a=1\r\r\n @b\n### A\r\nGET /\n\t\r\n###SEGAPI\n@c=3\r").map (fateOf ["SEGAPI"]) =
    [.bound, .malformed, .boundary, .content, .passed, .passed, .bound] := by decide +kernel

theorem hasFate_of_heading {sources : List (List Nat)} (h : AreSources heads text sources)
    {block : Block} (hb : block ∈ Block.ofText heads text) (headed : block.heading.isSome = true) :
    HasFate heads text sources block.line .boundary := by
  obtain ⟨line, heading⟩ := Option.isSome_iff_exists.1 headed
  obtain ⟨numbers, -, taken⟩ := h.exists_isTaken hb
  exact ⟨line, taken.heading line heading⟩

theorem isDeclarationLine_eq_false {block : Block} (hb : block ∈ Block.ofText heads text)
    {line : Text} (inside : line ∈ block.heading.toList ++ block.lines) :
    VariableScan.isDeclarationLine line = false := by
  have kind : Block.lineKind heads line ≠ .skip := by
    obtain heading | content := List.mem_append.1 inside
    · obtain ⟨sources, h⟩ := exists_areSources heads text
      obtain ⟨numbers, -, taken⟩ := h.exists_isTaken hb
      simp [(taken.heading line (Option.mem_toList.1 heading)).2]
    · simp [(Block.holdsContent_ofText heads text block hb).1.content line content]
  by_contra declares
  rw [Bool.not_eq_false, VariableScan.isDeclarationLine_iff] at declares
  have reason : Block.skipReason? heads line = some .declaration :=
    Block.skipReason?_eq_declaration_iff.2 declares
  exact kind (Block.isSome_skipReason?_iff.1 (by rw [reason]; rfl))

/-- The scan for declarations looks at exactly the lines that the cutting skips as declarations, and
binds or reports each of them; every line has one fate, and no declaration gets into a block. -/
theorem scanners_agree (heads : List Text) (text : Text) :
    (VariableScan.ofText text).table =
      .ofList ((Text.terminatedLines text).filterMap VariableScan.declaration?) ∧
    (∃ sources, AreSources heads text sources ∧
      ∀ piece number, (piece, number) ∈ Text.numbered (Text.splitAt '\n' text) →
        (IsExamined text number ↔ HasFate heads text sources number .bound ∨
          HasFate heads text sources number .malformed) ∧
        (IsExamined text number ↔ ['@'] <+: Text.trim piece) ∧
        (IsExamined text number ↔ IsSkipped heads text .declaration number) ∧
        (∃! fate, HasFate heads text sources number fate) ∧
        (IsExamined text number → ¬ IsInBlock heads text sources number)) ∧
    ∀ block ∈ Block.ofText heads text,
      (∀ line ∈ block.heading.toList ++ block.lines,
        VariableScan.isDeclarationLine line = false) ∧
      (BlockReading.ofBlock block).ComesFrom block.lines := by
  refine ⟨by rw [VariableScan.ofText_eq], ?_, fun block hb =>
    ⟨fun line => isDeclarationLine_eq_false hb, BlockReading.comesFrom_ofBlock block⟩⟩
  obtain ⟨sources, h⟩ := exists_areSources heads text
  refine ⟨sources, h, fun piece number listed => ?_⟩
  have fates : ∀ fate, HasFate heads text sources number fate ↔ fateOf heads piece = fate :=
    hasFate_iff listed h
  have examined : IsExamined text number ↔ HasFate heads text sources number .bound ∨
      HasFate heads text sources number .malformed := isExamined_iff_hasFate listed
  refine ⟨examined, isExamined_iff listed, ?_, ?_, ?_⟩
  · rw [isExamined_iff listed, isSkipped_iff listed, Block.skipReason?_eq_declaration_iff]
  · exact ⟨fateOf heads piece, (fates _).2 rfl, fun fate has => ((fates fate).1 has).symm⟩
  · rw [examined, fates, fates]
    rintro declares (⟨block, hb, headed, rfl⟩ | inside)
    · have boundary := (fates .boundary).1 (hasFate_of_heading h hb headed)
      simp [boundary] at declares
    · have content := (hasFate_content_iff_exists h).2 inside
      rw [fates] at content
      simp [content] at declares

end Document

end HttpContract
