import HttpContract.Proofs.Definitions.Block
import HttpContract.Proofs.Definitions.Warning
import Mathlib.Data.List.DropRight
import Mathlib.Data.List.Forall2

/-! The numbers in the warnings about request lines that come too late. The lines of a block are
counted on from its first line, so each line of the text that the block has dropped in between makes
the number too small by one. -/
namespace HttpContract
namespace LineNumber

open BlockReading

variable {heads : List Text}

def isSkipped (heads : List Text) (line : Text) : Bool := Block.lineKind heads line == .skip

def isBoundary (heads : List Text) (line : Text) : Bool := Block.lineKind heads line == .boundary

def isContent (heads : List Text) (line : Text) : Bool := Block.lineKind heads line == .content

/-- The lines behind the last heading, or without a heading those from the first content line on:
what the block that is open behind some lines has run over. -/
def openPart (heads : List Text) (before : List Text) : List Text :=
  if before.any (isBoundary heads) then before.rtakeWhile fun line => !isBoundary heads line
  else before.dropWhile (isSkipped heads)

def kept (heads : List Text) (before : List Text) : List Text :=
  (openPart heads before).filter (isContent heads)

def dropped (heads : List Text) (before : List Text) : Nat :=
  (openPart heads before).countP (isSkipped heads)

/-- Whether a line is a request line that its block ignores: there is one before it, and the body
has not started. -/
def isIgnored (heads : List Text) (before : List Text) (line : Text) : Bool :=
  isContent heads line && isRequest line && (kept heads before).any isRequest &&
    !(kept heads before).any opensBody

def ignoredRequests (heads : List Text) (lines : List Text) : List Nat :=
  ((lines.zipIdx 1).filter fun (line, number) =>
    isIgnored heads (lines.take (number - 1)) line).map Prod.snd

theorem openPart_of_skipped {before : List Text}
    (h : ∀ line ∈ before, isSkipped heads line = true) : openPart heads before = [] := by
  rw [openPart, if_neg]
  · exact List.dropWhile_eq_nil_iff.2 h
  · simp only [List.any_eq_true, not_exists, not_and, Bool.not_eq_true]
    intro line hl
    have skipped := h line hl
    rw [isSkipped, beq_iff_eq] at skipped
    simp [isBoundary, skipped]

theorem openPart_boundary {before : List Text} {line : Text}
    (h : Block.lineKind heads line = .boundary) : openPart heads (before ++ [line]) = [] := by
  have boundary : isBoundary heads line = true := by simp [isBoundary, h]
  simp [openPart, boundary]

/-- Behind the first line that is not skipped, every line but a heading is run over. -/
theorem openPart_concat {before : List Text} {line : Text}
    (inside : isBoundary heads line = false)
    (live : isSkipped heads line = false ∨ ∃ other ∈ before, isSkipped heads other = false) :
    openPart heads (before ++ [line]) = openPart heads before ++ [line] := by
  simp only [openPart, List.any_append, List.any_cons, List.any_nil, inside, Bool.or_false]
  split
  · rw [List.rtakeWhile_concat_pos _ _ _ (by simp [inside])]
  · rw [List.dropWhile_append]
    cases hd : before.dropWhile (isSkipped heads) with
    | cons first rest => simp
    | nil =>
      have skipped := List.dropWhile_eq_nil_iff.1 hd
      obtain content | ⟨other, ho, content⟩ := live
      · simp [content]
      · exact absurd (skipped other ho) (by simp [content])

/-- No heading stands in what a block has run over. -/
theorem length_openPart (before : List Text) : (openPart heads before).length =
    (kept heads before).length + dropped heads before := by
  have inside : ∀ line ∈ openPart heads before, isBoundary heads line = false := by
    intro line hl
    rw [openPart] at hl
    split at hl
    · simpa using List.mem_rtakeWhile_imp hl
    · rename_i none_left
      have mem := (List.dropWhile_suffix _).subset hl
      simp only [List.any_eq_true, not_exists, not_and, Bool.not_eq_true] at none_left
      exact none_left line mem
  rw [kept, dropped, ← List.countP_eq_length_filter]
  generalize openPart heads before = lines at inside ⊢
  induction lines with
  | nil => rfl
  | cons line lines ih =>
    have := ih fun other ho => inside other (by simp [ho])
    have one := inside line (by simp)
    simp only [List.length_cons, List.countP_cons]
    cases kind : Block.lineKind heads line <;>
      simp [isSkipped, isContent, isBoundary, kind] at one ⊢ <;> omega

/-- What the open block has to do with the lines before it. -/
inductive IsOpen (heads : List Text) (before : List Text) : Option Block → Prop
  | closed (skipped : ∀ line ∈ before, isSkipped heads line = true) : IsOpen heads before none
  | opened {block : Block} (live : ∃ line ∈ before, isSkipped heads line = false)
    (lines_eq : block.lines = kept heads before)
    (counted : block.firstLine + (openPart heads before).length = before.length + 1) :
    IsOpen heads before (some block)

theorem isOpen_skip {before : List Text} {line : Text} {opened : Option Block}
    (h : IsOpen heads before opened) (kind : Block.lineKind heads line = .skip) :
    IsOpen heads (before ++ [line]) opened := by
  have skip : isSkipped heads line = true := by simp [isSkipped, kind]
  have inside : isBoundary heads line = false := by simp [isBoundary, kind]
  have other : isContent heads line = false := by simp [isContent, kind]
  cases h with
  | closed skipped =>
    exact .closed fun _ hl => (List.mem_append.1 hl).elim (skipped _)
      fun hl => List.mem_singleton.1 hl ▸ skip
  | opened live lines_eq counted =>
    have part := openPart_concat inside (.inr live)
    obtain ⟨found, hf, content⟩ := live
    refine .opened ⟨found, by simp [hf], content⟩ ?_ ?_
    · rw [lines_eq, kept, kept, part, List.filter_append, List.filter_cons]
      simp [other]
    · rw [part, List.length_append, List.length_append]
      omega

theorem isOpen_boundary (before : List Text) {line : Text}
    (kind : Block.lineKind heads line = .boundary) : IsOpen heads (before ++ [line])
      (some { heading := some line, lines := [], line := before.length + 1 }) := by
  refine .opened ⟨line, by simp, by simp [isSkipped, kind]⟩ ?_ ?_
  · simp [kept, openPart_boundary kind]
  · simp [openPart_boundary kind, Block.firstLine]

theorem isOpen_content {before : List Text} {line : Text} {opened : Option Block}
    (h : IsOpen heads before opened) (kind : Block.lineKind heads line = .content) :
    IsOpen heads (before ++ [line]) (some (Block.addContent opened line (before.length + 1))) := by
  have inside : isBoundary heads line = false := by simp [isBoundary, kind]
  have live : isSkipped heads line = false := by simp [isSkipped, kind]
  have content : isContent heads line = true := by simp [isContent, kind]
  have part : openPart heads (before ++ [line]) = openPart heads before ++ [line] :=
    openPart_concat inside (.inl live)
  cases h with
  | closed skipped =>
    rw [openPart_of_skipped skipped, List.nil_append] at part
    refine .opened ⟨line, by simp, live⟩ ?_ ?_
    · simp [Block.addContent, kept, part, content]
    · simp [Block.addContent, Block.firstLine, part]
  | @opened block _ lines_eq counted =>
    refine .opened ⟨line, by simp, live⟩ ?_ ?_
    · rw [Block.addContent, lines_eq, kept, kept, part, List.filter_append]
      simp [content]
    · have same : (Block.addContent (some block) line (before.length + 1)).firstLine =
          block.firstLine := rfl
      rw [same, part, List.length_append, List.length_append]
      omega

def lateNumbers (opened : Option Block) : List Nat :=
  opened.elim [] fun block => (ofBlock block).extra

/-- One content line adds a number exactly if it is an ignored request line. -/
theorem lateNumbers_addContent {before : List Text} {line : Text} {opened : Option Block}
    (h : IsOpen heads before opened) (kind : Block.lineKind heads line = .content) :
    lateNumbers (some (Block.addContent opened line (before.length + 1))) =
      lateNumbers opened ++ if isIgnored heads before line
        then [before.length + 1 - dropped heads before] else [] := by
  have content : isContent heads line = true := by simp [isContent, kind]
  cases h with
  | closed skipped =>
    have nothing : kept heads before = [] := by simp [kept, openPart_of_skipped skipped]
    have short : (requestNumbers (before.length + 1) (front [line])).length ≤ 1 := by
      refine (List.length_map ..).trans_le ((List.length_filter_le ..).trans ?_)
      rw [List.length_zipIdx]
      exact (List.takeWhile_prefix _).length_le
    simp only [lateNumbers, Block.addContent, Option.elim_some, Option.elim_none, isIgnored,
      nothing, List.any_nil, Bool.and_false, Bool.false_and, ofBlock_eq, Block.firstLine]
    exact List.drop_eq_nil_of_le short
  | @opened block _ lines_eq counted =>
    have number : block.firstLine + block.lines.length =
        before.length + 1 - dropped heads before := by
      have := @length_openPart heads before
      rw [← lines_eq] at this
      omega
    have added : ofBlock (Block.addContent (some block) line (before.length + 1)) =
        (ofBlock block).addLine line (block.firstLine + block.lines.length) :=
      addLines_concat {} block.firstLine block.lines line
    have read := ofBlock_eq block
    simp only [lateNumbers, Option.elim_some, added, isIgnored, ← lines_eq, content, number,
      Bool.true_and]
    -- In the body the line is kept as it is; before it only a second request line is noted.
    cases opens : block.lines.any opensBody with
    | true =>
      have started : (ofBlock block).body ≠ [] := by
        rw [read]
        intro none_body
        rw [bodyLines_eq_nil_iff.1 none_body] at opens
        cases opens
      rw [addLine_of_body started]
      simp
    | false =>
      have waiting : (ofBlock block).body = [] := by rw [read]; exact bodyLines_eq_nil_iff.2 opens
      have seen : (ofBlock block).request.isSome = block.lines.any isRequest := by
        rw [read, front_eq_self opens]
        exact isSome_findSome?_request? block.lines
      cases hr : request? line with
      | some request =>
        rw [addLine_of_request waiting hr]
        simp [seen, isRequest, hr]
      | none =>
        cases hb : opensBody line with
        | true => rw [addLine_of_opensBody waiting hb]; simp [isRequest, hr]
        | false => rw [addLine_of_other waiting hb hr]; simp [isRequest, hr]

theorem flatMap_close (opened : Option Block) :
    (Block.close opened).flatMap (fun block => (ofBlock block).extra) = lateNumbers opened := by
  cases opened with
  | none => rfl
  | some block =>
    cases hl : block.lines with
    | nil => simp [Block.close, hl, lateNumbers, ofBlock_eq, front]
    | cons line lines => simp [Block.close, hl, lateNumbers]

/-- The numbers in the warnings of all blocks, counted on behind some lines of the text. -/
theorem flatMap_ofLines (before rest : List Text) {opened : Option Block}
    (h : IsOpen heads before opened) :
    (Block.ofLines heads opened (rest.zipIdx (before.length + 1))).flatMap
        (fun block => (ofBlock block).extra) =
      lateNumbers opened ++ ((rest.zipIdx (before.length + 1)).filter fun (line, number) =>
        isIgnored heads ((before ++ rest).take (number - 1)) line).map fun (_, number) =>
          number - dropped heads ((before ++ rest).take (number - 1)) := by
  -- The induction moves one line after another from `rest` to the end of `before`.
  induction rest generalizing before opened with
  | nil => simpa [Block.ofLines] using flatMap_close opened
  | cons line rest ih =>
    have later := fun opened' => @ih (before ++ [line]) opened'
    simp only [List.append_assoc, List.singleton_append, List.length_append,
      List.length_singleton] at later
    rw [List.zipIdx_cons, List.filter_cons]
    simp only [Nat.add_sub_cancel, List.take_left]
    cases kind : Block.lineKind heads line with
    | skip =>
      have passed : isIgnored heads before line = false := by simp [isIgnored, isContent, kind]
      rw [Block.ofLines_skip kind, later _ (isOpen_skip h kind), passed]
      rfl
    | boundary =>
      have passed : isIgnored heads before line = false := by simp [isIgnored, isContent, kind]
      rw [Block.ofLines_boundary kind, List.flatMap_append, flatMap_close,
        later _ (isOpen_boundary before kind), passed]
      simp [lateNumbers, ofBlock_eq, front]
    | content =>
      rw [Block.ofLines_content kind, later _ (isOpen_content h kind),
        lateNumbers_addContent h kind]
      cases isIgnored heads before line <;> simp

theorem extra_eq (heads : List Text) (text : Text) :
    (Document.ofText heads text).warnings.filterMap Warning.extraLine? =
      (ignoredRequests heads (Text.separatedLines text)).map fun number =>
        number - dropped heads ((Text.separatedLines text).take (number - 1)) := by
  have start : IsOpen heads [] none := .closed (by simp)
  have counted := flatMap_ofLines [] (Text.separatedLines text) start
  rw [Document.filterMap_warnings _ _ _ fun _ => rfl]
  simp only [Block.extraLine?_testCase?]
  rw [ignoredRequests, List.map_map]
  exact counted

theorem dropped_le (before : List Text) : dropped heads before ≤ before.length := by
  have counted : dropped heads before ≤ (openPart heads before).length := List.countP_le_length
  refine counted.trans ?_
  rw [openPart]
  split
  · exact (List.rtakeWhile_suffix _ _).length_le
  · exact (List.dropWhile_suffix _).length_le

theorem dropped_lt {lines : List Text} {number : Nat} (h : number ∈ ignoredRequests heads lines) :
    dropped heads (lines.take (number - 1)) < number := by
  obtain ⟨⟨line, other⟩, hp, same⟩ := List.mem_map.1 h
  obtain rfl : number = other := same.symm
  have positive := List.le_snd_of_mem_zipIdx (List.mem_filter.1 hp).1
  have bound := @dropped_le heads (lines.take (number - 1))
  have short := List.length_take_le (number - 1) lines
  omega

end LineNumber

namespace Document

open LineNumber

/-- The warnings are about the ignored request lines, one for each and in their order. The number in
a warning is short of that of its line by what the block has dropped before the line, so all numbers
are right exactly if nothing was dropped before an ignored request line. -/
theorem extraRequestLine_numbers (heads : List Text) (text : Text) :
    let lines := Text.separatedLines text
    let ignored := ignoredRequests heads lines
    let warned := (ofText heads text).warnings.filterMap Warning.extraLine?
    let lost := fun number => dropped heads (lines.take (number - 1))
    List.Forall₂ (fun number line => line + lost number = number) ignored warned ∧
      (warned = ignored ↔ ∀ number ∈ ignored, lost number = 0) := by
  intro lines ignored warned lost
  have told : warned = ignored.map fun number => number - lost number := extra_eq heads text
  have below : ∀ number ∈ ignored, lost number < number := fun number hn => dropped_lt hn
  rw [told]
  constructor
  · rw [List.forall₂_map_right_iff, List.forall₂_same]
    intro number hn
    have := below number hn
    omega
  · conv_lhs => rhs; rw [← List.map_id ignored]
    rw [List.map_inj_left]
    refine forall₂_congr fun number hn => ?_
    have := below number hn
    rw [id]
    omega

/-- A blank line between the heading and the request lines. -/
theorem extraRequestLine_short :
    let text : Text := "### A\n\nGET /a\nGET /b"
    ignoredRequests [] (Text.separatedLines text) = [4] ∧
      (ofText [] text).warnings.filterMap Warning.extraLine? = [3] := by
  intro text
  refine ⟨by decide, ?_⟩
  rw [extra_eq]
  decide

end Document
end HttpContract
