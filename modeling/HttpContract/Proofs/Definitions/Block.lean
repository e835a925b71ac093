import HttpContract.Definitions.Block
import HttpContract.Proofs.Text.Basic
import HttpContract.Proofs.Text.Lines

/-! What cutting a text into blocks keeps of it: blocks are numbered by their first lines, which
follow each other, and hold content lines of the text and nothing else. -/
namespace HttpContract
namespace Block

variable {heads : List Text}

theorem isProtected_iff {line : Text} : isProtected heads line = true ↔
    ∃ rest, line = mark ++ rest ∧ ∃ head ∈ heads, head ≠ [] ∧ head <+: Text.trimStart rest := by
  cases h : Text.strip? mark line with
  | none =>
    have other : ∀ rest, line ≠ mark ++ rest := fun rest same => by
      rw [Text.strip?_eq_some_iff.2 same] at h
      cases h
    simp [isProtected, h, other]
  | some rest =>
    obtain rfl := Text.strip?_eq_some_iff.1 h
    simp [isProtected, h, Text.startsWith_iff]

theorem head?_of_mark {line : Text} (h : mark <+: line) : line.head? = some '#' := by
  obtain ⟨rest, rfl⟩ := h
  rfl

/-- Content is what is neither blank nor starts like a declaration or a heading. -/
theorem lineKind_eq_content_iff {line : Text} : lineKind heads line = .content ↔
    Text.trim line ≠ [] ∧ Text.startsWith ['@'] (Text.trim line) = false ∧
      ¬ mark <+: Text.trim line := by
  rw [lineKind, ← Text.startsWith_iff]
  by_cases hm : Text.startsWith mark (Text.trim line) = true
  · simp only [hm, if_true, not_true_eq_false, and_false, iff_false]
    split <;> simp
  · have free : isProtected heads (Text.trim line) = false := by
      rw [Bool.eq_false_iff, ne_eq, isProtected_iff]
      rintro ⟨rest, same, -⟩
      exact hm (Text.startsWith_iff.2 ⟨rest, same.symm⟩)
    simp [hm, free]

theorem lineKind_eq_boundary_iff {line : Text} : lineKind heads line = .boundary ↔
    mark <+: Text.trim line ∧ isProtected heads (Text.trim line) = false := by
  rw [lineKind, ← Text.startsWith_iff]
  by_cases hm : Text.startsWith mark (Text.trim line) = true
  · have start := head?_of_mark (Text.startsWith_iff.1 hm)
    have more : (Text.trim line).isEmpty = false := by
      rw [List.isEmpty_eq_false_iff]
      rintro none_left
      simp [none_left] at start
    have other : Text.startsWith ['@'] (Text.trim line) = false :=
      Text.startsWith_eq_false (by simp [start])
    cases isProtected heads (Text.trim line) <;> simp [hm, more, other]
  · rw [Bool.not_eq_true] at hm
    simp only [hm, Bool.false_eq_true, if_false, false_and, iff_false]
    split <;> simp

@[simp] theorem lineKind_dropReturn (line : Text) :
    lineKind heads (Text.dropReturn line) = lineKind heads line := by
  rw [lineKind, lineKind, Text.trim_dropReturn]

section

variable {opened : Option Block} {line : Text} {number : Nat} {rest : List (Text × Nat)}

@[simp] theorem ofLines_skip (h : lineKind heads line = .skip) :
    ofLines heads opened ((line, number) :: rest) = ofLines heads opened rest := by
  simp [ofLines, h]

@[simp] theorem ofLines_boundary (h : lineKind heads line = .boundary) :
    ofLines heads opened ((line, number) :: rest) = close opened ++
      ofLines heads (some { heading := some line, lines := [], line := number }) rest := by
  simp [ofLines, h]

@[simp] theorem ofLines_content (h : lineKind heads line = .content) :
    ofLines heads opened ((line, number) :: rest) =
      ofLines heads (some (addContent opened line number)) rest := by
  simp [ofLines, h]

end

theorem ofLines_skips {lines : List Text} (h : ∀ line ∈ lines, lineKind heads line = .skip)
    (opened : Option Block) (rest : List Text) (first : Nat) :
    ofLines heads opened ((lines ++ rest).zipIdx first) =
      ofLines heads opened (rest.zipIdx (first + lines.length)) := by
  induction lines generalizing first with
  | nil => rfl
  | cons line lines ih =>
    rw [List.cons_append, List.zipIdx_cons, ofLines_skip (h line (by simp)),
      ih fun line hl => h line (by simp [hl])]
    congr 2
    rw [List.length_cons]
    omega

theorem ofLines_filter {lines : List Text} (h : ∀ line ∈ lines, lineKind heads line ≠ .boundary)
    (block : Block) (rest : List Text) (first : Nat) :
    ofLines heads (some block) ((lines ++ rest).zipIdx first) =
      ofLines heads (some { block with
        lines := block.lines ++ lines.filter fun line => lineKind heads line = .content })
        (rest.zipIdx (first + lines.length)) := by
  induction lines generalizing block first with
  | nil => simp
  | cons line lines ih =>
    have others : ∀ line ∈ lines, lineKind heads line ≠ .boundary :=
      fun line hl => h line (List.mem_cons_of_mem _ hl)
    have next : first + 1 + lines.length = first + (line :: lines).length := by
      rw [List.length_cons]
      omega
    rw [List.cons_append, List.zipIdx_cons]
    cases kind : lineKind heads line with
    | skip => rw [ofLines_skip kind, ih others, next, List.filter_cons_of_neg (by simp [kind])]
    | boundary => exact absurd kind (h line (by simp))
    | content =>
      rw [ofLines_content kind, ih others, next, List.filter_cons_of_pos (by simp [kind])]
      simp [addContent]

theorem ofLines_contents {lines : List Text} (h : ∀ line ∈ lines, lineKind heads line = .content)
    (block : Block) (rest : List Text) (first : Nat) :
    ofLines heads (some block) ((lines ++ rest).zipIdx first) =
      ofLines heads (some { block with lines := block.lines ++ lines })
        (rest.zipIdx (first + lines.length)) := by
  have all : lines.filter (fun line => lineKind heads line = .content) = lines :=
    List.filter_eq_self.2 fun line hl => by simp [h line hl]
  rw [ofLines_filter fun line hl => by simp [h line hl], all]

/-- A heading ends the open block, whatever it holds. -/
theorem ofLines_of_boundary {lines : List Text}
    (h : ∀ line ∈ lines.head?, lineKind heads line = .boundary) (opened : Option Block)
    (first : Nat) : ofLines heads opened (lines.zipIdx first) =
      close opened ++ ofLines heads none (lines.zipIdx first) := by
  cases lines with
  | nil => simp [ofLines, close]
  | cons line lines =>
    have kind := h line rfl
    rw [List.zipIdx_cons, ofLines_boundary kind, ofLines_boundary kind]
    rfl

/-- Lines that are skipped might as well not be there. -/
@[simp] theorem ofLines_shown (opened : Option Block) (numbered : List (Text × Nat)) :
    ofLines heads opened (numbered.filter fun pair => lineKind heads pair.1 ≠ .skip) =
      ofLines heads opened numbered := by
  induction numbered generalizing opened with
  | nil => rfl
  | cons pair rest ih =>
    obtain ⟨line, number⟩ := pair
    cases kind : lineKind heads line with
    | skip => rw [List.filter_cons_of_neg (by simp [kind]), ih, ofLines_skip kind]
    | boundary =>
      rw [List.filter_cons_of_pos (by simp [kind]), ofLines_boundary kind, ofLines_boundary kind,
        ih]
    | content =>
      rw [List.filter_cons_of_pos (by simp [kind]), ofLines_content kind, ofLines_content kind, ih]

def renumber (f : Nat → Nat) (block : Block) : Block := { block with line := f block.line }

@[simp] theorem heading_renumber (f : Nat → Nat) (block : Block) :
    (block.renumber f).heading = block.heading := rfl

@[simp] theorem lines_renumber (f : Nat → Nat) (block : Block) :
    (block.renumber f).lines = block.lines := rfl

@[simp] theorem close_renumber (f : Nat → Nat) (opened : Option Block) :
    close (opened.map (renumber f)) = (close opened).map (renumber f) := by
  cases opened with
  | none => rfl
  | some block => cases hl : block.lines <;> simp [close, hl]

@[simp]
theorem addContent_renumber (f : Nat → Nat) (opened : Option Block) (line : Text) (number : Nat) :
    addContent (opened.map (renumber f)) line (f number) =
      (addContent opened line number).renumber f := by cases opened <;> rfl

/-- Numbers are only carried along: lines may be numbered otherwise before or after the cutting. -/
@[simp]
theorem ofLines_renumber (f : Nat → Nat) (opened : Option Block) (numbered : List (Text × Nat)) :
    ofLines heads (opened.map (renumber f)) (numbered.map (Prod.map id f)) =
      (ofLines heads opened numbered).map (renumber f) := by
  induction numbered generalizing opened with
  | nil => exact close_renumber f opened
  | cons pair rest ih =>
    obtain ⟨line, number⟩ := pair
    rw [List.map_cons, Prod.map_apply, id]
    cases kind : lineKind heads line with
    | skip => rw [ofLines_skip kind, ofLines_skip kind, ih]
    | boundary =>
      have opens := ih (some { heading := some line, lines := [], line := number })
      rw [ofLines_boundary kind, ofLines_boundary kind, List.map_append, close_renumber, ← opens]
      rfl
    | content =>
      have grows := ih (some (addContent opened line number))
      rw [ofLines_content kind, ofLines_content kind, addContent_renumber, ← grows]
      rfl

/-- The property of a block that is closed, if there is one. -/
theorem forall_close {p : Block → Prop} {opened : Option Block} (h : ∀ block ∈ opened, p block) :
    ∀ block ∈ close opened, p block ∧ block.lines ≠ [] := by
  cases opened with
  | none => simp [close]
  | some block => cases hl : block.lines <;> simp_all [close]

theorem close_lines_sublist (opened : Option Block) :
    ((close opened).map line).Sublist (opened.map line).toList := by
  cases opened with
  | none => exact .refl _
  | some block => cases hl : block.lines <;> simp [close, hl]

/-- Blocks are numbered in order, each by a line of its own. -/
theorem lines_sublist (heads : List Text) (opened : Option Block) (lines : List Text)
    (first : Nat) : ((ofLines heads opened (lines.zipIdx first)).map line).Sublist
      ((opened.map line).toList ++ List.range' first lines.length) := by
  induction lines generalizing opened first with
  | nil => simpa [ofLines] using close_lines_sublist opened
  | cons text lines ih =>
    rw [List.zipIdx_cons, List.length_cons, List.range'_succ]
    cases kind : lineKind heads text with
    | skip =>
      rw [ofLines_skip kind]
      exact (ih opened (first + 1)).trans
        ((List.Sublist.refl _).append (List.sublist_cons_self _ _))
    | boundary =>
      rw [ofLines_boundary kind, List.map_append]
      exact (close_lines_sublist opened).append (ih _ (first + 1))
    | content =>
      rw [ofLines_content kind]
      refine (ih _ (first + 1)).trans ?_
      cases opened with
      | none => exact .refl _
      | some block =>
        exact (List.Sublist.refl _).append (List.sublist_cons_self _ _)

theorem pairwise_line_ofText (heads : List Text) (text : Text) :
    ((ofText heads text).map line).Pairwise (· < ·) := by
  have sublist := lines_sublist heads none (Text.separatedLines text) 1
  exact List.Pairwise.sublist sublist List.pairwise_lt_range'

structure HoldsContent (heads : List Text) (lines : List Text) (block : Block) : Prop where
  content : ∀ line ∈ block.lines, lineKind heads line = .content
  source : ∀ line ∈ block.lines, line ∈ lines

theorem holdsContent_addContent {lines : List Text} {opened : Option Block} {line : Text}
    (h : ∀ block ∈ opened, HoldsContent heads lines block) (hl : line ∈ lines)
    (kind : lineKind heads line = .content) (number : Nat) :
    HoldsContent heads lines (addContent opened line number) := by
  cases opened with
  | none => exact ⟨by simp [addContent, kind], by simp [addContent, hl]⟩
  | some block =>
    obtain ⟨content, source⟩ := h block rfl
    constructor <;> intro other ho <;> obtain ho | ho := List.mem_append.1 ho
    · exact content other ho
    · exact List.mem_singleton.1 ho ▸ kind
    · exact source other ho
    · exact List.mem_singleton.1 ho ▸ hl

theorem holdsContent_ofLines {lines : List Text} {numbered : List (Text × Nat)}
    {opened : Option Block} (h : ∀ block ∈ opened, HoldsContent heads lines block)
    (hn : ∀ pair ∈ numbered, pair.1 ∈ lines) :
    ∀ block ∈ ofLines heads opened numbered, HoldsContent heads lines block ∧ block.lines ≠ [] := by
  induction numbered generalizing opened with
  | nil => exact forall_close h
  | cons pair rest ih =>
    obtain ⟨text, number⟩ := pair
    have hr : ∀ pair ∈ rest, pair.1 ∈ lines := fun pair hp => hn pair (by simp [hp])
    cases kind : lineKind heads text with
    | skip => rw [ofLines_skip kind]; exact ih h hr
    | boundary =>
      rw [ofLines_boundary kind]
      intro block hb
      obtain hb | hb := List.mem_append.1 hb
      · exact forall_close h block hb
      · refine ih ?_ hr block hb
        intro _ ho
        obtain rfl := Option.some.inj ho
        exact ⟨by simp, by simp⟩
    | content =>
      rw [ofLines_content kind]
      refine ih ?_ hr
      intro _ ho
      obtain rfl := Option.some.inj ho
      exact holdsContent_addContent h (hn (text, number) (by simp)) kind number

theorem holdsContent_ofText (heads : List Text) (text : Text) :
    ∀ block ∈ ofText heads text,
      HoldsContent heads (Text.separatedLines text) block ∧ block.lines ≠ [] :=
  holdsContent_ofLines (by simp) fun _ hp => List.fst_mem_of_mem_zipIdx hp

theorem newline_not_mem_of_mem_ofText {text line : Text} {block : Block}
    (hb : block ∈ ofText heads text) (hl : line ∈ block.lines) : '\n' ∉ line :=
  Text.newline_not_mem_of_mem_separatedLines
    ((holdsContent_ofText heads text block hb).1.source _ hl)

end Block
end HttpContract
