import HttpContract.Definitions.Reading
import HttpContract.Proofs.Definitions.Block

/-! How the lines of a text are shared out among its blocks. The headings cut the text into
sections, one before the first heading and one behind each; a section with content is a block, and
its content is that of the block. -/
namespace HttpContract
namespace Block

variable {heads : List Text}

/-- Whether a line is content, which no protected heading changes: it is not blank, and it starts
neither like a declaration nor like a heading. -/
def isContentLine (line : Text) : Bool :=
  let trimmed := Text.trim line
  !trimmed.isEmpty && !Text.startsWith ['@'] trimmed && !Text.startsWith mark trimmed

/-- Whether a line is a heading that starts a block: its remainder is not a protected one. -/
def isBoundaryLine (heads : List Text) (line : Text) : Bool :=
  let trimmed := Text.trim line
  Text.startsWith mark trimmed && !isProtected heads trimmed

/-- The content of the section that the lines begin with: what stands before the next heading, or
before the end. -/
def sectionContent (heads : List Text) (lines : List Text) : List Text :=
  (lines.takeWhile fun line => !isBoundaryLine heads line).filter isContentLine

def headed (heads : List Text) : Nat → List Text → List Block
  | _, [] => []
  | first, line :: rest =>
    (if isBoundaryLine heads line then
      close (some { heading := some line, lines := sectionContent heads rest, line := first })
      else []) ++ headed heads (first + 1) rest

theorem isContentLine_eq (heads : List Text) (line : Text) :
    isContentLine line = decide (lineKind heads line = .content) := by
  rw [Bool.eq_iff_iff, decide_eq_true_iff, lineKind_eq_content_iff, ← Text.startsWith_iff]
  simp [isContentLine, and_assoc]

theorem isBoundaryLine_eq (line : Text) :
    isBoundaryLine heads line = decide (lineKind heads line = .boundary) := by
  rw [Bool.eq_iff_iff, decide_eq_true_iff, lineKind_eq_boundary_iff, ← Text.startsWith_iff]
  simp [isBoundaryLine]

section

/-! One line more, of each kind. -/

variable {line : Text} {first : Nat} {rest : List Text}

@[simp] theorem sectionContent_skip (kind : lineKind heads line = .skip) :
    sectionContent heads (line :: rest) = sectionContent heads rest := by
  simp [sectionContent, isBoundaryLine_eq, isContentLine_eq heads, kind]

@[simp] theorem sectionContent_boundary (kind : lineKind heads line = .boundary) :
    sectionContent heads (line :: rest) = [] := by
  simp [sectionContent, isBoundaryLine_eq, kind]

@[simp] theorem sectionContent_content (kind : lineKind heads line = .content) :
    sectionContent heads (line :: rest) = line :: sectionContent heads rest := by
  simp [sectionContent, isBoundaryLine_eq, isContentLine_eq heads, kind]

@[simp] theorem headed_boundary (kind : lineKind heads line = .boundary) :
    headed heads first (line :: rest) =
      close (some { heading := some line, lines := sectionContent heads rest, line := first }) ++
        headed heads (first + 1) rest := by
  simp [headed, isBoundaryLine_eq, kind]

@[simp] theorem headed_other (kind : lineKind heads line ≠ .boundary) :
    headed heads first (line :: rest) = headed heads (first + 1) rest := by
  simp [headed, isBoundaryLine_eq, kind]

end

theorem ofLines_some (block : Block) (first : Nat) (lines : List Text) :
    ofLines heads (some block) (lines.zipIdx first) =
      close (some { block with lines := block.lines ++ sectionContent heads lines }) ++
        headed heads first lines := by
  induction lines generalizing block first with
  | nil => simp [ofLines, sectionContent, headed]
  | cons line rest ih =>
    rw [List.zipIdx_cons]
    cases kind : lineKind heads line with
    | skip => rw [ofLines_skip kind, ih, sectionContent_skip kind, headed_other (by simp [kind])]
    | boundary =>
      rw [ofLines_boundary kind, ih, sectionContent_boundary kind, headed_boundary kind,
        List.append_nil]
      rfl
    | content =>
      rw [ofLines_content kind, ih, sectionContent_content kind, headed_other (by simp [kind]),
        addContent, List.append_assoc]
      rfl

/-- The blocks of lines are those of the section before the first heading and of the headings. -/
theorem ofLines_none (first : Nat) (lines : List Text) :
    ofLines heads none (lines.zipIdx first) =
      close (some { heading := none
                    lines := sectionContent heads lines
                    line := first + lines.findIdx isContentLine }) ++
        headed heads first lines := by
  induction lines generalizing first with
  | nil => rfl
  | cons line rest ih =>
    rw [List.zipIdx_cons, List.findIdx_cons, isContentLine_eq heads]
    cases kind : lineKind heads line with
    | skip =>
      rw [ofLines_skip kind, ih, sectionContent_skip kind, headed_other (by simp [kind])]
      simp [Nat.add_assoc, Nat.add_comm 1]
    | boundary =>
      rw [ofLines_boundary kind, ofLines_some, sectionContent_boundary kind, headed_boundary kind]
      rfl
    | content =>
      rw [ofLines_content kind, ofLines_some, sectionContent_content kind,
        headed_other (by simp [kind]), addContent]
      rfl

def leading (heads : List Text) (lines : List Text) : Block :=
  { heading := none
    lines := sectionContent heads lines
    line := 1 + lines.findIdx isContentLine }

theorem ofText_eq_sections (heads : List Text) (text : Text) : ofText heads text =
    close (some (leading heads (Text.separatedLines text))) ++
      headed heads 1 (Text.separatedLines text) :=
  ofLines_none 1 (Text.separatedLines text)

@[simp] theorem flatMap_lines_close (block : Block) :
    (close (some block)).flatMap Block.lines = block.lines := by
  cases held : block.lines <;> simp [close, held]

theorem flatMap_lines_headed (first : Nat) (lines : List Text) :
    sectionContent heads lines ++ (headed heads first lines).flatMap Block.lines =
      lines.filter isContentLine := by
  induction lines generalizing first with
  | nil => rfl
  | cons line rest ih =>
    rw [List.filter_cons, isContentLine_eq heads, ← ih (first + 1)]
    cases kind : lineKind heads line with
    | skip => rw [sectionContent_skip kind, headed_other (by simp [kind])]; rfl
    | boundary =>
      rw [sectionContent_boundary kind, headed_boundary kind, List.flatMap_append,
        flatMap_lines_close]
      rfl
    | content => rw [sectionContent_content kind, headed_other (by simp [kind])]; rfl

/-- Whether a line is a heading with a content line behind it, before the next heading or before the
end. -/
def leadsContent (heads : List Text) (lines : List Text) (line : Text) (number : Nat) : Bool :=
  isBoundaryLine heads line && !(sectionContent heads (lines.drop number)).isEmpty

theorem headings_headed (before rest : List Text) :
    (headed heads (before.length + 1) rest).filterMap
        (fun block => block.heading.map (·, block.line)) =
      (rest.zipIdx (before.length + 1)).filter fun (line, number) =>
        leadsContent heads (before ++ rest) line number := by
  -- The induction moves one line after another from `rest` to the end of `before`.
  induction rest generalizing before with
  | nil => rfl
  | cons line rest ih =>
    have later := ih (before ++ [line])
    simp only [List.append_assoc, List.singleton_append, List.length_append,
      List.length_singleton] at later
    have behind : (before ++ line :: rest).drop (before.length + 1) = rest := by
      rw [List.drop_length_add_append]
      rfl
    rw [List.zipIdx_cons, List.filter_cons, ← later]
    by_cases kind : lineKind heads line = .boundary
    · rw [headed_boundary kind, List.filterMap_append]
      cases held : sectionContent heads rest <;>
        simp [leadsContent, isBoundaryLine_eq, kind, behind, held, close]
    · rw [headed_other kind]
      simp [leadsContent, isBoundaryLine_eq, kind]

theorem eq_of_mem_close {opened : Option Block} {block : Block} (h : block ∈ close opened) :
    opened = some block := by
  cases opened with
  | none => simp [close] at h
  | some other => cases held : other.lines <;> simp_all [close]

theorem exists_of_mem_headed {first : Nat} {lines : List Text} {block : Block}
    (h : block ∈ headed heads first lines) : ∃ before line after,
      lines = before ++ line :: after ∧
        block = { heading := some line
                  lines := sectionContent heads after
                  line := first + before.length } := by
  induction lines generalizing first with
  | nil => cases h
  | cons line rest ih =>
    rcases List.mem_append.1 h with own | later
    · split at own
      · obtain rfl := Option.some.inj (eq_of_mem_close own)
        exact ⟨[], line, rest, rfl, rfl⟩
      · cases own
    · obtain ⟨before, other, after, rfl, rfl⟩ := ih later
      refine ⟨line :: before, other, after, rfl, ?_⟩
      rw [List.length_cons, Nat.add_assoc, Nat.add_comm 1]

theorem sectionContent_ne_nil_iff {lines : List Text} : sectionContent heads lines ≠ [] ↔
    ∃ before line after, lines = before ++ line :: after ∧ isContentLine line = true ∧
      ∀ other ∈ before, isBoundaryLine heads other = false := by
  have shown : sectionContent heads lines ≠ [] ↔
      ∃ line ∈ lines.takeWhile fun other => !isBoundaryLine heads other,
        isContentLine line = true := by
    simp [sectionContent, List.filter_eq_nil_iff]
  rw [shown]
  constructor
  · rintro ⟨line, inside, content⟩
    obtain ⟨before, after, cut⟩ := List.append_of_mem inside
    have whole := List.takeWhile_append_dropWhile (p := fun line => !isBoundaryLine heads line)
      (l := lines)
    rw [cut, List.append_assoc, List.cons_append] at whole
    refine ⟨before, line, _, whole.symm, content, fun other ho => ?_⟩
    have mem : other ∈ lines.takeWhile fun line => !isBoundaryLine heads line := by simp [cut, ho]
    simpa using List.mem_takeWhile_imp mem
  · rintro ⟨before, line, after, rfl, content, others⟩
    have inside : isBoundaryLine heads line = false := by
      rw [isContentLine_eq heads, decide_eq_true_iff] at content
      simp [isBoundaryLine_eq, content]
    refine ⟨line, ?_, content⟩
    rw [List.takeWhile_append_of_pos fun other ho => by simp [others other ho]]
    simp [inside]

theorem sectionContent_drop {lines : List Text} (h : sectionContent heads lines ≠ []) :
    sectionContent heads (lines.drop (lines.findIdx isContentLine)) =
      sectionContent heads lines := by
  induction lines with
  | nil => rfl
  | cons line rest ih =>
    rw [List.findIdx_cons, isContentLine_eq heads]
    cases kind : lineKind heads line with
    | skip =>
      rw [sectionContent_skip kind] at h ⊢
      exact ih h
    | boundary => exact absurd (sectionContent_boundary kind) h
    | content => rfl

theorem isSome_heading_of_mem_headed {first : Nat} {lines : List Text} {block : Block}
    (h : block ∈ headed heads first lines) : block.heading.isSome = true := by
  obtain ⟨before, line, after, -, rfl⟩ := exists_of_mem_headed h
  rfl

/-- A block stands for the section before every heading, or for that behind its own. -/
theorem cases_of_mem_ofText {text : Text} {block : Block} (h : block ∈ ofText heads text) :
    block = leading heads (Text.separatedLines text) ∧
        sectionContent heads (Text.separatedLines text) ≠ [] ∨
      block ∈ headed heads 1 (Text.separatedLines text) := by
  rw [ofText_eq_sections] at h
  rcases List.mem_append.1 h with first | later
  · have shown := (forall_close (p := fun _ => True) (fun _ _ => trivial) block first).2
    obtain rfl := Option.some.inj (eq_of_mem_close first)
    exact .inl ⟨rfl, shown⟩
  · exact .inr later

variable (heads) (text : Text)

theorem flatMap_lines_ofText : (ofText heads text).flatMap Block.lines =
    (Text.separatedLines text).filter isContentLine := by
  rw [ofText_eq_sections, List.flatMap_append, flatMap_lines_close]
  exact flatMap_lines_headed 1 (Text.separatedLines text)

theorem headings_ofText :
    (ofText heads text).filterMap (fun block => block.heading.map (·, block.line)) =
      (Text.numbered (Text.separatedLines text)).filter fun (line, number) =>
        leadsContent heads (Text.separatedLines text) line number := by
  have unnamed : (close (some (leading heads (Text.separatedLines text)))).filterMap
      (fun block => block.heading.map (·, block.line)) = [] := by
    rw [List.filterMap_eq_nil_iff]
    intro block first
    obtain rfl := Option.some.inj (eq_of_mem_close first)
    rfl
  rw [ofText_eq_sections, List.filterMap_append, unnamed]
  exact headings_headed [] (Text.separatedLines text)

theorem isSome_heading_of_mem_tail :
    ∀ block ∈ (ofText heads text).tail, block.heading.isSome = true := by
  intro block listed
  rw [ofText_eq_sections, close] at listed
  split at listed
  · exact isSome_heading_of_mem_headed (List.mem_of_mem_tail listed)
  · exact isSome_heading_of_mem_headed listed

theorem exists_unnamed_iff : (∃ block ∈ (ofText heads text).head?, block.heading = none) ↔
    sectionContent heads (Text.separatedLines text) ≠ [] := by
  constructor
  · rintro ⟨block, first, unnamed⟩
    rcases cases_of_mem_ofText (List.mem_of_mem_head? first) with ⟨-, shown⟩ | later
    · exact shown
    · have named := isSome_heading_of_mem_headed later
      rw [unnamed] at named
      cases named
  · intro shown
    refine ⟨leading heads (Text.separatedLines text), ?_, rfl⟩
    rw [ofText_eq_sections]
    simp [close, leading, shown]

variable {heads text}

/-- A block holds the content of its section and nothing that stands behind the next heading. -/
theorem lines_of_mem_ofText {block : Block} (h : block ∈ ofText heads text) : block.lines =
    sectionContent heads ((Text.separatedLines text).drop (block.firstLine - 1)) := by
  rcases cases_of_mem_ofText h with ⟨rfl, shown⟩ | later
  · have start : (leading heads (Text.separatedLines text)).firstLine - 1 =
        (Text.separatedLines text).findIdx isContentLine := by simp [firstLine, leading]
    rw [start, sectionContent_drop shown]
    rfl
  · obtain ⟨before, line, after, cut, rfl⟩ := exists_of_mem_headed later
    have behind : (before ++ line :: after).drop (1 + before.length) = after := by
      rw [Nat.add_comm, List.drop_length_add_append]
      rfl
    rw [cut]
    exact congrArg (sectionContent heads) behind.symm

theorem line_of_unnamed {block : Block} (h : block ∈ ofText heads text)
    (unnamed : block.heading = none) :
    block.line = (Text.separatedLines text).findIdx isContentLine + 1 := by
  rcases cases_of_mem_ofText h with ⟨rfl, -⟩ | later
  · exact Nat.add_comm ..
  · have named := isSome_heading_of_mem_headed later
    rw [unnamed] at named
    cases named

variable (heads text)

/-- The blocks of a text share out its content lines, each of which is in one block, in the order of
the text and whatever headings are protected. There is one block for each section with content; it
holds the content lines of that section and no others. The first block may stand before every
heading, and then its number is that of its first line; all other blocks are numbered by their
headings. -/
theorem ofText_sections :
    let lines := Text.separatedLines text
    let blocks := ofText heads text
    blocks.flatMap Block.lines = lines.filter isContentLine ∧
    (∀ others, (ofText others text).flatMap Block.lines = blocks.flatMap Block.lines) ∧
    (∀ block ∈ blocks, block.lines ≠ []) ∧
    (blocks.filterMap fun block => block.heading.map (·, block.line)) =
      (Text.numbered lines).filter (fun (line, number) => leadsContent heads lines line number) ∧
    (∀ block ∈ blocks.tail, block.heading.isSome = true) ∧
    ((∃ block ∈ blocks.head?, block.heading = none) ↔ ∃ before line after,
      lines = before ++ line :: after ∧ isContentLine line = true ∧
        ∀ other ∈ before, isBoundaryLine heads other = false) ∧
    (∀ block ∈ blocks, block.heading = none → block.line = lines.findIdx isContentLine + 1) ∧
    (blocks.map Block.line).Pairwise (· < ·) ∧
    ∀ block ∈ blocks, block.lines = sectionContent heads (lines.drop (block.firstLine - 1)) := by
  intro lines blocks
  refine ⟨flatMap_lines_ofText heads text, fun others => ?_,
    fun block listed => (holdsContent_ofText heads text block listed).2, headings_ofText heads text,
    isSome_heading_of_mem_tail heads text, ?_, fun _ => line_of_unnamed,
    pairwise_line_ofText heads text, fun _ => lines_of_mem_ofText⟩
  · rw [flatMap_lines_ofText others, flatMap_lines_ofText heads]
  · rw [exists_unnamed_iff, sectionContent_ne_nil_iff]

end Block
end HttpContract
