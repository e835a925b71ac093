import HttpContract.Definitions.Document
import HttpContract.Proofs.Definitions.Block
import HttpContract.Proofs.Variables.Declaration

/-! How the lines of a text end is no matter to its document: with a newline, with a carriage return
before it, or, if it is the last line, with nothing at all. -/
namespace HttpContract

inductive LineEnding where
  | newline | returnNewline
  deriving DecidableEq

def LineEnding.text : LineEnding → Text
  | newline => "\n"
  | returnNewline => "\r\n"

/-- Lines with an ending each, and perhaps a last line without one. -/
structure EndedLines where
  ended : List (Text × LineEnding)
  last? : Option Text

namespace EndedLines

def lines (written : EndedLines) : List Text :=
  written.ended.map Prod.fst ++ written.last?.toList

def text (written : EndedLines) : Text :=
  (written.ended.flatMap fun (line, ending) => line ++ ending.text) ++ written.last?.getD []

end EndedLines

namespace Text

theorem separatedLines_of_isLine {line : Text} (h : IsLine line) :
    separatedLines line = [line] := by
  rw [separatedLines, splitAt_eq_singleton h.1, List.map_singleton, dropReturn_eq_self h.2]

/-- Either ending is read as the end of the line before it. -/
theorem separatedLines_append_ending {line : Text} (h : IsLine line) (ending : LineEnding)
    (rest : Text) :
    separatedLines (line ++ (ending.text ++ rest)) = line :: separatedLines rest := by
  cases ending with
  | newline =>
    have cut : line ++ (LineEnding.newline.text ++ rest) = line ++ '\n' :: rest := rfl
    rw [cut, separatedLines_append_cons, separatedLines_of_isLine h]
    rfl
  | returnNewline =>
    have cut : line ++ (LineEnding.returnNewline.text ++ rest) =
        (line ++ ['\r']) ++ '\n' :: rest := by
      rw [List.append_assoc]
      rfl
    have clear : '\n' ∉ line ++ ['\r'] := by simpa using h.1
    have dropped : separatedLines (line ++ ['\r']) = [line] := by
      rw [separatedLines, splitAt_eq_singleton clear, List.map_singleton, dropReturn_concat]
      simp
    rw [cut, separatedLines_append_cons, dropped]
    rfl

theorem separatedLines_text {written : EndedLines} (h : ∀ line ∈ written.lines, IsLine line) :
    separatedLines written.text = written.ended.map Prod.fst ++ [written.last?.getD []] := by
  obtain ⟨ended, last?⟩ := written
  rw [EndedLines.text]
  dsimp only
  induction ended with
  | nil =>
    cases last? with
    | none => rfl
    | some last => exact separatedLines_of_isLine (h last (by simp [EndedLines.lines]))
  | cons pair ended ih =>
    obtain ⟨line, ending⟩ := pair
    have first : IsLine line := h line (by simp [EndedLines.lines])
    have others := ih fun other ho => h other (List.mem_cons_of_mem _ ho)
    rw [List.flatMap_cons, List.append_assoc, List.append_assoc,
      separatedLines_append_ending first, others]
    rfl

end Text

namespace Document

variable {heads : List Text}

def ofLines (heads : List Text) (lines : List Text) : Document :=
  let table := VariableTable.ofList (lines.filterMap VariableScan.declaration?)
  let readings := (Block.ofLines heads none (Text.numbered lines)).map
    fun block => block.testCase? table
  let malformed := ((Text.numbered lines).filter
    fun pair => VariableScan.isMalformed pair.1).map Prod.snd
  { table
    cases := readings.filterMap Prod.fst
    warnings := malformed.map .malformedVariable ++ readings.flatMap Prod.snd }

/-- Declarations and blocks are found in the same lines. -/
theorem ofText_eq_ofLines (text : Text) :
    ofText heads text = ofLines heads (Text.separatedLines text) := by
  rw [ofText, VariableScan.ofText_eq_separated]
  rfl

/-- An empty last line might as well not be there. -/
@[simp] theorem ofLines_concat_nil (lines : List Text) :
    ofLines heads (lines ++ [[]]) = ofLines heads lines := by
  have numbers : Text.numbered (lines ++ [[]]) =
      Text.numbered lines ++ [([], 1 + lines.length)] := List.zipIdx_append ..
  have blocks : Block.ofLines heads none (Text.numbered (lines ++ [[]])) =
      Block.ofLines heads none (Text.numbered lines) := by
    rw [← Block.ofLines_shown, ← Block.ofLines_shown none (Text.numbered lines), numbers,
      List.filter_append]
    simp [Block.lineKind, Text.trim, Text.trimStart, Text.trimEnd]
  have declared : (lines ++ [[]]).filterMap VariableScan.declaration? =
      lines.filterMap VariableScan.declaration? := by
    rw [List.filterMap_append]
    exact List.append_nil _
  have malformed : (Text.numbered (lines ++ [[]])).filter
      (fun pair => VariableScan.isMalformed pair.1) =
        (Text.numbered lines).filter fun pair => VariableScan.isMalformed pair.1 := by
    rw [numbers, List.filter_append]
    exact List.append_nil _
  rw [ofLines, ofLines, blocks, declared, malformed]

theorem ofText_text {written : EndedLines} (h : ∀ line ∈ written.lines, Text.IsLine line) :
    ofText heads written.text = ofLines heads written.lines := by
  rw [ofText_eq_ofLines, Text.separatedLines_text h]
  obtain ⟨ended, last?⟩ := written
  cases last? with
  | none => simp [EndedLines.lines]
  | some last => rfl

/-- Two texts of the same lines have the same document, whatever ends each of the lines. -/
theorem ofText_lineEndings (heads : List Text) (written other : EndedLines)
    (same : written.lines = other.lines) (h : ∀ line ∈ written.lines, Text.IsLine line) :
    ofText heads written.text = ofText heads other.text := by
  rw [ofText_text h, ofText_text (same ▸ h), same]

/-- A declaration, a blank line, a malformed line and a body stand at either kind of ending. -/
theorem ofText_lineEndings_mixed :
    let mixed : EndedLines :=
      ⟨[("@id = 7", .returnNewline), ("### A", .newline), ("", .returnNewline),
        ("POST /\x7b\x7bid\x7d\x7d", .returnNewline), ("@", .newline), ("\x7b", .returnNewline)],
        some "\x7d"⟩
    let plain : EndedLines :=
      ⟨[("@id = 7", .newline), ("### A", .newline), ("", .newline),
        ("POST /\x7b\x7bid\x7d\x7d", .newline), ("@", .newline), ("\x7b", .newline),
        ("\x7d", .newline)], none⟩
    mixed.lines = plain.lines ∧ (∀ line ∈ mixed.lines, Text.IsLine line) ∧
      ofText [] mixed.text = ofText [] plain.text := by
  intro mixed plain
  have same : mixed.lines = plain.lines := by decide
  have lines : ∀ line ∈ mixed.lines, Text.IsLine line := by
    unfold Text.IsLine
    decide
  exact ⟨same, lines, ofText_lineEndings [] mixed plain same lines⟩

end Document
end HttpContract
