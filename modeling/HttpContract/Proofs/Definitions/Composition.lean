import HttpContract.Proofs.Definitions.Warning
import HttpContract.Proofs.Variables.Declaration
import HttpContract.Proofs.Variables.Table

/-! Documents behind each other: if the second one starts with a heading, the blocks of both are
there as they are, and the second one only stands at later lines. -/
namespace HttpContract

namespace Block

variable {heads : List Text}

structure StartsBlock (heads : List Text) (text : Text) : Prop where
  heading : mark <+: Text.trim (text.takeWhile (· != '\n'))
  free : isProtected heads (Text.trim (text.takeWhile (· != '\n'))) = false

theorem StartsBlock.lineKind_head {text : Text} (h : StartsBlock heads text) :
    ∀ line ∈ (Text.separatedLines text).head?, lineKind heads line = .boundary := by
  intro line hl
  have first := Text.head?_splitAt '\n' text
  rw [Text.separatedLines, List.head?_map, first] at hl
  obtain rfl := Option.some.inj hl
  rw [lineKind_dropReturn]
  exact lineKind_eq_boundary_iff.2 ⟨h.heading, h.free⟩

/-- At a heading the lines before it have ended their last block, as at the end of a text. -/
theorem ofLines_append {lines : List Text}
    (h : ∀ line ∈ lines.head?, lineKind heads line = .boundary) (opened : Option Block)
    (front : List (Text × Nat)) (first : Nat) :
    ofLines heads opened (front ++ lines.zipIdx first) =
      ofLines heads opened front ++ ofLines heads none (lines.zipIdx first) := by
  induction front generalizing opened with
  | nil => exact ofLines_of_boundary h opened first
  | cons pair front ih =>
    obtain ⟨line, number⟩ := pair
    rw [List.cons_append]
    cases kind : lineKind heads line with
    | skip => rw [ofLines_skip kind, ofLines_skip kind, ih]
    | boundary => rw [ofLines_boundary kind, ofLines_boundary kind, ih, List.append_assoc]
    | content => rw [ofLines_content kind, ofLines_content kind, ih]

theorem ofText_append_cons (before : Text) {after : Text} (h : StartsBlock heads after) :
    ofText heads (before ++ '\n' :: after) = ofText heads before ++
      (ofText heads after).map (renumber (· + (Text.splitAt '\n' before).length)) := by
  have count : (Text.separatedLines before).length = (Text.splitAt '\n' before).length :=
    List.length_map ..
  have shifted : (Text.separatedLines after).zipIdx (1 + (Text.splitAt '\n' before).length) =
      (Text.numbered (Text.separatedLines after)).map
        (Prod.map id (· + (Text.splitAt '\n' before).length)) := by
    rw [Text.numbered, List.map_snd_add_zipIdx_eq_zipIdx, Nat.add_comm]
  have moved := @ofLines_renumber heads (· + (Text.splitAt '\n' before).length) none
    (Text.numbered (Text.separatedLines after))
  rw [Option.map_none] at moved
  rw [ofText, Text.separatedLines_append_cons, Text.numbered, List.zipIdx_append,
    ofLines_append h.lineKind_head, count, shifted, moved]
  rfl

end Block

namespace VariableScan

@[simp] theorem ofText_append_cons (before after : Text) : ofText (before ++ '\n' :: after) =
    { table := (ofText before).table.insertAll (ofText after).table.entries
      malformed := (ofText before).malformed ++
        (ofText after).malformed.map (· + (Text.splitAt '\n' before).length) } := by
  have numbers : ((Text.splitAt '\n' after).zipIdx (1 + (Text.splitAt '\n' before).length)) =
      ((Text.splitAt '\n' after).zipIdx 1).map
        (Prod.map id (· + (Text.splitAt '\n' before).length)) := by
    rw [List.map_snd_add_zipIdx_eq_zipIdx, Nat.add_comm]
  have declared (front back : List (Text × Text)) : VariableTable.ofList (front ++ back) =
      (VariableTable.ofList front).insertAll (VariableTable.ofList back).entries := by
    rw [VariableTable.insertAll_entries_ofList (VariableTable.isOrdered_ofList front)]
    exact VariableTable.insertAll_append _ front back
  simp only [ofText_eq_pieces, Text.splitAt_append_cons, List.filterMap_append, declared,
    List.zipIdx_append, numbers, List.filter_append, List.map_append, List.filter_map,
    List.map_map, Function.comp_def, Prod.map_fst, Prod.map_snd, id]

end VariableScan

namespace Document

/-- A document that starts with a heading may follow another one: the blocks, the declarations and
the malformed lines are those of the two, the second ones at later lines, and a case differs from
what it is alone only by the variables that the other document declares. -/
theorem ofText_compose (heads : List Text) (before after : Text)
    (h : Block.StartsBlock heads after) :
    let count := (Text.splitAt '\n' before).length
    let whole := before ++ '\n' :: after
    let front := VariableScan.ofText before
    let back := VariableScan.ofText after
    let table := (VariableScan.ofText whole).table
    Block.ofText heads whole =
      Block.ofText heads before ++ (Block.ofText heads after).map (Block.renumber (· + count)) ∧
    VariableScan.ofText whole =
      { table := front.table.insertAll back.table.entries
        malformed := front.malformed ++ back.malformed.map (· + count) } ∧
    (∀ name, table.get? name = (back.table.get? name).or (front.table.get? name)) ∧
    (ofText heads whole).cases =
      (Block.ofText heads before).filterMap (fun block => (block.testCase? table).1) ++
        (Block.ofText heads after).filterMap (fun block => (block.testCase? table).1) := by
  intro count whole front back table
  have blocks := Block.ofText_append_cons before h
  have scan := VariableScan.ofText_append_cons before after
  refine ⟨blocks, scan, fun name => ?_, ?_⟩
  · have ordered : VariableTable.IsOrdered back.table.entries := by
      simp only [back, VariableScan.ofText_eq]
      exact VariableTable.isOrdered_ofList _
    simp only [table, whole, scan]
    rw [VariableTable.get?_insertAll, VariableTable.lookup_reverse ordered]
    rfl
  · have given : (ofText heads whole).cases =
        (Block.ofText heads whole).filterMap fun block => (block.testCase? table).1 := by
      simp [ofText, table, List.filterMap_map]
    rw [given, blocks, List.filterMap_append, List.filterMap_map]
    simp only [Function.comp_def, Block.testCase?_renumber]

/-- The first document ends in a line without a newline and in an open block; both declare the same
variable. -/
theorem ofText_compose_seam :
    let heads := Block.defaultProtected
    let before : Text := "@id = 1\r\n@broken\n### A\nGET /\x7b\x7bid\x7d\x7d\r"
    let after : Text := " ### B\n@id = 2\n@\nGET /\x7b\x7bid\x7d\x7d"
    Block.StartsBlock heads after ∧
      (Block.ofText heads (before ++ '\n' :: after)).map Block.line = [3, 5] ∧
      (VariableScan.ofText (before ++ '\n' :: after)).malformed = [2, 7] := by
  intro heads before after
  have starts : Block.StartsBlock heads after := ⟨by decide, by decide⟩
  obtain ⟨blocks, scan, -, -⟩ := ofText_compose heads before after starts
  refine ⟨starts, ?_, ?_⟩
  · rw [blocks]
    decide +kernel
  · rw [scan]
    decide +kernel

end Document
end HttpContract
