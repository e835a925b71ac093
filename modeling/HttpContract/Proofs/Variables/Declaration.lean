import HttpContract.Proofs.Text.Basic
import HttpContract.Proofs.Text.Lines
import HttpContract.Proofs.Variables.Table
import HttpContract.Variables.Declaration

/-! What a scan for declarations finds, line by line: the table of all lines that declare something,
and the numbers of the lines that only start like one. -/
namespace HttpContract
namespace VariableScan

def isMalformed (line : Text) : Bool := isDeclarationLine line && (declaration? line).isNone

theorem isDeclarationLine_of_declaration? {line : Text} (h : (declaration? line).isSome = true) :
    isDeclarationLine line = true := by
  unfold declaration? at h
  split at h
  · rename_i rest start
    simp [isDeclarationLine, start]
  · cases h

theorem declaration?_eq_none {line : Text} (h : isDeclarationLine line = false) :
    declaration? line = none := by
  rw [← Option.not_isSome_iff_eq_none]
  intro found
  rw [isDeclarationLine_of_declaration? found] at h
  cases h

@[simp] theorem declaration?_concat_return (line : Text) :
    declaration? (line ++ ['\r']) = declaration? line := by
  have blank : Unicode.isBlank '\r' = true := by decide
  have other : Unicode.isWordChar '\r' = false := by decide
  unfold declaration?
  rw [Text.trimStart_concat_blank blank]
  cases start : Text.trimStart line with
  | nil => rfl
  | cons c rest =>
    rw [if_neg (List.cons_ne_nil c rest), List.cons_append]
    by_cases sign : c = '@'
    · subst sign
      have name : (rest ++ ['\r']).takeWhile Unicode.isWordChar =
          rest.takeWhile Unicode.isWordChar := by
        rw [List.takeWhile_append]
        split
        next whole =>
          have all : rest.takeWhile Unicode.isWordChar = rest :=
            (List.takeWhile_prefix _).eq_of_length whole
          simp [all, other]
        next => rfl
      have behind : (rest ++ ['\r']).dropWhile Unicode.isWordChar =
          rest.dropWhile Unicode.isWordChar ++ ['\r'] := by
        rw [List.dropWhile_append]
        split
        next none =>
          rw [List.isEmpty_iff] at none
          simp [none, other]
        next => rfl
      simp only [name, behind, Text.trimStart_concat_blank blank]
      cases mark : Text.trimStart (rest.dropWhile Unicode.isWordChar) with
      | nil => rfl
      | cons d value =>
        rw [if_neg (List.cons_ne_nil d value), List.cons_append]
        by_cases equals : d = '='
        · subst equals
          simp only [Text.trim_concat_blank blank]
        · simp [equals]
    · simp [sign]

@[simp] theorem declaration?_dropReturn (line : Text) :
    declaration? (Text.dropReturn line) = declaration? line := by
  induction line using List.reverseRecOn with
  | nil => rfl
  | append_singleton line c =>
    rw [Text.dropReturn_concat]
    split
    next same => rw [List.append_nil, same, declaration?_concat_return]
    next => rfl

theorem isDeclarationLine_iff {line : Text} :
    isDeclarationLine line = true ↔ ['@'] <+: Text.trim line := by
  rw [isDeclarationLine, ← Text.startsWith_trim, Text.startsWith_iff]

@[simp] theorem isDeclarationLine_dropReturn (line : Text) :
    isDeclarationLine (Text.dropReturn line) = isDeclarationLine line := by
  rw [Bool.eq_iff_iff, isDeclarationLine_iff, isDeclarationLine_iff, Text.trim_dropReturn]

@[simp] theorem isMalformed_dropReturn (line : Text) :
    isMalformed (Text.dropReturn line) = isMalformed line := by
  rw [isMalformed, isMalformed, isDeclarationLine_dropReturn, declaration?_dropReturn]

theorem addLine_eq (scan : VariableScan) (line : Text) (number : Nat) :
    scan.addLine line number =
      { table := scan.table.insertAll (declaration? line).toList
        malformed := scan.malformed ++ if isMalformed line then [number] else [] } := by
  cases h : declaration? line with
  | some pair =>
    have start : isDeclarationLine line = true := isDeclarationLine_of_declaration? (by simp [h])
    simp [addLine, start, h, isMalformed, VariableTable.insertAll]
  | none =>
    cases start : isDeclarationLine line <;>
      simp [addLine, start, h, isMalformed, VariableTable.insertAll]

theorem foldl_addLine (scan : VariableScan) (lines : List Text) (first : Nat) :
    (lines.zipIdx first).foldl (fun scan pair => scan.addLine pair.1 pair.2) scan =
      { table := scan.table.insertAll (lines.filterMap declaration?)
        malformed := scan.malformed ++
          ((lines.zipIdx first).filter fun pair => isMalformed pair.1).map Prod.snd } := by
  induction lines generalizing scan first with
  | nil => simp [VariableTable.insertAll]
  | cons line lines ih =>
    rw [List.zipIdx_cons, List.foldl_cons, ih, addLine_eq]
    cases h : declaration? line <;> cases hm : isMalformed line <;>
      simp [VariableTable.insertAll, h, hm]

theorem ofText_eq (text : Text) : ofText text =
    { table := VariableTable.ofList ((Text.terminatedLines text).filterMap declaration?)
      malformed := ((Text.numbered (Text.terminatedLines text)).filter
        fun pair => isMalformed pair.1).map Prod.snd } := by
  change (Text.numbered (Text.terminatedLines text)).foldl
    (fun scan pair => addLine scan pair.1 pair.2) ({} : VariableScan) = _
  rw [Text.numbered, foldl_addLine, List.nil_append]
  rfl

/-- A scan may also look at the pieces between newlines, with what is left of the newlines. -/
theorem ofText_eq_pieces (text : Text) : ofText text =
    { table := VariableTable.ofList ((Text.splitAt '\n' text).filterMap declaration?)
      malformed := (((Text.splitAt '\n' text).zipIdx 1).filter
        fun pair => isMalformed pair.1).map Prod.snd } := by
  have declared (pieces : List Text) :
      (Text.endLines pieces).filterMap declaration? = pieces.filterMap declaration? := by
    fun_induction Text.endLines pieces with
    | case1 => rfl
    | case2 => rfl
    | case3 => rfl
    | case4 piece next pieces ih =>
      rw [List.filterMap_cons, declaration?_dropReturn, ih, ← List.filterMap_cons]
  have malformed (pieces : List Text) (first : Nat) :
      (((Text.endLines pieces).zipIdx first).filter fun pair => isMalformed pair.1).map Prod.snd =
        ((pieces.zipIdx first).filter fun pair => isMalformed pair.1).map Prod.snd := by
    fun_induction Text.endLines pieces generalizing first with
    | case1 => rfl
    | case2 => rfl
    | case3 => rfl
    | case4 piece next pieces ih =>
      have later := ih (first + 1)
      rw [List.zipIdx_cons, List.zipIdx_cons, List.filter_cons, List.filter_cons,
        isMalformed_dropReturn]
      cases isMalformed piece with
      | false => exact later
      | true => exact congrArg (first :: ·) later
  rw [ofText_eq, Text.terminatedLines, declared, Text.numbered, malformed]

/-- Nor does it matter that carriage returns are dropped first, as they are for the blocks. -/
theorem ofText_eq_separated (text : Text) : ofText text =
    { table := VariableTable.ofList ((Text.separatedLines text).filterMap declaration?)
      malformed := ((Text.numbered (Text.separatedLines text)).filter
        fun pair => isMalformed pair.1).map Prod.snd } := by
  rw [ofText_eq_pieces, Text.separatedLines, Text.numbered, List.zipIdx_map]
  simp only [List.filterMap_map, List.filter_map, List.map_map, Function.comp_def, Prod.map_fst,
    Prod.map_snd, declaration?_dropReturn, isMalformed_dropReturn, id]

theorem table_join {pieces : List Text} (h : ∀ piece ∈ pieces, '\n' ∉ piece) :
    (ofText (Text.join ['\n'] pieces)).table =
      VariableTable.ofList (pieces.filterMap declaration?) := by
  by_cases hn : pieces = []
  · subst hn
    rfl
  · rw [ofText_eq_pieces, Text.splitAt_join_of_clear h hn]

/-- Lines that do not start like a declaration only shift the numbers of those behind them. -/
theorem ofText_of_append {text rest : Text} {front : List Text}
    (cut : Text.terminatedLines text = front ++ Text.terminatedLines rest)
    (plain : ∀ line ∈ front, isDeclarationLine line = false) : ofText text =
      { table := (ofText rest).table
        malformed := (ofText rest).malformed.map (front.length + ·) } := by
  have undeclared : front.filterMap declaration? = [] :=
    List.filterMap_eq_nil_iff.2 fun line hl => declaration?_eq_none (plain line hl)
  have sound : (front.zipIdx 1).filter (fun pair => isMalformed pair.1) = [] := by
    rw [List.filter_eq_nil_iff]
    intro pair hp
    simp [isMalformed, plain pair.1 (List.fst_mem_of_mem_zipIdx hp)]
  rw [ofText_eq, ofText_eq, cut, List.filterMap_append, undeclared, Text.numbered, Text.numbered,
    List.zipIdx_append, List.filter_append, sound, Nat.add_comm 1,
    ← List.map_snd_add_zipIdx_eq_zipIdx, List.filter_map]
  simp [Function.comp_def, Nat.add_comm]

theorem isPhrase_of_declaration? {line name value : Text} (one : '\n' ∉ line)
    (h : declaration? line = some (name, value)) : Text.IsPhrase value := by
  unfold declaration? at h
  split at h
  · rename_i rest start
    dsimp only at h
    split at h
    · rename_i behind equals
      split_ifs at h with empty
      obtain ⟨-, rfl⟩ := Prod.mk.inj (Option.some.inj h)
      have inside : behind ⊆ line := by
        intro c hc
        have hr : c ∈ Text.trimStart (rest.dropWhile Unicode.isWordChar) :=
          equals ▸ List.mem_cons_of_mem _ hc
        have hs : c ∈ Text.trimStart line := start ▸ List.mem_cons_of_mem _
          ((List.dropWhile_suffix _).subset ((List.dropWhile_suffix _).subset hr))
        exact (List.dropWhile_suffix _).subset hs
      exact ⟨(not_or.1 empty).2, Text.trim_trim _,
        fun newline => one (inside (Text.trim_subset _ newline))⟩
    · cases h
  · cases h

@[simp] theorem holdsPhrases_ofText (text : Text) : (ofText text).table.HoldsPhrases := by
  rw [ofText_eq_separated]
  refine VariableTable.holdsPhrases_ofList fun pair listed => ?_
  obtain ⟨line, hl, declared⟩ := List.mem_filterMap.1 listed
  exact isPhrase_of_declaration? (Text.newline_not_mem_of_mem_separatedLines hl) declared

@[simp] theorem pairwise_malformed (text : Text) : (ofText text).malformed.Pairwise (· < ·) := by
  rw [ofText_eq]
  have numbers : (Text.numbered (Text.terminatedLines text)).map Prod.snd =
      List.range' 1 (Text.terminatedLines text).length := List.zipIdx_map_snd ..
  refine List.Pairwise.sublist (List.filter_sublist.map Prod.snd) ?_
  rw [numbers]
  exact List.pairwise_lt_range'

end VariableScan
end HttpContract
