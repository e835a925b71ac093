import HttpContract.Proofs.Definitions.Zones
import HttpContract.Proofs.Variables.Grammar
import HttpContract.Proofs.Variables.Occurrence

/-! References to variables that no line of a document declares. Each case tells those in its
target, every name once, and keeps them as they are written; a block without a case tells none. -/
namespace HttpContract

namespace VariableTable

open TemplatePart

/-- A reference that no variable resolves stands in the text that comes out. -/
theorem exists_occurs_interpolate {table : VariableTable} {text name : Text} {start : Nat}
    (h : Occurs text start name) (undeclared : table.get? name = none) :
    ∃ place, Occurs (table.interpolate text).text place name := by
  obtain ⟨front, back, cut, -⟩ := occurs_iff_isPlaced.1 h
  have kept : resolve table (.reference name) = source (.reference name) := by
    simp [resolve, undeclared]
  refine ⟨(front.flatMap (resolve table)).length, h.1, back.flatMap (resolve table), ?_⟩
  rw [interpolate]
  simp only [cut, List.flatMap_append, List.flatMap_cons, kept, List.drop_left]

end VariableTable

namespace Document

open BlockReading TemplatePart
open VariableScan (Declares)

/-- The names that a target refers to and no line of the text declares, each one once, in the order
in which the target first refers to them. -/
structure AreUndeclared (text target : Text) (names : List Text) : Prop where
  nodup : names.Nodup
  mem_iff : ∀ name, name ∈ names ↔ (∃ start, Occurs target start name) ∧
    ∀ line ∈ Text.terminatedLines text, ∀ value, ¬ Declares line name value
  in_order : names.Pairwise fun name later =>
    ∃ start, Occurs target start name ∧ ∀ other, Occurs target other later → start < other

variable (heads : List Text) (text : Text)

theorem areUndeclared_unresolved (target : Text) :
    AreUndeclared text target ((ofText heads text).table.interpolate target).unresolved where
  nodup := Text.nodup_distinct _
  mem_iff name := by
    rw [VariableTable.mem_unresolved_iff, and_comm, ofText, VariableScan.get?_table_eq_none_iff]
  in_order := VariableTable.pairwise_unresolved _ target

theorem filter_isUnresolved_warnings : (ofText heads text).warnings.filter Warning.isUnresolved =
    (Block.ofText heads text).flatMap fun block =>
      (block.testCase? (ofText heads text).table).2.filter Warning.isUnresolved := by
  have none_malformed : (VariableScan.ofText text).malformed.filter
      (Warning.isUnresolved ∘ Warning.malformedVariable) = [] := by simp [Warning.isUnresolved]
  simp only [ofText, List.filter_append, List.filter_map, none_malformed, List.map_nil,
    List.nil_append, List.filter_flatMap, List.flatMap_map]

/-- Each case tells, in the order of the cases, the names that its target refers to and no line of
the whole text declares: every one of them once, by the name of the case, in the order in which the
target first refers to them. Such a reference is kept in the path as it is written. A block without
a case tells of no reference. -/
theorem undeclared_told_once :
    let blocks := Block.ofText heads text
    let document := ofText heads text
    let given := fun block : Block => block.testCase? document.table
    document.cases = blocks.filterMap (fun block => (given block).1) ∧
    document.warnings.filter Warning.isUnresolved =
      blocks.flatMap (fun block => (given block).2.filter Warning.isUnresolved) ∧
    (∀ block ∈ blocks, (given block).1 = none →
      (given block).2.filter Warning.isUnresolved = []) ∧
    ∀ block ∈ blocks, ∀ test, (given block).1 = some test →
      ∃ index request headers body names, HasZones block.lines index request headers body ∧
        AreUndeclared text request.target names ∧
        (given block).2.filter Warning.isUnresolved =
          names.map (Warning.unresolvedVariable · test.name) ∧
        ∀ name ∈ names, ∃ start, Occurs test.path start name := by
  intro blocks document given
  refine ⟨by simp [document, ofText, given, blocks], filter_isUnresolved_warnings heads text,
    fun block _ unusable => ?_, fun block _ test usable => ?_⟩
  · rw [Block.testCase?_fst, Option.map_eq_none_iff] at unusable
    rw [Block.unresolved_testCase?, unusable, Option.elim_none]
  · obtain ⟨index, request, headers, body, zones, shown, rfl⟩ :=
      Block.testCase?_eq_some_iff.1 usable
    have target : block.target? = some request := by
      rw [Block.target?_of_hasZones zones, if_neg shown]
    refine ⟨index, request, headers, body, _, zones, areUndeclared_unresolved heads text _, ?_,
      fun name told => ?_⟩
    · rw [Block.unresolved_testCase?, target, Option.elim_some]
    · obtain ⟨undeclared, start, occurs⟩ := VariableTable.mem_unresolved_iff.1 told
      exact VariableTable.exists_occurs_interpolate occurs undeclared

/-- Of two references to an undeclared variable the first one is told, by a name that is made from
the path; another variable is declared behind its use. -/
theorem undeclared_told_once_synthesized :
    let text : Text := "GET /\x7b\x7ba\x7d\x7d/\x7b\x7bb\x7d\x7d?\x7b\x7ba\x7d\x7d\n" ++
      "### Notes\nGOT \x7b\x7bc\x7d\x7d\n@b = 1"
    let first : Block :=
      { heading := none, lines := ["GET /\x7b\x7ba\x7d\x7d/\x7b\x7bb\x7d\x7d?\x7b\x7ba\x7d\x7d"],
        line := 1 }
    let notes : Block :=
      { heading := some "### Notes", lines := ["GOT \x7b\x7bc\x7d\x7d"], line := 2 }
    let table := (ofText [] text).table
    (notes.testCase? table).1 = none ∧
      (notes.testCase? table).2.filter Warning.isUnresolved = [] ∧
    (first.testCase? table).2.filter Warning.isUnresolved =
      [.unresolvedVariable "a" "GET__a_1_Should_Return_SuccessStatusCode"] ∧
    ∃ start, Occurs "/\x7b\x7ba\x7d\x7d/1?\x7b\x7ba\x7d\x7d" start "a" := by
  intro text first notes table
  obtain ⟨-, -, silent, telling⟩ := undeclared_told_once [] text
  have unusable : (notes.testCase? table).1 = none := by
    rw [Block.testCase?_of_none (by decide)]
  have told : (first.testCase? table).2.filter Warning.isUnresolved =
      [.unresolvedVariable "a" "GET__a_1_Should_Return_SuccessStatusCode"] := by decide +kernel
  have path : (first.testCase? table).1.map TestCase.path =
      some "/\x7b\x7ba\x7d\x7d/1?\x7b\x7ba\x7d\x7d".toList := by decide +kernel
  refine ⟨unusable, silent notes (by decide) unusable, told, ?_⟩
  obtain ⟨test, usable, path⟩ := Option.map_eq_some_iff.1 path
  obtain ⟨_, _, _, _, names, -, -, same, kept⟩ := telling first (by decide) test usable
  obtain ⟨name, _, rfl, named, -⟩ := List.map_eq_cons_iff.1 (same.symm.trans told)
  obtain ⟨name_eq, -⟩ := Warning.unresolvedVariable.inj named
  rw [← path, ← name_eq]
  exact kept name List.mem_cons_self

end Document
end HttpContract
