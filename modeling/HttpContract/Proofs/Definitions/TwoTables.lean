import HttpContract.Proofs.Definitions.Warning
import HttpContract.Proofs.Variables.Occurrence

/-! One block under two tables of variables. The values reach the path of its case, from there a
name that no heading gives, and the warnings about references, and nothing else. -/
namespace HttpContract

namespace VariableTable

open TemplatePart

/-- The tables know the same of all names that the text refers to. -/
def AgreeOn (table other : VariableTable) (text : Text) : Prop :=
  ∀ start name, Occurs text start name → table.get? name = other.get? name

theorem AgreeOn.get?_eq {table other : VariableTable} {text name : Text}
    (h : AgreeOn table other text) (listed : .reference name ∈ TemplatePart.ofText text) :
    table.get? name = other.get? name := by
  obtain ⟨start, placed⟩ := isPlaced_of_mem listed
  exact h start name (occurs_iff_isPlaced.2 placed)

theorem AgreeOn.interpolate_eq {table other : VariableTable} {text : Text}
    (h : AgreeOn table other text) : table.interpolate text = other.interpolate text := by
  have resolved : ∀ part ∈ TemplatePart.ofText text, part.resolve table = part.resolve other := by
    intro part listed
    cases part with
    | plain c => rfl
    | reference name => rw [resolve, resolve, h.get?_eq listed]
  have missing : ∀ part ∈ TemplatePart.ofText text,
      part.missing? table = part.missing? other := by
    intro part listed
    cases part with
    | plain c => rfl
    | reference name => rw [missing?, missing?, h.get?_eq listed]
  rw [interpolate, interpolate, List.flatMap_congr resolved, List.filterMap_congr missing]

end VariableTable

namespace Block

def IsNamed (block : Block) : Prop :=
  ∃ heading ∈ block.heading, ∃ rest, Text.trim heading = mark ++ rest ∧ Text.trim rest ≠ []

theorem IsNamed.exists_name {block : Block} (h : block.IsNamed) :
    ∃ name, block.heading.bind Naming.ofHeading? = some name := by
  obtain ⟨heading, given, rest, cut, shown⟩ := h
  refine ⟨Text.trim rest, Option.bind_eq_some_iff.2 ⟨heading, given, ?_⟩⟩
  simp [Naming.ofHeading?, Text.strip?_eq_some_iff.2 cut, shown]

variable (block : Block) (table other : VariableTable)

/-- What is told of a block apart from its references. -/
theorem resolved_testCase? :
    (block.testCase? table).2.filter (fun warning => !warning.isUnresolved) =
      block.lateWarnings ++ if block.target?.isSome then [] else [.unusableBlock block.line] := by
  cases h : block.target? with
  | none => simp [testCase?_of_none h, lateWarnings, Warning.isUnresolved]
  | some request =>
    simp [testCase?_of_some h, lateWarnings, List.filter_map, Function.comp_def,
      Warning.isUnresolved]

/-- Whether the reading of a block breaks off is a matter of its lines. -/
theorem read_eq_error_iff {crash : Crash} :
    block.read table = .error crash ↔ block.read other = .error crash := by
  rw [read, read]
  split
  · exact Iff.rfl
  · exact iff_of_false nofun nofun

/-- Two tables give a block two cases or none. The cases differ in their paths at most, and in the
names that are made from the paths where the heading gives none; the warnings differ in those about
references at most. Tables that know the same of the references in the target make no difference. -/
theorem testCase?_twoTables :
    ((block.testCase? table).1.isSome = (block.testCase? other).1.isSome) ∧
    (∀ test also, (block.testCase? table).1 = some test → (block.testCase? other).1 = some also →
      (test.method = also.method ∧ test.headers = also.headers ∧ test.body = also.body ∧
        test.expected = also.expected ∧ test.testType = also.testType ∧
        test.schema = also.schema) ∧
      (block.IsNamed → test.name = also.name) ∧ (test.path = also.path → test = also)) ∧
    ((block.testCase? table).2.filter (fun warning => !warning.isUnresolved) =
      (block.testCase? other).2.filter fun warning => !warning.isUnresolved) ∧
    ((∀ request ∈ block.target?, table.AgreeOn other request.target) →
      block.testCase? table = block.testCase? other) ∧
    ∀ crash, block.read table = .error crash ↔ block.read other = .error crash := by
  refine ⟨by simp only [testCase?_fst, Option.isSome_map], fun test also given given' => ?_,
    by rw [resolved_testCase?, resolved_testCase?], fun agree => ?_,
    fun _ => read_eq_error_iff block table other⟩
  · rw [testCase?_fst] at given given'
    obtain ⟨request, target, rfl⟩ := Option.map_eq_some_iff.1 given
    obtain ⟨request', target', rfl⟩ := Option.map_eq_some_iff.1 given'
    obtain rfl : request = request' := Option.some.inj (target.symm.trans target')
    refine ⟨⟨rfl, rfl, rfl, rfl, rfl, rfl⟩, fun named => ?_, fun path => ?_⟩
    · obtain ⟨name, heading⟩ := named.exists_name
      simp only [caseOf, heading, Option.getD_some]
    · change (table.interpolate request.target).text = (other.interpolate request.target).text
        at path
      rw [caseOf, caseOf, path]
  · cases h : block.target? with
    | none => rw [testCase?_of_none h, testCase?_of_none h]
    | some request =>
      have same := (agree request h).interpolate_eq
      rw [testCase?_of_some h, testCase?_of_some h, caseOf, caseOf, same]

end Block
end HttpContract
