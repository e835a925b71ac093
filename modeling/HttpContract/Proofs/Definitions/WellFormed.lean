import HttpContract.Proofs.Definitions.Naming
import HttpContract.Proofs.Definitions.Warning
import HttpContract.Proofs.Headers.List
import HttpContract.Proofs.Variables.Declaration
import HttpContract.Proofs.Variables.Reference

/-! What holds of every test case that a document gives: its path can be sent, its name and headers
are clean, it expects one status, and its body looks like an object. -/
namespace HttpContract

/-- A header as it is read: its name ends before the colon, and nothing has blanks around it. -/
structure IsTrimmedHeader (header : Text × Text) : Prop where
  name_ne_nil : header.1 ≠ []
  name_trimmed : Text.trim header.1 = header.1
  no_colon : ':' ∉ header.1
  value_trimmed : Text.trim header.2 = header.2

/-- A body whose lines could stand in a block, the first one opening it. -/
structure IsBlockBody (body : Text) : Prop where
  shown : ∀ line ∈ Text.splitAt '\n' body, Text.trim line ≠ []
  no_declaration : ∀ line ∈ Text.splitAt '\n' body, ¬ ['@'] <+: Text.trim line
  no_heading : ∀ line ∈ Text.splitAt '\n' body, ¬ Block.mark <+: Text.trim line
  opens : ∀ line ∈ (Text.splitAt '\n' body).head?, ['\x7b'] <+: Text.trim line

structure TestCase.IsWellFormed (test : TestCase) : Prop where
  path : Text.IsPhrase test.path
  name : ∀ c ∈ test.name, Unicode.isAlphanumeric c = true ∨ c = '_'
  expected : ∃ code ∈ [200, 400, 401, 404], test.expected = [code]
  testType : test.testType = .statusCode
  schema : test.schema = none
  headers : ∀ header ∈ test.headers.entries, IsTrimmedHeader header
  distinct : test.headers.IsDistinct
  body : ∀ body ∈ test.body, IsBlockBody body

namespace BlockReading

theorem headers_ofBlock (block : Block) :
    ∀ header ∈ (ofBlock block).headers.entries, IsTrimmedHeader header := by
  have named : ∀ pair ∈ headerPairs false (front block.lines),
      (pair.1 ≠ [] ∧ Text.trim pair.1 = pair.1 ∧ ':' ∉ pair.1) ∧ Text.trim pair.2 = pair.2 := by
    intro pair listed
    obtain ⟨line, -, header⟩ := List.mem_filterMap.1 listed
    exact header?_eq_some header
  rw [ofBlock_eq]
  intro header listed
  obtain ⟨⟨shown, trimmed, clear⟩, value⟩ := HeaderList.forall_mem_ofList
    (P := fun name => name ≠ [] ∧ Text.trim name = name ∧ ':' ∉ name)
    (Q := fun value => Text.trim value = value) named header listed
  exact ⟨shown, trimmed, clear, value⟩

theorem body_ofBlock {heads : List Text} {block : Block}
    (content : ∀ line ∈ block.lines, Block.lineKind heads line = .content)
    (one : ∀ line ∈ block.lines, '\n' ∉ line) (some_body : (ofBlock block).body ≠ []) :
    IsBlockBody (Text.join ['\n'] (ofBlock block).body) := by
  rw [ofBlock_eq] at some_body ⊢
  dsimp only at some_body ⊢
  have inside : ∀ line ∈ bodyLines block.lines, line ∈ block.lines :=
    fun line hl => (List.dropWhile_suffix _).subset hl
  have kept : Text.splitAt '\n' (Text.join ['\n'] (bodyLines block.lines)) =
      bodyLines block.lines :=
    Text.splitAt_join_of_clear (fun line hl => one line (inside line hl)) some_body
  have kind : ∀ line ∈ bodyLines block.lines, Text.trim line ≠ [] ∧
      Text.startsWith ['@'] (Text.trim line) = false ∧ ¬ Block.mark <+: Text.trim line :=
    fun line hl => Block.lineKind_eq_content_iff.1 (content line (inside line hl))
  constructor <;> rw [kept]
  · exact fun line hl => (kind line hl).1
  · intro line hl start
    have other := (kind line hl).2.1
    rw [Text.startsWith_iff.2 start] at other
    cases other
  · exact fun line hl => (kind line hl).2.2
  · exact fun line hl => Text.startsWith_iff.1 (opensBody_of_mem_head? hl)

end BlockReading

namespace Block

theorem isPhrase_target {block : Block} {request : RequestLine} (h : block.target? = some request) :
    Text.IsPhrase request.target := by
  rw [target?, BlockReading.ofBlock_eq] at h
  obtain ⟨read, -⟩ := Option.filter_eq_some_iff.1 h
  obtain ⟨line, -, found⟩ := List.exists_of_findSome?_eq_some read
  exact RequestLine.isPhrase_target found

theorem isWellFormed_caseOf {heads : List Text} {block : Block} {table : VariableTable}
    {request : RequestLine} (content : ∀ line ∈ block.lines, lineKind heads line = .content)
    (one : ∀ line ∈ block.lines, '\n' ∉ line) (values : table.HoldsPhrases)
    (h : block.target? = some request) : (block.caseOf table request).IsWellFormed where
  path := VariableTable.isPhrase_interpolate values (isPhrase_target h)
  name := fun _ => Naming.mem_sanitize
  expected := by
    cases named : block.heading.bind Naming.ofHeading? with
    | none => exact ⟨200, by decide, by rw [caseOf, named]; rfl⟩
    | some name =>
      obtain ⟨code, listed, inferred⟩ := Naming.exists_inferStatus name
      refine ⟨code, listed, ?_⟩
      rw [caseOf, named]
      simp [inferred, TestCase.expectation, Text.distinct]
  testType := rfl
  schema := rfl
  headers := BlockReading.headers_ofBlock block
  distinct := by
    rw [caseOf, BlockReading.ofBlock_eq]
    exact HeaderList.isDistinct_ofList _
  body := by
    intro body hb
    rw [caseOf] at hb
    dsimp only at hb
    split at hb
    · cases hb
    next some_body =>
      obtain rfl := Option.some.inj hb
      exact BlockReading.body_ofBlock content one (by simpa using some_body)

end Block

namespace Document

/-- Every case of a document is well formed, and it expects the default status if nothing stands
behind the mark of its heading. -/
theorem cases_isWellFormed (heads : List Text) (text : Text) :
    let document := ofText heads text
    let given := fun block : Block => (block.testCase? document.table).1
    document.cases = (Block.ofText heads text).filterMap given ∧
    (∀ test ∈ document.cases, test.IsWellFormed) ∧
    ∀ block ∈ Block.ofText heads text, ∀ test ∈ given block,
      (∀ heading ∈ block.heading, Text.trim heading = Block.mark) → test.expected = [200] := by
  intro document given
  have listed : document.cases = (Block.ofText heads text).filterMap given := by
    simp [document, ofText, given, List.filterMap_map]
  refine ⟨listed, fun test ht => ?_, fun block hb test ht unnamed => ?_⟩
  · obtain ⟨block, hb, told⟩ := List.mem_filterMap.1 (listed ▸ ht)
    obtain ⟨holds, -⟩ := Block.holdsContent_ofText heads text block hb
    cases target : block.target? with
    | none => simp [given, Block.testCase?_of_none target] at told
    | some request =>
      simp only [given, Block.testCase?_of_some target, Option.some.injEq] at told
      exact told ▸ Block.isWellFormed_caseOf holds.content
        (fun line => Block.newline_not_mem_of_mem_ofText hb)
        (VariableScan.holdsPhrases_ofText text) target
  · have none_named : block.heading.bind Naming.ofHeading? = none := by
      cases heading : block.heading with
      | none => rfl
      | some line => exact Naming.ofHeading?_of_mark (unnamed line heading)
    cases target : block.target? with
    | none => simp [given, Block.testCase?_of_none target] at ht
    | some request =>
      simp only [given, Block.testCase?_of_some target, Option.mem_def, Option.some.injEq] at ht
      rw [← ht, Block.caseOf, none_named]
      rfl

/-- The first block has no heading, and its path names two failures. -/
theorem cases_isWellFormed_unnamed :
    let text : Text := "@id = 7\r\n GET /invalid/404?id=\x7b\x7bid\x7d\x7d HTTP/1.1\nX-A : b:c\n" ++
      "### Not found\nPOST /\nx-a:1\nX-A:2\n  \x7b\n@skipped\n\x7d"
    let document := ofText [] text
    let first : Block :=
      { heading := none
        lines := [" GET /invalid/404?id=\x7b\x7bid\x7d\x7d HTTP/1.1", "X-A : b:c"]
        line := 2 }
    first ∈ Block.ofText [] text ∧ (∀ heading ∈ first.heading, Text.trim heading = Block.mark) ∧
      ∃ test ∈ (first.testCase? document.table).1, test.path = "/invalid/404?id=7" ∧
        test.IsWellFormed ∧ test.expected = [200] := by
  intro text document first
  obtain ⟨listed, formed, unnamed⟩ := cases_isWellFormed [] text
  have block : first ∈ Block.ofText [] text := by decide +kernel
  have nothing : ∀ heading ∈ first.heading, Text.trim heading = Block.mark := nofun
  have path : (first.testCase? document.table).1.map TestCase.path =
      some "/invalid/404?id=7" := by decide +kernel
  obtain ⟨test, given, same⟩ := Option.map_eq_some_iff.1 path
  have member : test ∈ document.cases := by
    rw [listed]
    exact List.mem_filterMap.2 ⟨first, block, given⟩
  exact ⟨block, nothing, test, given, same, formed test member,
    unnamed first block test given nothing⟩

end Document
end HttpContract
