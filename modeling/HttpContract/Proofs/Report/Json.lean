import HttpContract.Proofs.Json.Printing
import HttpContract.Proofs.Number.Shortest
import HttpContract.Proofs.Run.Summary
import HttpContract.Report.Json

/-! The report as a document that can be read: every result is found in it under the names of its
fields, and the totals are those of the listed results. -/
namespace HttpContract

namespace Json

def field? (name : Text) : Json → Option Json
  | .object members => members.lookup name
  | _ => none

def items? : Json → Option (List Json)
  | .array items => some items
  | _ => none

def text? : Json → Option Text
  | .string value => some value
  | _ => none

def bool? : Json → Option Bool
  | .bool value => some value
  | _ => none

def nat? : Json → Option Nat
  | .number lexeme => Text.natOfDigits? 10 lexeme
  | _ => none

def nullable? {α : Type} (decode : Json → Option α) : Json → Option (Option α)
  | .null => some none
  | value => (decode value).map some

end Json

namespace JsonReport

structure Entry where
  testName : Text
  passed : Bool
  actual : Option StatusCode
  expected : Option StatusCode
  error : Option Text
  deriving DecidableEq

def Entry.ofResult (result : TestResult) : Entry :=
  { testName := result.name
    passed := result.passed
    actual := result.actual
    expected := result.expected
    error := result.error }

def entry? (value : Json) : Option Entry := do
  return {
    testName := ← (value.field? "testName").bind Json.text?
    passed := ← (value.field? "passed").bind Json.bool?
    actual := ← (value.field? "actualStatusCode").bind (Json.nullable? Json.nat?)
    expected := ← (value.field? "expectedStatusCode").bind (Json.nullable? Json.nat?)
    error := ← (value.field? "errorMessage").bind (Json.nullable? Json.text?) }

structure Content where
  total : Nat
  passed : Nat
  failed : Nat
  entries : List Entry
  deriving DecidableEq

def content? (document : Json) : Option Content := do
  let summary ← document.field? "summary"
  let results ← (document.field? "results").bind Json.items?
  return {
    total := ← (summary.field? "total").bind Json.nat?
    passed := ← (summary.field? "passed").bind Json.nat?
    failed := ← (summary.field? "failed").bind Json.nat?
    entries := ← results.mapM entry? }

@[simp] theorem nat?_ofNat (n : Nat) : (ofNat n).nat? = some n := Text.natOfDigits?_decimal n

@[simp] theorem nullable?_ofNat (n : Option Nat) :
    Json.nullable? Json.nat? (ofOption ofNat n) = some n := by
  cases n with
  | none => rfl
  | some n => exact congrArg (Option.map some) (nat?_ofNat n)

@[simp] theorem nullable?_string (value : Option Text) :
    Json.nullable? Json.text? (ofOption .string value) = some value := by cases value <;> rfl

@[simp] theorem entry?_ofResult (result : TestResult) :
    entry? (ofResult result) = some (.ofResult result) := by
  have lookUp : entry? (ofResult result) = do
      return {
        testName := result.name
        passed := result.passed
        actual := ← Json.nullable? Json.nat? (ofOption ofNat result.actual)
        expected := ← Json.nullable? Json.nat? (ofOption ofNat result.expected)
        error := ← Json.nullable? Json.text? (ofOption .string result.error) } := rfl
  rw [lookUp, nullable?_ofNat, nullable?_ofNat, nullable?_string]
  rfl

@[simp] theorem mapM_entry? (results : List TestResult) :
    (results.map ofResult).mapM entry? = some (results.map Entry.ofResult) := by
  induction results with
  | nil => rfl
  | cons result results ih =>
    rw [List.map_cons, List.mapM_cons, entry?_ofResult, ih]
    rfl

@[simp]
theorem content?_document (summary : Summary) (results : List TestResult) (time : Timestamp) :
    content? (document summary results time) = some
      { total := summary.total, passed := summary.passed, failed := summary.failed
        entries := results.map Entry.ofResult } := by
  have lookUp : content? (document summary results time) = do
      return {
        total := ← (ofNat summary.total).nat?
        passed := ← (ofNat summary.passed).nat?
        failed := ← (ofNat summary.failed).nat?
        entries := ← (results.map ofResult).mapM entry? } := rfl
  rw [lookUp, nat?_ofNat, nat?_ofNat, nat?_ofNat, mapM_entry?]
  rfl

/-! The parts of the document can be read. -/

section

variable {depth : Nat}

@[simp] theorem fits_ofNat {n : Nat} (h : n < 18446744073709551616) : Json.Fits depth (ofNat n) :=
  .number (Json.isNumber_decimal h)

@[simp] theorem fits_ofTime (time : Duration) : Json.Fits depth (ofTime time) :=
  .number time.isNumber_millis

theorem fits_ofOption {α : Type} {encode : α → Json} {value : Option α}
    (h : ∀ a ∈ value, Json.Fits depth (encode a)) : Json.Fits depth (ofOption encode value) := by
  cases value with
  | none => exact .null
  | some a => exact h a rfl

/-- The status codes of a result have sixteen bits. -/
def HasCodes (result : TestResult) : Prop :=
  ∀ code, result.actual = some code ∨ result.expected = some code → code < 65536

theorem fits_ofResult {result : TestResult} (h : HasCodes result) :
    Json.Fits (depth + 1) (ofResult result) := by
  have code {n : Nat} (small : n < 65536) : Json.Fits depth (ofNat n) :=
    fits_ofNat (small.trans (by decide))
  refine .object ?_
  simp only [List.forall_mem_cons]
  exact ⟨.string _, .bool _, fits_ofOption fun n hn => code (h n (.inl hn)),
    fits_ofOption fun n hn => code (h n (.inr hn)), fits_ofTime _,
    fits_ofOption fun _ _ => .string _, .string _, nofun⟩

theorem fits_ofSummary {summary : Summary} (total : summary.total < 18446744073709551616)
    (passed : summary.passed ≤ summary.total) (failed : summary.failed ≤ summary.total) :
    Json.Fits (depth + 1) (ofSummary summary) := by
  refine .object ?_
  simp only [List.forall_mem_cons]
  exact ⟨fits_ofNat total, fits_ofNat (passed.trans_lt total), fits_ofNat (failed.trans_lt total),
    fits_ofTime _, nofun⟩

theorem fits_document {summary : Summary} {results : List TestResult}
    (totals : Json.Fits (depth + 2) (ofSummary summary))
    (codes : ∀ result ∈ results, HasCodes result) (time : Timestamp) :
    Json.Fits (depth + 3) (document summary results time) := by
  refine .object ?_
  simp only [List.forall_mem_cons]
  refine ⟨.string _, totals, .array fun item listed => ?_, nofun⟩
  obtain ⟨result, run, rfl⟩ := List.mem_map.1 listed
  exact fits_ofResult (codes result run)

end

/-- The report of a run is a document that is read back as it was meant: an entry for each result
in the order of the run, and totals that count the entries. -/
theorem render?_content (results : List TestResult) (time : Timestamp)
    (fits : Duration.exactSum (results.map TestResult.elapsed) ≤ Duration.greatest.totalNanos)
    (count : results.length < 18446744073709551616) (codes : ∀ result ∈ results, HasCodes result) :
    ∃ summary text content, render? results time = some text ∧
      Json.parse text = .ok (document summary results time) ∧
      content? (document summary results time) = some content ∧
      content.entries = results.map Entry.ofResult ∧
      content.total = content.entries.length ∧
      content.passed = content.entries.countP (·.passed = true) ∧
      content.failed = content.entries.countP (·.passed = false) := by
  obtain ⟨summary, counted⟩ := Option.isSome_iff_exists.1 (Summary.ofResults?_isSome_iff.2 fits)
  obtain ⟨total, passed, failed⟩ := Summary.counts_of_ofResults? counted
  have totals : Json.Fits (124 + 2) (ofSummary summary) := fits_ofSummary (total ▸ count)
    (total ▸ passed ▸ List.countP_le_length) (total ▸ failed ▸ List.countP_le_length)
  refine ⟨summary, _, _, by rw [render?, counted, Option.map_some],
    Json.parse_pretty (fits_document totals codes time), content?_document summary results time,
    rfl, ?_, ?_, ?_⟩
  · rw [List.length_map, total]
  · rw [List.countP_map, passed]
    rfl
  · rw [List.countP_map, failed]
    rfl

/-- A run with texts that have to be escaped, and with values that are absent. -/
def escapedRun : List TestResult :=
  [{ name := "say \"\\n\"\x00\x1f\n", passed := false, actual := none, expected := some 200,
     error := some "\t\x08\x0c\r\\u0041/é😀", elapsed := .ofMillis 1500, startedAt := ⟨0, 0, 0⟩ },
   { name := "", passed := true, actual := some 204, expected := none, error := none,
     elapsed := .zero, startedAt := ⟨0, 0, 0⟩ }]

theorem render?_content_escapedRun :
    Duration.exactSum (escapedRun.map TestResult.elapsed) ≤ Duration.greatest.totalNanos ∧
    escapedRun.length < 18446744073709551616 ∧ (∀ result ∈ escapedRun, HasCodes result) ∧
    ∃ summary text content, render? escapedRun ⟨0, 0, 0⟩ = some text ∧
      Json.parse text = .ok (document summary escapedRun ⟨0, 0, 0⟩) ∧
      content? (document summary escapedRun ⟨0, 0, 0⟩) = some content ∧
      content.entries = escapedRun.map Entry.ofResult ∧
      content.total = 2 ∧ content.passed = 1 ∧ content.failed = 1 := by
  have fits : Duration.exactSum (escapedRun.map TestResult.elapsed) ≤
      Duration.greatest.totalNanos := by decide
  have codes : ∀ result ∈ escapedRun, HasCodes result := by simp [escapedRun, HasCodes]
  obtain ⟨summary, text, content, rendered, parsed, decoded, entries, total, passed, failed⟩ :=
    render?_content escapedRun ⟨0, 0, 0⟩ fits (by decide) codes
  rw [entries] at total passed failed
  exact ⟨fits, by decide, codes, summary, text, content, rendered, parsed, decoded, entries, total,
    passed, failed⟩

end JsonReport
end HttpContract
