import HttpContract.Proofs.Url.Drive
import HttpContract.Run.Result

/-! What the record of an executed case says, whatever the server does, and the one kind of target
that leaves no record. -/
namespace HttpContract

@[simp] theorem Complaint.message_ne_nil (complaint : Complaint) : complaint.message ≠ [] := by
  unfold message
  cases complaint <;> simp

theorem TestCase.primaryStatus_mem {test : TestCase} (h : test.expected ≠ []) :
    test.primaryStatus ∈ test.expected := by
  obtain ⟨code, codes, same⟩ := List.exists_cons_of_ne_nil h
  simp [primaryStatus, same]

/-- What a record says, given the text of the URL that the request was made for. -/
structure TestResult.IsRecordOf (result : TestResult) (test : TestCase) (url : Text) : Prop where
  name : result.name = test.name
  expected : result.expected = some test.primaryStatus
  expected_mem : test.expected ≠ [] → ∃ code ∈ test.expected, result.expected = some code
  passed_iff : result.passed = true ↔ result.error = none
  error_ne_nil : ∀ error ∈ result.error, error ≠ []
  actual_iff : result.actual = none ↔ result.origin.transportError ≠ none
  unanswered : ∀ kind ∈ result.origin.transportError, result.passed = false ∧
    result.content = none ∧ ∃ message, result.error = some (message ++ " (" ++ kind.code ++ ")")
  method : result.origin.method = test.method
  url : result.origin.url = url

namespace TestResult

variable (test : TestCase) (url : Text) (timing : Timing)

@[simp] theorem isRecordOf_ofResponse (response : Response) :
    (ofResponse test url timing response).IsRecordOf test url where
  name := rfl
  expected := rfl
  expected_mem some_code := ⟨_, TestCase.primaryStatus_mem some_code, rfl⟩
  passed_iff := by simp [ofResponse]
  error_ne_nil error h := by
    obtain ⟨complaint, -, rfl⟩ := Option.map_eq_some_iff.1 h
    exact complaint.message_ne_nil
  actual_iff := by simp [ofResponse]
  unanswered _ h := by cases h
  method := rfl
  url := rfl

@[simp] theorem isRecordOf_ofFailure (error : TransportError) :
    (ofFailure test url timing error).IsRecordOf test url where
  name := rfl
  expected := rfl
  expected_mem some_code := ⟨_, TestCase.primaryStatus_mem some_code, rfl⟩
  passed_iff := by simp [ofFailure]
  error_ne_nil _ h := by
    obtain rfl := Option.some.inj h
    simp [TransportError.text]
  actual_iff := by simp [ofFailure]
  unanswered kind h := by
    obtain rfl := Option.some.inj h
    exact ⟨rfl, rfl, error.message, rfl⟩
  method := rfl
  url := rfl

end TestResult

namespace Execution

section

variable [DomainNames]

/-- The text of the URL that a target resolves to, or the target if it does not. -/
def recordedUrl (base : Url) (target : Text) : Text :=
  match base.join (Text.trim target) with
  | .ok url => url.text
  | .error _ => target

theorem isRecordOf_ofRequest (network : Network) (timing : Timing) (test : TestCase)
    (request : Request) :
    (ofRequest network timing test request).result.IsRecordOf test request.url.text := by
  simp only [ofRequest]
  split
  · exact TestResult.isRecordOf_ofFailure ..
  · exact TestResult.isRecordOf_ofResponse ..

/-- A case is recorded, unless its target climbs from a drive. -/
theorem ofCase_isRecordOf (network : Network) (base : Url) (timing : Timing) (test : TestCase) :
    (base.ClimbsFromDrive (Text.trim test.path) ∧
      ofCase network base timing test = .error .dotsBehindDrive) ∨
    (¬ base.ClimbsFromDrive (Text.trim test.path) ∧
      ∃ execution, ofCase network base timing test = .ok execution ∧
        execution.result.IsRecordOf test (recordedUrl base test.path)) := by
  rw [← Url.join_eq_dots_iff]
  unfold ofCase Request.prepare Request.resolve recordedUrl
  cases joined : base.join (Text.trim test.path) with
  | ok url => exact .inr ⟨nofun, _, rfl, isRecordOf_ofRequest network timing test _⟩
  | error cause =>
    by_cases dots : cause = .dotsBehindDrive
    · subst dots
      exact .inl ⟨rfl, rfl⟩
    · refine .inr ⟨by simpa using dots, ⟨TestResult.ofFailure test test.path timing
        (.unresolvable test.path cause), []⟩, ?_, TestResult.isRecordOf_ofFailure ..⟩
      cases cause <;> first | rfl | exact absurd rfl dots

end

def driveFile : Url :=
  { scheme := "file", authority := some { host := .domain [] }, path := .segments ["a", "C:"] }

/-- The directory above the drive leaves no record. -/
theorem ofCase_above_drive :
    let _ : DomainNames := .asciiOnly
    Request.baseUrl "file:///a/C:" = .ok driveFile ∧
    ofCase { isUp := true, server := fun _ => .close } driveFile {} (.new "case" .get "..") =
      .error .dotsBehindDrive := by
  intro names
  have crash : Request.prepare driveFile (.new "case" .get "..") = .error .dotsBehindDrive := by
    decide +kernel
  refine ⟨by decide +kernel, ?_⟩
  rw [ofCase, crash]
  rfl

end Execution
end HttpContract
