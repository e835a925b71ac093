import HttpContract.Json.Parse
import HttpContract.Transport.Network

/-! Judging a response by what its test case expects. -/
namespace HttpContract

inductive Complaint where
  | unexpectedStatus (expected : List StatusCode) (actual : StatusCode)
  | noSuccess (actual : StatusCode)
  | invalidJson (error : JsonError)
  | unsupportedType (testType : TestType)
  deriving DecidableEq, Inhabited

def Complaint.message : Complaint → Text
  | unexpectedStatus expected actual =>
    "Expected status codes: " ++ Text.join ", " (expected.map Text.decimal) ++ ", but got: " ++
      Text.decimal actual
  | noSuccess actual =>
    "Schema validation requires a success response, but got: " ++ Text.decimal actual
  | invalidJson error => "Response schema validation failed: " ++ error.message
  | unsupportedType testType => "Unsupported test type: " ++ testType.text

namespace Verdict

def ofStatus (expected : List StatusCode) (actual : StatusCode) : Option Complaint :=
  if actual ∈ expected then none else some (.unexpectedStatus expected actual)

/-- A success response must have a JSON body, if the case hints at a schema and there is a body
at all. -/
def ofSchema (schema : Option Text) (response : Response) : Option Complaint :=
  if !response.isSuccess then some (.noSuccess response.status)
  else
    let body := response.body.getD []
    if Text.isBlank (schema.getD []) || Text.isBlank body then none
    else match Json.parse body with
      | .ok _ => none
      | .error error => some (.invalidJson error)

def judge (test : TestCase) (response : Response) : Option Complaint :=
  match test.testType with
  | .statusCode => ofStatus test.expected response.status
  | .schema => ofSchema test.schema response
  | .performance | .security => some (.unsupportedType test.testType)

end Verdict
end HttpContract
