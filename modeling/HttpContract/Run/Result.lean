import HttpContract.Run.Verdict
import HttpContract.Time.Duration
import HttpContract.Time.Timestamp

/-! The record of one executed test case. -/
namespace HttpContract

/-- Where a result comes from: the request, and the code of a transport failure. -/
structure Origin where
  method : Method
  url : Text
  transportError : Option FailureKind
  deriving DecidableEq, Inhabited

structure TestResult where
  name : Text
  passed : Bool
  actual : Option StatusCode
  expected : Option StatusCode
  error : Option Text
  content : Option Text := none
  elapsed : Duration
  startedAt : Timestamp
  origin : Origin := default
  deriving DecidableEq, Inhabited

structure Timing where
  startedAt : Timestamp := ⟨0, 0, 0⟩
  elapsed : Duration := .zero
  deriving DecidableEq, Inhabited

namespace TestResult

def ofResponse (test : TestCase) (url : Text) (timing : Timing) (response : Response) :
    TestResult :=
  let complaint := Verdict.judge test response
  { name := test.name
    passed := complaint.isNone
    actual := some response.status
    expected := some test.primaryStatus
    error := complaint.map Complaint.message
    content := response.body
    elapsed := timing.elapsed
    startedAt := timing.startedAt
    origin := { method := test.method, url, transportError := none } }

def ofFailure (test : TestCase) (url : Text) (timing : Timing) (error : TransportError) :
    TestResult :=
  { name := test.name
    passed := false
    actual := none
    expected := some test.primaryStatus
    error := some error.text
    content := none
    elapsed := timing.elapsed
    startedAt := timing.startedAt
    origin := { method := test.method, url, transportError := some error.kind } }

end TestResult

structure Execution where
  result : TestResult
  sent : List Request

namespace Execution

variable [DomainNames]

def ofRequest (network : Network) (timing : Timing) (test : TestCase) (request : Request) :
    Execution :=
  let exchange := network.send request
  match exchange.outcome with
  | .error error => ⟨TestResult.ofFailure test request.url.text timing error, exchange.sent⟩
  | .ok response => ⟨TestResult.ofResponse test request.url.text timing response, exchange.sent⟩

/-- Executes a case. A target that does not resolve is recorded as it is written. -/
def ofCase (network : Network) (base : Url) (timing : Timing) (test : TestCase) :
    Except Crash Execution :=
  (Request.prepare base test).map fun
    | .error error => ⟨TestResult.ofFailure test test.path timing error, []⟩
    | .ok request => ofRequest network timing test request

end Execution
end HttpContract
