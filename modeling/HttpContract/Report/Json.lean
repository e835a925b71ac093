import HttpContract.Json.Pretty
import HttpContract.Number.Shortest
import HttpContract.Run.Summary

/-! The report as a JSON document: the totals and every result in the order of the run, times in
milliseconds. -/
namespace HttpContract
namespace JsonReport

def ofNat (n : Nat) : Json := .number (Text.decimal n)

def ofTime (time : Duration) : Json := .number time.millis.shortest.json

def ofOption {α : Type} (encode : α → Json) (value : Option α) : Json :=
  (value.map encode).getD .null

def ofSummary (summary : Summary) : Json :=
  .object [("total", ofNat summary.total), ("passed", ofNat summary.passed),
    ("failed", ofNat summary.failed), ("totalExecutionTime", ofTime summary.totalTime)]

def ofResult (result : TestResult) : Json :=
  .object [("testName", .string result.name), ("passed", .bool result.passed),
    ("actualStatusCode", ofOption ofNat result.actual),
    ("expectedStatusCode", ofOption ofNat result.expected),
    ("executionTime", ofTime result.elapsed), ("errorMessage", ofOption .string result.error),
    ("executedAt", .string result.startedAt.text)]

def document (summary : Summary) (results : List TestResult) (time : Timestamp) : Json :=
  .object [("generatedAt", .string time.text), ("summary", ofSummary summary),
    ("results", .array (results.map ofResult))]

def render? (results : List TestResult) (time : Timestamp) : Option Text :=
  (Summary.ofResults? results).map fun summary => (document summary results time).pretty

end JsonReport
end HttpContract
