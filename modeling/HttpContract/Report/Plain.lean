import HttpContract.Number.Shortest
import HttpContract.Run.Summary

/-! The report as plain text: the totals, and the failures with their messages. -/
namespace HttpContract
namespace PlainReport

def rateText (summary : Summary) : Text := summary.successRate.fixed 2 ++ ['%']

def totals (summary : Summary) (time : Timestamp) : List Text :=
  ["Contract Test Summary", "=====================", "Generated: " ++ time.text,
    "Total Tests: " ++ Text.decimal summary.total, "Passed: " ++ Text.decimal summary.passed,
    "Failed: " ++ Text.decimal summary.failed, "Success Rate: " ++ rateText summary,
    "Total Time: " ++ summary.totalTime.millis.fixed 0 ++ "ms"]

def failure (result : TestResult) : Text :=
  "- " ++ result.name ++ ": " ++ result.error.getD "unknown error"

/-- The failures in the order of the run, below a heading of their own. -/
def failures (results : List TestResult) : List Text :=
  let failed := results.filter fun result => !result.passed
  if failed.isEmpty then [] else [] :: "Failed Tests:" :: failed.map failure

def render? (results : List TestResult) (time : Timestamp) : Option Text :=
  (Summary.ofResults? results).map fun summary =>
    (totals summary time ++ failures results).flatMap (· ++ ['\n'])

end PlainReport
end HttpContract
