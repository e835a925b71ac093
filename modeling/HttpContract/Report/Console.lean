import HttpContract.Report.Plain
import HttpContract.Report.Style

/-! The report on the console: a line for every result in the order of the run, and a line of
totals, with or without colours. -/
namespace HttpContract
namespace ConsoleReport

open TextStyle

def elapsed (color : Bool) (time : Duration) : Text :=
  dimmed.apply color (['('] ++ time.millis.fixed 0 ++ "ms)")

/-- The lines of a result; a failure has its message below it. -/
def entry (color : Bool) (result : TestResult) : List Text :=
  if result.passed then
    [boldGreen.apply color "[PASS]" ++ [' '] ++ result.name ++ [' '] ++
      elapsed color result.elapsed]
  else
    (boldRed.apply color "[FAIL]" ++ [' '] ++ boldRed.apply color result.name ++ [' '] ++
      elapsed color result.elapsed) ::
    result.error.toList.map fun error =>
      "  " ++ bold.apply color "error:" ++ [' '] ++ red.apply color error

def totals (color : Bool) (summary : Summary) : Text :=
  let failedStyle := if summary.failed > 0 then boldRed else green
  "Total: " ++ Text.decimal summary.total ++ ", Passed: " ++
    green.apply color (Text.decimal summary.passed) ++ ", Failed: " ++
    failedStyle.apply color (Text.decimal summary.failed) ++ ", Success Rate: " ++
    PlainReport.rateText summary

def render? (color : Bool) (results : List TestResult) : Option Text :=
  (Summary.ofResults? results).map fun summary =>
    (results.flatMap (entry color) ++ [totals color summary]).flatMap (· ++ ['\n'])

end ConsoleReport
end HttpContract
