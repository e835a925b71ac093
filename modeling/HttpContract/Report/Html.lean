import HttpContract.Number.Shortest
import HttpContract.Report.Markup
import HttpContract.Run.Summary

/-! The report as a web page: totals, and one item per result in the order of the test names. -/
namespace HttpContract
namespace HtmlReport

open Markup

def styleSheet : Text :=
  "\nbody \x7b font-family: sans-serif; margin: 2rem; color: #222; \x7d\n" ++
  ".summary \x7b display: flex; gap: 2rem; margin-bottom: 1.5rem; \x7d\n" ++
  ".test \x7b border-left: 4px solid; padding: 0.5rem 1rem; margin-bottom: 0.5rem; \x7d\n" ++
  ".passed \x7b border-color: #2e7d32; background: #f1f8e9; \x7d\n" ++
  ".failed \x7b border-color: #c62828; background: #ffebee; \x7d\n" ++
  ".error \x7b font-family: monospace; white-space: pre-wrap; \x7d\n"

def timeText (time : Duration) : Text := time.millis.fixed 0 ++ "ms"

def head : List Piece :=
  [.tag "!DOCTYPE html", .newLine, .tag "html lang=\"en\"", .newLine, .tag "head", .newLine,
    .tag "meta charset=\"utf-8\"", .newLine] ++
  elementLine "title" [] [.text "Contract Test Report"] ++
  elementLine "style" [] [.text styleSheet] ++
  [.tag "/head", .newLine, .tag "body", .newLine] ++
  elementLine "h1" [] [.text "Contract Test Report"]

def generated (time : Timestamp) : List Piece :=
  elementLine "p" [] [.text ("Generated: " ++ time.text)]

def total (label value : Text) : List Piece :=
  elementLine "div" [] (.text (label ++ ": ") :: element "strong" [] [.text value])

def totals (summary : Summary) : List Piece :=
  elementLine "div" " class=\"summary\"" (.newLine ::
    (total "Passed" (Text.decimal summary.passed) ++ total "Failed" (Text.decimal summary.failed) ++
      total "Total" (Text.decimal summary.total) ++
      total "Total Time" (timeText summary.totalTime)))

def complaint (result : TestResult) : List Piece :=
  match result.passed, result.error with
  | false, some error => elementLine "p" " class=\"error\"" [.text ("Error: " ++ error)]
  | _, _ => []

def item (result : TestResult) : List Piece :=
  let (style, label) : Text × Text :=
    if result.passed then ("passed", "PASSED") else ("failed", "FAILED")
  elementLine "div" (" class=\"test " ++ style ++ ['"']) (.newLine ::
    (elementLine "h3" [] [.text result.name] ++
      elementLine "p" [] [.text ("Status: " ++ label ++ " | Time: " ++ timeText result.elapsed)] ++
      complaint result))

def foot : List Piece := [.tag "/body", .newLine, .tag "/html", .newLine]

/-- Results by their names; those of one name keep their order. -/
def sorted (results : List TestResult) : List TestResult :=
  results.mergeSort fun a b => !decide (b.name < a.name)

def page (summary : Summary) (results : List TestResult) (time : Timestamp) : List Piece :=
  head ++ generated time ++ totals summary ++ (sorted results).flatMap item ++ foot

def render? (results : List TestResult) (time : Timestamp) : Option Text :=
  (Summary.ofResults? results).map fun summary => Markup.render (page summary results time)

end HtmlReport
end HttpContract
