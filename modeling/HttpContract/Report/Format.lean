import HttpContract.Text.Basic

/-! The kinds of report that a run can leave behind. -/
namespace HttpContract

inductive ReportFormat where
  | html | json | text
  deriving DecidableEq, Inhabited

namespace ReportFormat

def all : List ReportFormat := [html, json, text]

def name : ReportFormat → Text
  | html => "html"
  | json => "json"
  | text => "text"

def fileName : ReportFormat → Text
  | html => "contract-test-report.html"
  | json => "test-results.json"
  | text => "summary.txt"

end ReportFormat
end HttpContract
