import HttpContract.FileTree.Directories
import HttpContract.Report.Format
import HttpContract.Report.Html
import HttpContract.Report.Json
import HttpContract.Report.Plain
import HttpContract.RunError

/-! Writing the reports of a run into a directory, one file for each format. -/
namespace HttpContract
namespace ReportFiles

/-- A report in a format; none if the run has no summary. -/
def render? (format : ReportFormat) (results : List TestResult) (time : Timestamp) : Option Text :=
  match format with
  | .html => HtmlReport.render? results time
  | .json => JsonReport.render? results time
  | .text => PlainReport.render? results time

def pathOf (directory : Text) (format : ReportFormat) : Text :=
  FileTree.joinPath directory format.fileName

/-- The tree that is left, and the paths that were written or the fault that ended the writing. -/
abbrev Delivery := FileTree × Except RunError (List Text)

def writeEach (directory : Text) (results : List TestResult) (time : Timestamp) :
    List ReportFormat → FileTree → Option Delivery
  | [], tree => some (tree, .ok [])
  | format :: formats, tree => do
    let content ← render? format results time
    let path := pathOf directory format
    match tree.write path (Utf8.encode content) with
    | .error fault => return (tree, .error (.unwritableReport path fault))
    | .ok tree =>
      let (tree, others) ← writeEach directory results time formats tree
      return (tree, others.map (path :: ·))

/-- Makes the directory and writes a report for every distinct format; none if a report cannot be
rendered. -/
def write (tree : FileTree) (directory : Text) (results : List TestResult)
    (formats : List ReportFormat) (time : Timestamp) : Option Delivery :=
  match tree.makeAll directory with
  | (tree, .error fault) => some (tree, .error (.unwritableReport directory fault))
  | (tree, .ok ()) => writeEach directory results time (Text.distinct formats) tree

end ReportFiles
end HttpContract
