import HttpContract.CommandLine.Usage
import HttpContract.Config.Load
import HttpContract.Definitions.Document
import HttpContract.Report.Console
import HttpContract.Report.Files

/-! The whole program: from the command line to the exit code, the printed text, the files that are
left and the requests that were sent. -/
namespace HttpContract

/-- What a run finds around it: files, a network, the times that the cases take, the time of the
reports, and whether the output takes colours. -/
structure Surroundings where
  tree : FileTree
  network : Network
  timing : Nat → Timing := fun _ => {}
  now : Timestamp := default
  color : Bool := false

inductive Ending where
  | passed
  | failed
  | stopped (error : RunError)
  | crashed (crash : Crash)
  deriving Inhabited

def Ending.exitCode : Ending → Nat
  | passed => 0
  | failed | stopped _ => 1
  | crashed _ => Crash.exitCode

/-- What the execution of all cases gives: the requests that were sent, and the results, or how
the run ends without them. -/
structure Attempt where
  sent : List Request := []
  results : Except Ending (List TestResult)

structure Outcome where
  ending : Ending
  output : Text := []
  tree : FileTree
  sent : List Request := []

namespace Program

variable [DomainNames]

/-- The configuration of a run: that of the file, overridden by the flags. Both have to be
valid. -/
def configure (flags : Flags) (tree : FileTree) : Except RunError Config :=
  ((Config.load tree flags.config).bind fun config => do
    let config := flags.apply config
    config.validate
    return config).mapError .invalidConfig

def noTestsText (path : Text) : Text := "No tests found in " ++ path ++ "\n"

/-- How a run ends if the execution of a case crashes. A crash of a worker of a pool is noticed,
and stops the run. -/
def endingOf (crash : Crash) : Strategy → Ending
  | .sequential => .crashed crash
  | .pool _ => .stopped (.crashedWorker crash)

/-- Executes the cases; the results come in the order of the cases. -/
def executeCases (world : Surroundings) (base : Url) (strategy : Strategy)
    (cases : List TestCase) : Attempt :=
  let execute : TestCase × Nat → Except Crash Execution := fun (test, number) =>
    Execution.ofCase world.network base (world.timing number) test
  match strategy.run execute cases.zipIdx with
  | .error index => { results := .error (.stopped (.lostResult index)) }
  | .ok attempts =>
    let executions := (attempts.takeWhile Except.isOk).filterMap Except.toOption
    { sent := executions.flatMap Execution.sent
      results := match attempts.mapM id with
        | .ok executions => .ok (executions.map Execution.result)
        | .error crash => .error (endingOf crash strategy) }

/-- Reports the results: first in files, then on the console. There is nothing to report if the
times of the cases exceed the greatest duration. -/
def report? (world : Surroundings) (flags : Flags) (config : Config)
    (sent : List Request) (results : List TestResult) : Option Outcome := do
  let color := world.color && !flags.noColor
  let summary ← Summary.ofResults? results
  match ← ReportFiles.write world.tree config.outputDir results config.formats world.now with
  | (tree, .error error) => return { ending := .stopped error, tree, sent }
  | (tree, .ok _) =>
    let output ← ConsoleReport.render? color results
    return { ending := if summary.allPassed then .passed else .failed, output, tree, sent }

def reportResults (world : Surroundings) (flags : Flags) (config : Config)
    (sent : List Request) (results : List TestResult) : Outcome :=
  (report? world flags config sent results).getD
    { ending := .crashed .timesOverflow, tree := world.tree, sent }

/-- Runs a document: nothing happens without cases, or without a base address. -/
def runDocument (world : Surroundings) (flags : Flags) (config : Config) (document : Document) :
    Outcome :=
  if document.cases.isEmpty then
    { ending := .failed, output := noTestsText config.httpFile, tree := world.tree }
  else match Request.baseUrl config.apiUrl with
    | .error cause =>
      { ending := .stopped (.invalidBaseUrl config.apiUrl cause), tree := world.tree }
    | .ok base =>
      let attempt := executeCases world base config.strategy document.cases
      match attempt.results with
      | .error ending => { ending, tree := world.tree, sent := attempt.sent }
      | .ok results => reportResults world flags config attempt.sent results

def run (world : Surroundings) (flags : Flags) : Outcome :=
  let loaded := do
    let config ← configure flags world.tree
    let document ← Document.load world.tree config.protectedHeads config.httpFile
    return (config, document)
  match loaded with
  | .error error => { ending := .stopped error, tree := world.tree }
  | .ok (config, document) => runDocument world flags config document

structure Printed where
  exitCode : Nat
  output : Text := []
  complaint : Option Text := none
  tree : FileTree
  sent : List Request := []

def complaint? : Ending → Option Text
  | .passed | .failed => none
  | .stopped error => some ("error: " ++ error.message ++ "\n")
  | .crashed crash => some (crash.message ++ "\n")

/-- The program with its arguments: a run, or the text that the arguments ask for or deserve. -/
def main (world : Surroundings) (arguments : List Text) : Printed :=
  match CommandLine.parse arguments with
  | .ok flags =>
    let outcome := run world flags
    { exitCode := outcome.ending.exitCode
      output := outcome.output
      complaint := complaint? outcome.ending
      tree := outcome.tree
      sent := outcome.sent }
  | .error usage =>
    if usage.isRequest then
      { exitCode := usage.exitCode, output := usage.message, tree := world.tree }
    else { exitCode := usage.exitCode, complaint := some usage.message, tree := world.tree }

end Program
end HttpContract
