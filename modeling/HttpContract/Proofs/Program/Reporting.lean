import HttpContract.Program
import HttpContract.Proofs.Report.Console
import HttpContract.Proofs.Report.Delivery

/-! How a run ends once its results are there. -/
namespace HttpContract

@[simp] theorem ConsoleReport.render?_isSome_iff (color : Bool) {results : List TestResult} :
    (ConsoleReport.render? color results).isSome = true ↔ Summary.TimesFit results := by
  rw [← Summary.ofResults?_isSome_iff, ConsoleReport.render?, Option.isSome_map]

namespace Program

variable {world : Surroundings} {flags : Flags} {config : Config} {sent : List Request}
variable {results : List TestResult}

/-- Everything that reporting can come to. -/
inductive ReportsTo (results : List TestResult) (sent : List Request) : Outcome → Prop
  | blocked (path : Text) (fault : FileFault) (tree : FileTree) :
      ReportsTo results sent { ending := .stopped (.unwritableReport path fault), tree, sent }
  | overflow (tree : FileTree) :
      ReportsTo results sent { ending := .crashed .timesOverflow, tree, sent }
  | done {color : Bool} {summary : Summary} {output : Text} (tree : FileTree)
      (summed : Summary.ofResults? results = some summary)
      (rendered : ConsoleReport.render? color results = some output) :
      ReportsTo results sent
        { ending := if summary.allPassed then .passed else .failed, output, tree, sent }

theorem reportsTo_reportResults :
    ReportsTo results sent (reportResults world flags config sent results) := by
  rw [reportResults]
  cases reported : report? world flags config sent results with
  | none => exact .overflow _
  | some outcome =>
    obtain ⟨summary, summed, reported⟩ := Option.bind_eq_some_iff.1 reported
    obtain ⟨⟨tree, delivery⟩, written, reported⟩ := Option.bind_eq_some_iff.1 reported
    cases delivery with
    | error error =>
      obtain ⟨path, fault, rfl⟩ := ReportFiles.write_eq_error written
      exact Option.some.inj reported ▸ .blocked path fault tree
    | ok paths =>
      obtain ⟨output, rendered, same⟩ := Option.bind_eq_some_iff.1 reported
      exact Option.some.inj same ▸ .done tree summed rendered

variable (flags sent)

theorem reportResults_of_canWrite (fit : Summary.TimesFit results)
    (h : ReportFiles.CanWrite world.tree config.outputDir config.formats) :
    let outcome := reportResults world flags config sent results
    (outcome.ending = .passed ∨ outcome.ending = .failed) ∧
    (outcome.ending = .passed ↔ results ≠ [] ∧ ∀ result ∈ results, result.passed = true) ∧
    ∀ format ∈ config.formats,
      ReportFiles.IsDelivered outcome.tree config.outputDir results world.now format := by
  obtain ⟨tree, written, delivered⟩ := ReportFiles.write_of_canWrite fit h world.now
  obtain ⟨summary, summed⟩ := Option.isSome_iff_exists.1 (Summary.ofResults?_isSome_iff.2 fit)
  obtain ⟨output, rendered⟩ := Option.isSome_iff_exists.1
    (ConsoleReport.render?_isSome_iff (world.color && !flags.noColor) |>.2 fit)
  have same : reportResults world flags config sent results =
      { ending := if summary.allPassed then .passed else .failed, output, tree, sent } := by
    simp [reportResults, report?, written, rendered, summed]
  rw [same, ← Summary.allPassed_iff summed]
  refine ⟨?_, ?_, delivered⟩
  · cases summary.allPassed <;> simp
  · cases summary.allPassed <;> simp

theorem reportResults_of_not_canWrite (fit : Summary.TimesFit results)
    (blocked : ¬ ReportFiles.CanWrite world.tree config.outputDir config.formats) :
    let outcome := reportResults world flags config sent results
    (∃ error, outcome.ending = .stopped error) ∧
    ¬ ((world.tree.makeAll config.outputDir).2 = .ok () ∧ ∀ format ∈ config.formats,
      ReportFiles.IsDelivered outcome.tree config.outputDir results world.now format) := by
  obtain ⟨tree, error, failed, missing⟩ :=
    ReportFiles.write_of_not_canWrite fit blocked world.now
  obtain ⟨summary, summed⟩ := Option.isSome_iff_exists.1 (Summary.ofResults?_isSome_iff.2 fit)
  have same : reportResults world flags config sent results =
      { ending := .stopped error, tree, sent } := by
    simp [reportResults, report?, summed, failed]
  rw [same]
  exact ⟨⟨error, rfl⟩, missing⟩

variable (world config) in
/-- Times that exceed the greatest duration break a run off, and leave no report. -/
theorem reportResults_of_not_timesFit (unfit : ¬ Summary.TimesFit results) :
    reportResults world flags config sent results =
      { ending := .crashed .timesOverflow, tree := world.tree, sent } := by
  have unsummed : Summary.ofResults? results = none :=
    Option.not_isSome_iff_eq_none.1 (Summary.ofResults?_isSome_iff.not.2 unfit)
  simp [reportResults, report?, unsummed]

end Program
end HttpContract
