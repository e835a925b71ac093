import HttpContract.Run.Result

/-! Totals over the results of a run. -/
namespace HttpContract

structure Summary where
  total : Nat
  passed : Nat
  failed : Nat
  totalTime : Duration
  deriving DecidableEq, Inhabited

namespace Summary

/-- Counts the results and adds up their times; none if the times exceed the greatest
duration. -/
def ofResults? (results : List TestResult) : Option Summary := do
  let totalTime ← Duration.sum? (results.map TestResult.elapsed)
  let passed := results.countP TestResult.passed
  return { total := results.length, passed, failed := results.length - passed, totalTime }

/-- The percentage of passed cases, zero for an empty run; every operation rounds. -/
def successRate (summary : Summary) : Binary64 :=
  if summary.total = 0 then ⟨0, 0⟩
  else ((Binary64.ofNat summary.passed).mul (Binary64.ofNat 100)).div
    (Binary64.ofNat summary.total)

/-- An empty run has not passed. -/
def allPassed (summary : Summary) : Bool := summary.total > 0 && summary.failed == 0

end Summary
end HttpContract
