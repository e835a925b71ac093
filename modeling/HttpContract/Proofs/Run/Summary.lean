import HttpContract.Proofs.Time.Duration
import HttpContract.Run.Summary

/-! Totals over results: they exist as long as the times add up to a duration, they depend on no
order, and all has passed if there is something and each of it has. -/
namespace HttpContract
namespace Summary

variable {results : List TestResult}

/-- The times of the results add up to a duration. -/
def TimesFit (results : List TestResult) : Prop :=
  Duration.exactSum (results.map TestResult.elapsed) ≤ Duration.greatest.totalNanos

@[simp] theorem ofResults?_isSome_iff : (ofResults? results).isSome = true ↔ TimesFit results := by
  have sum : (ofResults? results).isSome = true ↔
      ∃ total, Duration.sum? (results.map TestResult.elapsed) = some total := by
    unfold ofResults?
    cases Duration.sum? (results.map TestResult.elapsed) <;> simp
  rw [sum]
  simp only [Duration.sum?_eq_some_iff]
  constructor
  · rintro ⟨total, exact⟩
    rw [TimesFit, ← exact]
    exact total.totalNanos_le
  · exact Duration.exists_totalNanos

theorem counts_of_ofResults? {summary : Summary} (h : ofResults? results = some summary) :
    summary.total = results.length ∧ summary.passed = results.countP (·.passed = true) ∧
      summary.failed = results.countP (·.passed = false) := by
  obtain ⟨total, -, same⟩ := Option.bind_eq_some_iff.1 h
  obtain rfl := Option.some.inj same
  have each := List.length_eq_countP_add_countP TestResult.passed (l := results)
  simp only [Bool.not_eq_true] at each
  refine ⟨rfl, by simp, ?_⟩
  dsimp only
  omega

theorem allPassed_iff {summary : Summary} (h : ofResults? results = some summary) :
    summary.allPassed = true ↔ results ≠ [] ∧ ∀ result ∈ results, result.passed = true := by
  obtain ⟨total, -, same⟩ := Option.bind_eq_some_iff.1 h
  obtain rfl := Option.some.inj same
  have most : results.countP TestResult.passed ≤ results.length := List.countP_le_length
  have all : results.countP TestResult.passed = results.length ↔
      ∀ result ∈ results, result.passed = true := List.countP_eq_length
  rw [← all, ← List.length_pos_iff]
  simp only [allPassed, Bool.and_eq_true, decide_eq_true_eq, beq_iff_eq, gt_iff_lt]
  omega

def exactTime (results : List TestResult) : Nat :=
  Duration.exactSum (results.map TestResult.elapsed)

@[simp] theorem exactTime_append (results others : List TestResult) :
    exactTime (results ++ others) = exactTime results + exactTime others := by
  rw [exactTime, List.map_append, Duration.exactSum_append, exactTime, exactTime]

/-- What a summary says of the results. A duration has its nanoseconds carried over to the
seconds. -/
structure IsTally (results : List TestResult) (summary : Summary) : Prop where
  total : summary.total = results.length
  passed : summary.passed = results.countP (·.passed = true)
  failed : summary.failed = results.countP (·.passed = false)
  whole : summary.total = summary.passed + summary.failed
  time : summary.totalTime.totalNanos = exactTime results

structure IsSum (first second whole : Summary) : Prop where
  total : whole.total = first.total + second.total
  passed : whole.passed = first.passed + second.passed
  failed : whole.failed = first.failed + second.failed
  time : whole.totalTime.totalNanos = first.totalTime.totalNanos + second.totalTime.totalNanos

theorem IsTally.timesFit {summary : Summary} (h : IsTally results summary) : TimesFit results := by
  have most := summary.totalTime.totalNanos_le
  rwa [h.time] at most

theorem IsTally.unique {summary other : Summary} (h : IsTally results summary)
    (h' : IsTally results other) : summary = other := by
  have time := Duration.totalNanos_injective (h.time.trans h'.time.symm)
  obtain ⟨total, passed, failed, totalTime⟩ := summary
  obtain ⟨total', passed', failed', totalTime'⟩ := other
  exact mk.injEq .. ▸ ⟨h.total.trans h'.total.symm, h.passed.trans h'.passed.symm,
    h.failed.trans h'.failed.symm, time⟩

theorem isTally_of_ofResults? {summary : Summary} (h : ofResults? results = some summary) :
    IsTally results summary := by
  obtain ⟨total, passed, failed⟩ := counts_of_ofResults? h
  obtain ⟨time, summed, same⟩ := Option.bind_eq_some_iff.1 h
  obtain rfl := Option.some.inj same
  have most : results.countP TestResult.passed ≤ results.length := List.countP_le_length
  exact ⟨total, passed, failed, (Nat.add_sub_cancel' most).symm, Duration.sum?_eq_some_iff.1 summed⟩

theorem exists_isTally (fit : TimesFit results) :
    ∃ summary, ofResults? results = some summary ∧ IsTally results summary := by
  obtain ⟨summary, found⟩ := Option.isSome_iff_exists.1 (ofResults?_isSome_iff.2 fit)
  exact ⟨summary, found, isTally_of_ofResults? found⟩

theorem ofResults?_eq_some_iff {summary : Summary} :
    ofResults? results = some summary ↔ IsTally results summary := by
  refine ⟨isTally_of_ofResults?, fun tally => ?_⟩
  obtain ⟨other, found, otherTally⟩ := exists_isTally tally.timesFit
  rw [found, otherTally.unique tally]

@[simp] theorem ofResults?_eq_none_iff : ofResults? results = none ↔
    18446744073709551615 * 1000000000 + 999999999 < exactTime results := by
  rw [← Option.not_isSome_iff_eq_none, ofResults?_isSome_iff, TimesFit, ← exactTime, Nat.not_le]
  rfl

theorem IsTally.perm {others : List TestResult} {summary : Summary} (h : IsTally results summary)
    (same : results.Perm others) : IsTally others summary where
  total := h.total.trans same.length_eq
  passed := h.passed.trans (same.countP_eq _)
  failed := h.failed.trans (same.countP_eq _)
  whole := h.whole
  time := h.time.trans (Duration.exactSum_perm (same.map TestResult.elapsed))

theorem ofResults?_perm {others : List TestResult} (h : results.Perm others) :
    ofResults? results = ofResults? others := by
  refine Option.ext fun summary => ?_
  rw [ofResults?_eq_some_iff, ofResults?_eq_some_iff]
  exact ⟨fun tally => tally.perm h, fun tally => tally.perm h.symm⟩

section

variable {others : List TestResult} {first second whole : Summary}

theorem IsTally.append_iff (h : IsTally results first) (h' : IsTally others second) :
    IsTally (results ++ others) whole ↔ IsSum first second whole := by
  have total : first.total + second.total = (results ++ others).length := by
    rw [h.total, h'.total, List.length_append]
  have passed : first.passed + second.passed = (results ++ others).countP (·.passed = true) := by
    rw [h.passed, h'.passed, List.countP_append]
  have failed : first.failed + second.failed = (results ++ others).countP (·.passed = false) := by
    rw [h.failed, h'.failed, List.countP_append]
  have time : first.totalTime.totalNanos + second.totalTime.totalNanos =
      exactTime (results ++ others) := by
    rw [h.time, h'.time, exactTime_append]
  constructor
  · intro tally
    exact ⟨tally.total.trans total.symm, tally.passed.trans passed.symm,
      tally.failed.trans failed.symm, tally.time.trans time.symm⟩
  · intro sum
    have parts : whole.total = whole.passed + whole.failed := by
      rw [sum.total, sum.passed, sum.failed, h.whole, h'.whole, Nat.add_add_add_comm]
    exact ⟨sum.total.trans total, sum.passed.trans passed, sum.failed.trans failed, parts,
      sum.time.trans time⟩

/-- If the times of all results add up to a duration, so do those of a part. -/
theorem ofResults?_append_eq_some_iff : ofResults? (results ++ others) = some whole ↔
    ∃ first second, ofResults? results = some first ∧ ofResults? others = some second ∧
      IsSum first second whole := by
  constructor
  · intro h
    have tally := ofResults?_eq_some_iff.1 h
    have fit : exactTime results + exactTime others ≤ Duration.greatest.totalNanos :=
      exactTime_append results others ▸ tally.timesFit
    have here : TimesFit results := Nat.le_trans (Nat.le_add_right ..) fit
    have there : TimesFit others := Nat.le_trans (Nat.le_add_left ..) fit
    obtain ⟨first, found, tally'⟩ := exists_isTally here
    obtain ⟨second, found', tally''⟩ := exists_isTally there
    exact ⟨first, second, found, found', (tally'.append_iff tally'').1 tally⟩
  · rintro ⟨first, second, found, found', sum⟩
    rw [ofResults?_eq_some_iff] at found found' ⊢
    exact (found.append_iff found').2 sum

end

/-- The results of a run have a summary exactly if their exact times add up to a duration. Then it
counts and adds up what is there; in whatever order the results come, it is the same, and if some
come behind others, it is the sum of both. -/
theorem ofResults?_tally (results : List TestResult) :
    (ofResults? results = none ↔
      18446744073709551615 * 1000000000 + 999999999 < exactTime results) ∧
    (∀ summary, ofResults? results = some summary ↔ IsTally results summary) ∧
    (∀ summary, ofResults? results = some summary →
      (summary.allPassed = true ↔ results ≠ [] ∧ ∀ result ∈ results, result.passed = true)) ∧
    (∀ others, results.Perm others → ofResults? others = ofResults? results) ∧
    ∀ others whole, ofResults? (results ++ others) = some whole ↔ ∃ first second,
      ofResults? results = some first ∧ ofResults? others = some second ∧
        IsSum first second whole :=
  ⟨ofResults?_eq_none_iff, fun _ => ofResults?_eq_some_iff, fun _ => allPassed_iff,
    fun _ same => (ofResults?_perm same).symm, fun _ _ => ofResults?_append_eq_some_iff⟩

/-- The carry leads to the greatest number of seconds, in either order. -/
theorem ofResults?_tally_carried :
    let long : TestResult := { (default : TestResult) with
      passed := true, elapsed := { seconds := 18446744073709551614, nanos := 999999999 } }
    let short : TestResult := { (default : TestResult) with
      passed := false, elapsed := { seconds := 0, nanos := 999999999 } }
    let summary : Summary := ⟨2, 1, 1, { seconds := 18446744073709551615, nanos := 999999998 }⟩
    ofResults? [long, short] = some summary ∧
    (summary.allPassed = true ↔
      [long, short] ≠ [] ∧ ∀ result ∈ [long, short], result.passed = true) ∧
    [long, short].Perm [short, long] ∧ ofResults? [short, long] = ofResults? [long, short] := by
  intro long short summary
  have found : ofResults? [long, short] = some summary := by decide
  have swapped : [long, short].Perm [short, long] := .swap ..
  obtain ⟨-, -, passed, order, -⟩ := ofResults?_tally [long, short]
  exact ⟨found, passed summary found, swapped, order _ swapped⟩

end Summary
end HttpContract
