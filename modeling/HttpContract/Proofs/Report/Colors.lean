import HttpContract.Proofs.Number.Shortest
import HttpContract.Proofs.Report.Style
import HttpContract.Proofs.Run.Summary
import HttpContract.Report.Console

/-! The report on the console with its colours taken off is the report without colours. That one
has an entry for every result in the order of the run, and a line of totals at the end. -/
namespace HttpContract
namespace ConsoleReport

open TextStyle

def resultLine (result : TestResult) : Text :=
  (if result.passed then "[PASS]" else "[FAIL]") ++ [' '] ++ result.name ++ [' '] ++
    (['('] ++ result.elapsed.millis.fixed 0 ++ "ms)")

def errorLine? (result : TestResult) : Option Text :=
  if result.passed then none else result.error.map fun error => "  error: " ++ error

def totalsLine (summary : Summary) : Text :=
  "Total: " ++ Text.decimal summary.total ++ ", Passed: " ++ Text.decimal summary.passed ++
    ", Failed: " ++ Text.decimal summary.failed ++ ", Success Rate: " ++
    (summary.successRate.fixed 2 ++ ['%'])

def ended (lines : List Text) : Text := lines.flatMap (· ++ ['\n'])

/-- No escape sequence can begin in what a result says. -/
def IsClear (result : TestResult) : Prop :=
  '\x1b' ∉ result.name ∧ ∀ error ∈ result.error, '\x1b' ∉ error

@[simp] theorem entry_false (result : TestResult) :
    entry false result = resultLine result :: (errorLine? result).toList := by
  unfold entry resultLine errorLine?
  cases result.passed with
  | true => rfl
  | false => cases result.error <;> rfl

@[simp] theorem totals_false (summary : Summary) : totals false summary = totalsLine summary := by
  unfold totals totalsLine
  split <;> rfl

theorem shows_ended {shown plain : List Text} (h : List.Forall₂ Shows shown plain) :
    Shows (ended shown) (ended plain) := by
  induction h with
  | nil => exact fun _ => rfl
  | cons first _ ih => exact (first.append (shows_self (by decide))).append ih

@[simp]
theorem shows_elapsed (time : Duration) : Shows (elapsed true time) (elapsed false time) := by
  refine shows_apply ?_ dimmed
  rw [List.mem_append, List.mem_append, not_or, not_or]
  exact ⟨⟨by decide, Binary64.not_mem_fixed (by decide) (by decide) _ _⟩, by decide⟩

theorem shows_entry {result : TestResult} (h : IsClear result) :
    List.Forall₂ Shows (entry true result) (entry false result) := by
  have blank : Shows [' '] [' '] := shows_self (by decide)
  have time := shows_elapsed result.elapsed
  unfold entry
  split
  next =>
    have mark : Shows (boldGreen.apply true "[PASS]") "[PASS]" := shows_apply (by decide) boldGreen
    have name := shows_self h.1
    exact .cons ((((mark.append blank).append name).append blank).append time) .nil
  next =>
    have mark : Shows (boldRed.apply true "[FAIL]") "[FAIL]" := shows_apply (by decide) boldRed
    have name := shows_apply h.1 boldRed
    refine .cons ((((mark.append blank).append name).append blank).append time) ?_
    cases found : result.error with
    | none => exact .nil
    | some error =>
      have indent : Shows "  " "  " := shows_self (by decide)
      have label : Shows (bold.apply true "error:") "error:" := shows_apply (by decide) bold
      have message := shows_apply (h.2 error found) red
      exact .cons (((indent.append label).append blank).append message) .nil

@[simp] theorem shows_totals (summary : Summary) :
    Shows (totals true summary) (totals false summary) := by
  have number (n : Nat) : '\x1b' ∉ Text.decimal n := Text.not_mem_decimal (by decide) n
  have count (style : TextStyle) (n : Nat) :
      Shows (style.apply true (Text.decimal n)) (style.apply false (Text.decimal n)) :=
    shows_apply (number n) style
  have percentage : '\x1b' ∉ PlainReport.rateText summary := by
    rw [PlainReport.rateText, List.mem_append, not_or]
    exact ⟨Binary64.not_mem_fixed (by decide) (by decide) _ _, by decide⟩
  have total := (@shows_self "Total: " (by decide)).append (shows_self (number summary.total))
  have passed := (total.append (@shows_self ", Passed: " (by decide))).append
    (count green summary.passed)
  have failed := (passed.append (@shows_self ", Failed: " (by decide))).append
    (count (if summary.failed > 0 then boldRed else green) summary.failed)
  exact (failed.append (@shows_self ", Success Rate: " (by decide))).append (shows_self percentage)

@[simp] theorem not_mem_totalsLine (summary : Summary) : '\n' ∉ totalsLine summary := by
  have number (n : Nat) : '\n' ∉ Text.decimal n := Text.not_mem_decimal (by decide) n
  have percentage : '\n' ∉ summary.successRate.fixed 2 :=
    Binary64.not_mem_fixed (by decide) (by decide) _ _
  have label {text front : Text} (h : '\n' ∉ front) (clear : '\n' ∉ text) (n : Nat) :
      '\n' ∉ front ++ text ++ Text.decimal n :=
    List.not_mem_append (List.not_mem_append h clear) (number n)
  have total := List.not_mem_append (show '\n' ∉ "Total: ".toList by decide) (number summary.total)
  have passed := @label ", Passed: " _ total (by decide) summary.passed
  have failed := @label ", Failed: " _ passed (by decide) summary.failed
  exact List.not_mem_append (List.not_mem_append failed (by decide))
    (List.not_mem_append percentage (by decide))

theorem shows_lines {results : List TestResult} (clear : ∀ result ∈ results, IsClear result)
    (summary : Summary) : Shows (ended (results.flatMap (entry true) ++ [totals true summary]))
      (ended (results.flatMap (entry false) ++ [totals false summary])) := by
  refine shows_ended (List.rel_append ?_ (.cons (shows_totals summary) .nil))
  induction results with
  | nil => exact .nil
  | cons result results ih =>
    obtain ⟨first, others⟩ := List.forall_mem_cons.1 clear
    exact List.rel_append (shows_entry first) (ih others)

/-- With the escape sequences taken off, the report in colours is the one without, if no result
says anything that could begin such a sequence. The report without colours is, for every result in
the order of the run, a line with its mark and, if it failed with a message, the message below it;
then comes one line of totals. -/
theorem render?_colors (results : List TestResult) :
    ((∀ result ∈ results, IsClear result) →
      (render? true results).map strip = render? false results) ∧
    ∀ output, render? false results = some output ↔ ∃ summary, Summary.IsTally results summary ∧
      '\n' ∉ totalsLine summary ∧
      output = ended (results.flatMap (fun result =>
        resultLine result :: (errorLine? result).toList) ++ [totalsLine summary]) := by
  refine ⟨fun clear => ?_, fun output => ?_⟩
  · rw [render?, Option.map_map, render?]
    exact Option.map_congr fun summary _ => (shows_lines clear summary).strip_eq
  · have entries : entry false =
        fun result => resultLine result :: (errorLine? result).toList := funext entry_false
    rw [render?, Option.map_eq_some_iff, entries]
    refine exists_congr fun summary => and_congr Summary.ofResults?_eq_some_iff ?_
    rw [totals_false, and_iff_right (not_mem_totalsLine summary), eq_comm]
    rfl

/-- A name that looks like a line of the report and like the rest of an escape sequence. -/
theorem render?_colors_misleading :
    let failed : TestResult := { (default : TestResult) with
      name := "[0m\n[PASS] b", passed := false, error := some "m" }
    let passed : TestResult := { (default : TestResult) with
      name := "a", passed := true, error := some "not shown" }
    (∀ result ∈ [failed, passed], IsClear result) ∧
    (render? true [failed, passed]).map strip = render? false [failed, passed] ∧
    ∃ output, render? false [failed, passed] = some output := by
  intro failed passed
  have clear : ∀ result ∈ [failed, passed], IsClear result := by
    simp [IsClear, failed, passed]
  exact ⟨clear, (render?_colors [failed, passed]).1 clear, _, rfl⟩

end ConsoleReport
end HttpContract
