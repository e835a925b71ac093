import HttpContract.Report.Console

/-! What the report on the console starts with. -/
namespace HttpContract

namespace ConsoleReport

theorem head?_entry (color : Bool) (result : TestResult) : ∃ line lines,
    entry color result = line :: lines ∧ line.head? = some (if color then '\x1b' else '[') := by
  unfold entry
  split <;> cases color <;> exact ⟨_, _, rfl, rfl⟩

theorem head?_render? {color : Bool} {results : List TestResult} {output : Text}
    (h : render? color results = some output) : output.head? = some 'T' ∨
      output.head? = some (if color then '\x1b' else '[') := by
  obtain ⟨summary, -, rfl⟩ := Option.map_eq_some_iff.1 h
  cases results with
  | nil => exact .inl rfl
  | cons result results =>
    obtain ⟨line, lines, shown, start⟩ := head?_entry color result
    right
    obtain ⟨rest, rfl⟩ := List.head?_eq_some_iff.1 start
    simp [shown]

end ConsoleReport
end HttpContract
