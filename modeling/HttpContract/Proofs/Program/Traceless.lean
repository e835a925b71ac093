import HttpContract.Proofs.Program.Execution
import HttpContract.Proofs.Program.Reporting

/-! A run that stops before its first case has sent nothing and written nothing, and it says that
there are no cases exactly if it got to a document without any. -/
namespace HttpContract

/-- The errors that a run can meet before its first case. -/
inductive RunError.IsEarly : RunError → Prop
  | config (cause : ConfigError) : IsEarly (.invalidConfig cause)
  | missing (path : Text) : IsEarly (.inputNotFound path)
  | unreadable (path : Text) (fault : FileFault) : IsEarly (.unreadableInput path fault)
  | address (address : Text) (cause : UrlError) : IsEarly (.invalidBaseUrl address cause)

namespace Program

variable {world : Surroundings} {flags : Flags}

/-- What is seen of a run that gets to its first case: other errors, if any, and another text than
that there are no cases. -/
structure IsLate (outcome : Outcome) : Prop where
  error : ∀ error, outcome.ending = .stopped error → ¬ error.IsEarly
  output : outcome.output.head? ≠ some 'N'

theorem ReportsTo.isLate {results : List TestResult} {sent : List Request} {outcome : Outcome}
    (h : ReportsTo results sent outcome) : IsLate outcome := by
  cases h with
  | blocked path fault tree =>
    refine ⟨fun error same => ?_, nofun⟩
    obtain rfl := Ending.stopped.inj same
    exact nofun
  | overflow tree => exact ⟨nofun, nofun⟩
  | done tree summed rendered =>
    refine ⟨fun error same => ?_, ?_⟩
    · dsimp only at same
      split at same <;> cases same
    · obtain start | start := ConsoleReport.head?_render? rendered
      · simp [start]
      · rw [start]
        split <;> simp

theorem isLate_of_crash (crash : Crash) (strategy : Strategy) (tree : FileTree)
    (sent : List Request) : IsLate { ending := endingOf crash strategy, tree, sent } := by
  refine ⟨fun error same => ?_, nofun⟩
  cases strategy with
  | sequential => cases same
  | pool workers =>
    obtain rfl := Ending.stopped.inj same
    exact nofun

theorem noTestsText_injective {path other : Text} (h : noTestsText path = noTestsText other) :
    path = other := by
  unfold noTestsText at h
  exact List.append_cancel_left (List.append_cancel_right h)

section

variable [DomainNames]

theorem isLate_run (h : ¬ StopsEarly world.tree flags) : IsLate (run world flags) := by
  obtain ⟨config, document, base, starts⟩ := not_stopsEarly_iff.1 h
  by_cases all : ∃ executions, AreExecuted world base document.cases executions
  · obtain ⟨executions, executed⟩ := all
    rw [run_of_areExecuted starts executed]
    exact reportsTo_reportResults.isLate
  · obtain ⟨sent, crash, broken⟩ := run_of_crash starts all
    rw [broken]
    exact isLate_of_crash ..

/-- The arguments ask for a run that reads its document, and finds no cases in the file of the
path. -/
def FindsNoTests (tree : FileTree) (arguments : List Text) (path : Text) : Prop :=
  ∃ flags config document, CommandLine.parse arguments = .ok flags ∧
    IsRead tree flags config document ∧ document.cases = [] ∧ config.httpFile = path

theorem output_of_findsNoTests {arguments : List Text} {path : Text}
    (h : FindsNoTests world.tree arguments path) :
    (main world arguments).output = noTestsText path := by
  obtain ⟨flags, config, document, accepted, read, empty, rfl⟩ := h
  rw [main, accepted]
  exact congrArg Outcome.output (run_of_noCases read empty)

theorem findsNoTests_of_head {arguments : List Text}
    (h : (main world arguments).output.head? = some 'N') :
    ∃ path, FindsNoTests world.tree arguments path := by
  unfold main at h
  split at h
  next flags accepted =>
    by_cases stops : StopsEarly world.tree flags
    · obtain ⟨error, stopped⟩ | ⟨config, document, read, empty, -⟩ := run_of_stopsEarly stops
      · rw [stopped] at h
        cases h
      · exact ⟨_, flags, config, document, accepted, read, empty, rfl⟩
    · exact absurd h (isLate_run stops).output
  next usage _ =>
    split at h
    next request =>
      simp only [UsageError.isRequest, Bool.or_eq_true, beq_iff_eq] at request
      dsimp only at h
      obtain rfl | rfl := request <;> exact absurd h (by decide)
    next => cases h

/-- The program leaves everything as it was if the run stops before its first case, for one reason
or for several. It prints that there are no tests exactly if the configuration is valid and the
document of its file has no cases, whatever the address is. -/
theorem main_of_stopsEarly (world : Surroundings) (arguments : List Text) :
    let printed := main world arguments
    (∀ flags, CommandLine.parse arguments = .ok flags →
      (StopsEarly world.tree flags ∨
        ∃ error, (run world flags).ending = .stopped error ∧ error.IsEarly) →
      printed.sent = [] ∧ printed.tree = world.tree ∧ printed.exitCode = 1) ∧
    (∀ path, printed.output = noTestsText path ↔ FindsNoTests world.tree arguments path) ∧
    (Text.startsWith "No tests found" printed.output = true →
      ∃ path, FindsNoTests world.tree arguments path) := by
  intro printed
  refine ⟨fun flags accepted reason => ?_, fun path => ⟨fun shown => ?_, output_of_findsNoTests⟩,
    fun shown => ?_⟩
  · have stops : StopsEarly world.tree flags := by
      obtain stops | ⟨error, ending, early⟩ := reason
      · exact stops
      · by_contra starts
        exact (isLate_run starts).error error ending early
    simp only [printed, main, accepted]
    obtain ⟨error, stopped⟩ | ⟨config, document, -, -, ended⟩ := run_of_stopsEarly stops
    · rw [stopped]
      exact ⟨rfl, rfl, rfl⟩
    · rw [ended]
      exact ⟨rfl, rfl, rfl⟩
  · have start : printed.output.head? = some 'N' := by
      rw [shown]
      rfl
    obtain ⟨other, found⟩ := findsNoTests_of_head start
    have same := (output_of_findsNoTests found).symm.trans shown
    exact noTestsText_injective same ▸ found
  · obtain ⟨rest, shown⟩ := Text.startsWith_iff.1 shown
    apply findsNoTests_of_head
    rw [← shown]
    rfl

end

/-- A document without cases, and an address that is none. -/
theorem main_of_stopsEarly_twice :
    let _ : DomainNames := .asciiOnly
    let world : Surroundings :=
      { tree := { entries := [(["t.http"], .file (Utf8.encode "### none"))] }
        network := { isUp := true, server := fun _ => .close } }
    let arguments : List Text := ["--api-url", "nope", "--http-file", "t.http"]
    let flags : Flags := { apiUrl := some "nope", httpFile := some "t.http" }
    let printed := main world arguments
    CommandLine.parse arguments = .ok flags ∧ StopsEarly world.tree flags ∧
    Request.baseUrl "nope" = .error .relativeWithoutBase ∧
    printed.sent = [] ∧ printed.tree = world.tree ∧ printed.exitCode = 1 ∧
    printed.output = noTestsText "t.http" := by
  intro names world arguments flags printed
  have accepted : CommandLine.parse arguments = .ok flags := by decide +kernel
  have configured : IsConfigured world.tree flags (flags.apply {}) :=
    ⟨⟨{}, .absent (by decide +kernel), rfl⟩, ⟨by decide, by decide, by decide⟩⟩
  have read : IsRead world.tree flags (flags.apply {})
      (Document.ofText Block.defaultProtected "### none") :=
    ⟨configured, "### none", ⟨Utf8.encode "### none", by decide +kernel, by decide +kernel⟩, rfl⟩
  have empty : (Document.ofText Block.defaultProtected "### none").cases = [] := by decide +kernel
  have stops : StopsEarly world.tree flags := .noCases read empty
  obtain ⟨traceless, prints, -⟩ := main_of_stopsEarly world arguments
  obtain ⟨sent, tree, exitCode⟩ := traceless flags accepted (.inl stops)
  exact ⟨accepted, stops, by decide +kernel, sent, tree, exitCode,
    (prints "t.http").2 ⟨flags, _, _, accepted, read, empty, rfl⟩⟩

end Program
end HttpContract
