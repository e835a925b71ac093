import HttpContract.Proofs.Program.Execution
import HttpContract.Proofs.Program.Reporting
import HttpContract.Proofs.Program.Strategies

/-! What the exit code of a run stands for: zero for nothing but a run all of whose cases have
passed and all of whose reports are there, and a code of its own only for a run that breaks off. -/
namespace HttpContract
namespace Program

section

variable [DomainNames]
variable {world : Surroundings} {flags : Flags} {config : Config} {document : Document}
variable {base : Url} {executions : List Execution}

inductive BreaksOff (world : Surroundings) (flags : Flags) : Prop
  | climbs {config : Config} {document : Document} {base : Url} {test : TestCase}
      (starts : Starts world.tree flags config document base)
      (sequential : config.strategy = .sequential) (member : test ∈ document.cases)
      (climbs : base.ClimbsFromDrive (Text.trim test.path))
  | overflows {config : Config} {document : Document} {base : Url} {executions : List Execution}
      (starts : Starts world.tree flags config document base)
      (executed : AreExecuted world base document.cases executions)
      (unfit : ¬ Summary.TimesFit (executions.map Execution.result))

/-- All cases have passed, and all reports that are asked for are there. -/
structure Succeeds (world : Surroundings) (flags : Flags) (left : FileTree) (config : Config)
    (document : Document) (base : Url) (executions : List Execution) : Prop where
  starts : Starts world.tree flags config document base
  executed : AreExecuted world base document.cases executions
  fit : Summary.TimesFit (executions.map Execution.result)
  passed : ∀ execution ∈ executions, execution.result.passed = true
  made : (world.tree.makeAll config.outputDir).2 = .ok ()
  delivered : ∀ format ∈ config.formats, ReportFiles.IsDelivered left config.outputDir
    (executions.map Execution.result) world.now format

/-- The three ways in which a run ends. -/
inductive EndsAs (world : Surroundings) (flags : Flags) : Nat → Prop
  | passed {config : Config} {document : Document} {base : Url} {executions : List Execution}
      (success : Succeeds world flags (run world flags).tree config document base executions)
      (calm : ¬ BreaksOff world flags) : EndsAs world flags 0
  | failed (failure : ¬ ∃ config document base executions,
        Succeeds world flags (run world flags).tree config document base executions)
      (calm : ¬ BreaksOff world flags) : EndsAs world flags 1
  | crashed (failure : ¬ ∃ config document base executions,
        Succeeds world flags (run world flags).tree config document base executions)
      (crash : BreaksOff world flags) : EndsAs world flags Crash.exitCode

theorem EndsAs.eq_zero_iff {code : Nat} (h : EndsAs world flags code) : code = 0 ↔
    ∃ config document base executions,
      Succeeds world flags (run world flags).tree config document base executions := by
  cases h with
  | passed success => exact iff_of_true rfl ⟨_, _, _, _, success⟩
  | failed failure => exact iff_of_false (by decide) failure
  | crashed failure => exact iff_of_false (by decide) failure

theorem EndsAs.eq_crash_iff {code : Nat} (h : EndsAs world flags code) :
    code = Crash.exitCode ↔ BreaksOff world flags := by
  cases h with
  | passed _ calm => exact iff_of_false (by decide) calm
  | failed _ calm => exact iff_of_false (by decide) calm
  | crashed _ crash => exact iff_of_true rfl crash

theorem EndsAs.one_of_three {code : Nat} (h : EndsAs world flags code) :
    code = 0 ∨ code = 1 ∨ code = Crash.exitCode := by
  cases h <;> simp

theorem endsAs_of_stopsEarly (h : StopsEarly world.tree flags) :
    EndsAs world flags (run world flags).ending.exitCode := by
  have never := stopsEarly_iff.1 h
  have exitCode : (run world flags).ending.exitCode = 1 := by
    obtain ⟨error, stopped⟩ | ⟨_, _, -, -, ended⟩ := run_of_stopsEarly h
    · rw [stopped]; rfl
    · rw [ended]; rfl
  rw [exitCode]
  refine .failed (fun ⟨_, _, _, _, success⟩ => never _ _ _ success.starts) ?_
  rintro (⟨starts, -, -, -⟩ | ⟨starts, -, -⟩) <;> exact never _ _ _ starts

theorem endsAs_of_crash (starts : Starts world.tree flags config document base)
    (h : ¬ ∃ executions, AreExecuted world base document.cases executions) :
    EndsAs world flags (run world flags).ending.exitCode := by
  have failure : ¬ ∃ config document base executions,
      Succeeds world flags (run world flags).tree config document base executions := by
    rintro ⟨_, _, _, executions, success⟩
    obtain ⟨rfl, rfl, rfl⟩ := starts.unique success.starts
    exact h ⟨executions, success.executed⟩
  obtain ⟨test, member, climbs⟩ : ∃ test ∈ document.cases,
      base.ClimbsFromDrive (Text.trim test.path) := by
    rw [exists_areExecuted_iff] at h
    simpa using h
  obtain ⟨sent, crash, broken⟩ := run_of_crash starts h
  cases strategy : config.strategy with
  | sequential =>
    have exitCode : (run world flags).ending.exitCode = Crash.exitCode := by
      rw [broken, strategy]; rfl
    rw [exitCode]
    exact .crashed failure (.climbs starts strategy member climbs)
  | pool workers =>
    have exitCode : (run world flags).ending.exitCode = 1 := by
      rw [broken, strategy]; rfl
    rw [exitCode]
    refine .failed failure ?_
    rintro (⟨starts', sequential, -, -⟩ | ⟨starts', executed, -⟩)
    · obtain ⟨rfl, -, -⟩ := starts.unique starts'
      rw [strategy] at sequential
      cases sequential
    · obtain ⟨-, rfl, rfl⟩ := starts.unique starts'
      exact h ⟨_, executed⟩

section

variable (starts : Starts world.tree flags config document base)
variable (executed : AreExecuted world base document.cases executions)

include starts executed

theorem Succeeds.unique {left : FileTree} {otherConfig : Config} {otherDocument : Document}
    {otherBase : Url} {others : List Execution}
    (h : Succeeds world flags left otherConfig otherDocument otherBase others) :
    config = otherConfig ∧ executions = others := by
  obtain ⟨rfl, rfl, rfl⟩ := starts.unique h.starts
  exact ⟨rfl, executed.unique h.executed⟩

/-- Once all cases are executed, nothing but their times can break the run off. -/
theorem BreaksOff.unfit (h : BreaksOff world flags) :
    ¬ Summary.TimesFit (executions.map Execution.result) := by
  obtain ⟨starts', -, member, climbs⟩ | ⟨starts', executed', unfit⟩ := h
  · obtain ⟨-, rfl, rfl⟩ := starts.unique starts'
    exact absurd climbs (exists_areExecuted_iff.1 ⟨executions, executed⟩ _ member)
  · obtain ⟨rfl, rfl, rfl⟩ := starts.unique starts'
    exact executed.unique executed' ▸ unfit

theorem endsAs_of_canWrite (fit : Summary.TimesFit (executions.map Execution.result))
    (writable : ReportFiles.CanWrite world.tree config.outputDir config.formats) :
    EndsAs world flags (run world flags).ending.exitCode := by
  have calm : ¬ BreaksOff world flags := fun crash => crash.unfit starts executed fit
  obtain ⟨ends, passed, delivered⟩ :=
    reportResults_of_canWrite flags (executions.flatMap Execution.sent) fit writable
  rw [← run_of_areExecuted starts executed] at ends passed delivered
  by_cases all : ∀ execution ∈ executions, execution.result.passed = true
  · have results : executions.map Execution.result ≠ [] :=
      List.map_eq_nil_iff.not.2 (executed.ne_nil starts.hasCases)
    rw [passed.2 ⟨results, by simpa using all⟩]
    exact .passed ⟨starts, executed, fit, all, writable.made, delivered⟩ calm
  · have failed : (run world flags).ending = .failed := by
      refine ends.resolve_left fun pass => all ?_
      simpa using (passed.1 pass).2
    rw [failed]
    refine .failed (fun ⟨_, _, _, _, success⟩ => ?_) calm
    obtain ⟨-, rfl⟩ := success.unique starts executed
    exact all success.passed

theorem endsAs_of_not_canWrite (fit : Summary.TimesFit (executions.map Execution.result))
    (blocked : ¬ ReportFiles.CanWrite world.tree config.outputDir config.formats) :
    EndsAs world flags (run world flags).ending.exitCode := by
  have calm : ¬ BreaksOff world flags := fun crash => crash.unfit starts executed fit
  obtain ⟨⟨error, stopped⟩, missing⟩ :=
    reportResults_of_not_canWrite flags (executions.flatMap Execution.sent) fit blocked
  rw [← run_of_areExecuted starts executed] at stopped missing
  rw [stopped]
  refine .failed (fun ⟨_, _, _, _, success⟩ => ?_) calm
  obtain ⟨rfl, rfl⟩ := success.unique starts executed
  exact missing ⟨success.made, success.delivered⟩

theorem endsAs_of_not_timesFit (unfit : ¬ Summary.TimesFit (executions.map Execution.result)) :
    EndsAs world flags (run world flags).ending.exitCode := by
  have failure : ¬ ∃ config document base executions,
      Succeeds world flags (run world flags).tree config document base executions := by
    rintro ⟨_, _, _, _, success⟩
    obtain ⟨-, rfl⟩ := success.unique starts executed
    exact unfit success.fit
  rw [run_of_areExecuted starts executed, reportResults_of_not_timesFit world flags config _ unfit]
  exact .crashed failure (.overflows starts executed unfit)

end

theorem endsAs_exitCode (world : Surroundings) (flags : Flags) :
    EndsAs world flags (run world flags).ending.exitCode := by
  by_cases stops : StopsEarly world.tree flags
  · exact endsAs_of_stopsEarly stops
  · obtain ⟨config, document, base, starts⟩ := not_stopsEarly_iff.1 stops
    by_cases all : ∃ executions, AreExecuted world base document.cases executions
    · obtain ⟨executions, executed⟩ := all
      by_cases fit : Summary.TimesFit (executions.map Execution.result)
      · by_cases writable : ReportFiles.CanWrite world.tree config.outputDir config.formats
        · exact endsAs_of_canWrite starts executed fit writable
        · exact endsAs_of_not_canWrite starts executed fit writable
      · exact endsAs_of_not_timesFit starts executed fit
    · exact endsAs_of_crash starts all

/-- A run exits with zero exactly if its configuration, document and address are in order, all its
cases have passed and all its reports are written. It exits with one otherwise, unless it breaks
off. Failed cases keep no report from being written. The strategy makes no difference as long as no
target climbs from a drive. -/
theorem exitCode_main {world : Surroundings} {arguments : List Text} {flags : Flags}
    (accepted : CommandLine.parse arguments = .ok flags) :
    let printed := main world arguments
    (printed.exitCode = 0 ↔ ∃ config document base executions,
      Succeeds world flags printed.tree config document base executions) ∧
    (printed.exitCode = Crash.exitCode ↔ BreaksOff world flags) ∧
    (printed.exitCode = 0 ∨ printed.exitCode = 1 ∨ printed.exitCode = Crash.exitCode) ∧
    (∀ config document base executions, Starts world.tree flags config document base →
      AreExecuted world base document.cases executions →
      Summary.TimesFit (executions.map Execution.result) →
      ReportFiles.CanWrite world.tree config.outputDir config.formats →
      ∀ format ∈ config.formats, ReportFiles.IsDelivered printed.tree config.outputDir
        (executions.map Execution.result) world.now format) ∧
    ∀ others kind count,
      CommandLine.parse others = .ok { flags with strategy := kind, workers := count } →
      flags.workers ≠ some 0 → count ≠ some 0 →
      (∀ config document base, Starts world.tree flags config document base →
        ∀ test ∈ document.cases, ¬ base.ClimbsFromDrive (Text.trim test.path)) →
      main world others = printed := by
  intro printed
  have exitCode : printed.exitCode = (run world flags).ending.exitCode := by
    simp only [printed, main, accepted]
  have tree : printed.tree = (run world flags).tree := by simp only [printed, main, accepted]
  have ends := endsAs_exitCode world flags
  rw [← exitCode] at ends
  rw [tree]
  refine ⟨ends.eq_zero_iff, ends.eq_crash_iff, ends.one_of_three, ?_, ?_⟩
  · intro config document base executions starts executed fit writable
    rw [run_of_areExecuted starts executed]
    exact (reportResults_of_canWrite flags _ fit writable).2.2
  · intro others kind count accepted' workers workers' safe
    have same := run_strategy kind workers workers' safe
    simp only [printed, main, accepted, accepted', same]

end

theorem exitCode_main_passing :
    let _ : DomainNames := .asciiOnly
    let world : Surroundings :=
      { tree := { entries := [(["t.http"], .file (Utf8.encode "### A\nGET /"))] }
        network := { isUp := true, server := fun _ => .reply {} } }
    let arguments : List Text :=
      ["--api-url", "http://127.0.0.1", "--http-file", "t.http", "--output", "out"]
    let flags : Flags :=
      { apiUrl := some "http://127.0.0.1", httpFile := some "t.http", output := some "out" }
    CommandLine.parse arguments = .ok flags ∧ (main world arguments).exitCode = 0 ∧
    ∃ config document base executions,
      Succeeds world flags (main world arguments).tree config document base executions := by
  intro names world arguments flags
  have accepted : CommandLine.parse arguments = .ok flags := by decide +kernel
  have zero : (main world arguments).exitCode = 0 := by decide +kernel
  obtain ⟨succeeds, -⟩ := @exitCode_main names world arguments flags accepted
  exact ⟨accepted, zero, succeeds.1 zero⟩

/-- A target that climbs from a drive breaks a sequential run off, and leaves no report; it stops a
pool. -/
theorem exitCode_above_drive :
    let _ : DomainNames := .asciiOnly
    let world : Surroundings :=
      { tree := { entries := [(["t.http"], .file (Utf8.encode "### A\nGET .."))] }
        network := { isUp := true, server := fun _ => .close } }
    let arguments : List Text :=
      ["--api-url", "file:///a/C:", "--http-file", "t.http", "--output", "out"]
    let pooled : List Text := "--strategy".toList :: "pool".toList :: arguments
    (main world arguments).exitCode = 101 ∧ (main world arguments).tree = world.tree ∧
    (main world pooled).exitCode = 1 := by
  decide +kernel

end Program
end HttpContract
