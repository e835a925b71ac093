import HttpContract.Proofs.Program.Execution
import HttpContract.Proofs.Program.Stages

/-! A run under one strategy is a run under the other, as long as no case breaks it off. -/
namespace HttpContract

theorem Config.validate_execution (config : Config) (execution : ExecutionConfig)
    (h : config.execution.workers ≠ 0) (h' : execution.workers ≠ 0) :
    { config with execution }.validate = config.validate := by
  unfold validate
  simp only [if_neg h, if_neg h']

theorem workers_getD_ne_zero {count : Option Nat} (h : count ≠ some 0) {workers : Nat}
    (some : 0 < workers) : count.getD workers ≠ 0 := by
  cases count with
  | none => exact some.ne'
  | some given => exact fun zero => h (congrArg Option.some zero)

namespace Program

variable {world : Surroundings} {flags : Flags} {count : Option Nat}
variable (tree : FileTree) (kind : Option StrategyKind)

/-- With another strategy the configuration differs in nothing else, or is as wrong. -/
theorem configure_strategy (h : flags.workers ≠ some 0) (h' : count ≠ some 0) :
    (∃ error, configure flags tree = .error error ∧
      configure { flags with strategy := kind, workers := count } tree = .error error) ∨
    ∃ config execution, configure flags tree = .ok config ∧
      configure { flags with strategy := kind, workers := count } tree =
        .ok { config with execution } := by
  unfold configure
  cases loaded : Config.load tree flags.config with
  | error error => exact .inl ⟨_, rfl, rfl⟩
  | ok file =>
    have valid := (Config.load_eq_ok_iff.1 loaded).isValid
    have workers := workers_getD_ne_zero h valid.workers
    have workers' := workers_getD_ne_zero h' valid.workers
    have same : ({ flags with strategy := kind, workers := count }.apply file).validate =
        (flags.apply file).validate :=
      Config.validate_execution (flags.apply file) ⟨_, _⟩ workers workers'
    dsimp only [Except.bind]
    rw [same]
    cases (flags.apply file).validate with
    | error cause => exact .inl ⟨_, rfl, rfl⟩
    | ok => exact .inr ⟨_, _, rfl, rfl⟩

theorem readAll_strategy (h : flags.workers ≠ some 0) (h' : count ≠ some 0) :
    (∃ error, readAll tree flags = .error error ∧
      readAll tree { flags with strategy := kind, workers := count } = .error error) ∨
    ∃ config document execution, readAll tree flags = .ok (config, document) ∧
      readAll tree { flags with strategy := kind, workers := count } =
        .ok ({ config with execution }, document) := by
  obtain ⟨error, wrong, wrong'⟩ | ⟨config, execution, configured, configured'⟩ :=
    configure_strategy tree kind h h'
  · left
    unfold readAll
    rw [wrong, wrong']
    exact ⟨error, rfl, rfl⟩
  · rw [readAll_of_configure configured, readAll_of_configure configured']
    dsimp only
    cases Document.load tree config.protectedHeads config.httpFile with
    | error error => exact .inl ⟨error, rfl, rfl⟩
    | ok document => exact .inr ⟨config, document, execution, rfl, rfl⟩

variable [DomainNames]

theorem runDocument_strategy {config : Config} {document : Document} (execution : ExecutionConfig)
    (safe : ∀ base, Request.baseUrl config.apiUrl = .ok base → ∀ test ∈ document.cases,
      ¬ base.ClimbsFromDrive (Text.trim test.path)) :
    runDocument world { flags with strategy := kind, workers := count }
      { config with execution } document = runDocument world flags config document := by
  unfold runDocument
  dsimp only
  split
  · rfl
  · cases address : Request.baseUrl config.apiUrl with
    | error cause => rfl
    | ok base =>
      obtain ⟨executions, executed⟩ := exists_areExecuted_iff.2 (safe base address)
      dsimp only
      rw [executeCases_of_areExecuted executed, executeCases_of_areExecuted executed]
      rfl

theorem run_strategy (h : flags.workers ≠ some 0) (h' : count ≠ some 0)
    (safe : ∀ config document base, Starts world.tree flags config document base →
      ∀ test ∈ document.cases, ¬ base.ClimbsFromDrive (Text.trim test.path)) :
    run world { flags with strategy := kind, workers := count } = run world flags := by
  obtain ⟨error, read, read'⟩ | ⟨config, document, execution, read, read'⟩ :=
    readAll_strategy world.tree kind h h'
  · rw [run_eq, run_eq, read, read']
  · rw [run_eq, run_eq, read, read']
    by_cases empty : document.cases = []
    · simp [runDocument, empty]
    · refine runDocument_strategy kind execution fun base address => ?_
      exact safe config document base ⟨readAll_eq_ok_iff.1 read, empty, address⟩

end Program
end HttpContract
