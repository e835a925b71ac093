import HttpContract.Proofs.Program.Stages
import HttpContract.Proofs.Run.Pool
import HttpContract.Proofs.Url.Drive

/-! What the execution of the cases gives under either strategy. -/
namespace HttpContract

theorem Execution.exists_ofCase_iff [DomainNames] (network : Network) (base : Url)
    (timing : Timing) (test : TestCase) :
    (∃ execution, Execution.ofCase network base timing test = .ok execution) ↔
      ¬ base.ClimbsFromDrive (Text.trim test.path) := by
  rw [← Url.join_eq_dots_iff]
  simp only [Execution.ofCase, Request.prepare, map_eq_ok_iff]
  unfold Request.resolve
  cases joined : base.join (Text.trim test.path) with
  | ok url => exact iff_of_true ⟨_, _, ⟨_, rfl, rfl⟩, rfl⟩ nofun
  | error cause =>
    by_cases dots : cause = .dotsBehindDrive
    · subst dots
      exact iff_of_false (fun ⟨_, _, ⟨_, h, _⟩, _⟩ => nomatch h) (not_not_intro rfl)
    · have other : ¬ (Except.error cause : Except UrlError Url) = .error .dotsBehindDrive :=
        fun same => dots (Except.error.inj same)
      refine iff_of_true ?_ other
      cases cause <;> first | exact ⟨_, _, ⟨_, rfl, rfl⟩, rfl⟩ | exact absurd rfl dots

namespace Program

variable [DomainNames]
variable {world : Surroundings} {flags : Flags} {config : Config} {document : Document}
variable {base : Url} {cases : List TestCase} {executions : List Execution}

def attempts (world : Surroundings) (base : Url) (cases : List TestCase) :
    List (Except Crash Execution) :=
  cases.zipIdx.map fun numbered =>
    Execution.ofCase world.network base (world.timing numbered.2) numbered.1

def AreExecuted (world : Surroundings) (base : Url) (cases : List TestCase)
    (executions : List Execution) : Prop := attempts world base cases = executions.map .ok

theorem AreExecuted.unique {others : List Execution}
    (h : AreExecuted world base cases executions) (h' : AreExecuted world base cases others) :
    executions = others :=
  (List.map_inj_right fun _ _ same => Except.ok.inj same).1 (h.symm.trans h')

theorem AreExecuted.ne_nil (h : AreExecuted world base cases executions)
    (some : cases ≠ []) : executions ≠ [] := by
  intro none
  rw [AreExecuted, none, attempts, List.map_nil, List.map_eq_nil_iff] at h
  exact some (List.zipIdx_eq_nil_iff.1 h)

theorem run_eq_attempts (strategy : Strategy) : strategy.run (fun (test, number) =>
    Execution.ofCase world.network base (world.timing number) test) cases.zipIdx =
      .ok (attempts world base cases) := by
  cases strategy with
  | sequential => rfl
  | pool workers => exact Pool.run_pool_eq_sequential _ _ workers

theorem exists_areExecuted_iff : (∃ executions, AreExecuted world base cases executions) ↔
    ∀ test ∈ cases, ¬ base.ClimbsFromDrive (Text.trim test.path) := by
  unfold AreExecuted attempts
  rw [exists_eq_map_ok_iff, List.forall_mem_map]
  constructor
  · intro all test member
    obtain ⟨number, bound, rfl⟩ := List.getElem_of_mem member
    have numbered : (cases[number], number) ∈ cases.zipIdx := by
      simp [List.mem_zipIdx_iff_getElem?]
    have executed := all _ numbered
    dsimp only at executed
    rwa [Execution.exists_ofCase_iff] at executed
  · intro all numbered member
    rw [Execution.exists_ofCase_iff]
    exact all numbered.1 (List.fst_mem_of_mem_zipIdx member)

/-- The strategy counts for nothing if all cases are executed. -/
theorem executeCases_of_areExecuted
    (h : AreExecuted world base cases executions) (strategy : Strategy) :
    executeCases world base strategy cases =
      { sent := executions.flatMap Execution.sent
        results := .ok (executions.map Execution.result) } := by
  unfold executeCases
  dsimp only
  rw [run_eq_attempts, h]
  dsimp only
  rw [mapM_id_eq_ok_iff.2 rfl, filterMap_takeWhile_ok]

theorem executeCases_of_crash (h : ¬ ∃ executions, AreExecuted world base cases executions)
    (strategy : Strategy) : ∃ sent crash, executeCases world base strategy cases =
      { sent, results := .error (endingOf crash strategy) } := by
  unfold executeCases
  dsimp only
  rw [run_eq_attempts]
  dsimp only
  cases all : (attempts world base cases).mapM id with
  | ok executions => exact absurd ⟨executions, mapM_id_eq_ok_iff.1 all⟩ h
  | error crash => exact ⟨_, crash, rfl⟩

theorem run_of_areExecuted (starts : Starts world.tree flags config document base)
    (executed : AreExecuted world base document.cases executions) : run world flags =
      reportResults world flags config (executions.flatMap Execution.sent)
        (executions.map Execution.result) :=
  run_of_results starts (executeCases_of_areExecuted executed config.strategy)

theorem run_of_crash (starts : Starts world.tree flags config document base)
    (h : ¬ ∃ executions, AreExecuted world base document.cases executions) :
    ∃ sent crash, run world flags =
      { ending := endingOf crash config.strategy, tree := world.tree, sent } := by
  obtain ⟨sent, crash, broken⟩ := executeCases_of_crash h config.strategy
  exact ⟨sent, crash, run_of_ending starts broken⟩

end Program
end HttpContract
