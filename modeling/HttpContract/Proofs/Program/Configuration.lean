import HttpContract.Proofs.Config.Settings
import HttpContract.Proofs.Program.Traceless

/-! The configuration that a run goes by: every setting is that of its flag, or else that of the
file, or else its default, and what keeps a run from going past its configuration. -/
namespace HttpContract

@[simp] theorem Flags.apply_apply (flags : Flags) (config : Config) :
    flags.apply (flags.apply config) = flags.apply config := by
  have twice {α : Type} (flag : Option α) (value : α) :
      flag.getD (flag.getD value) = flag.getD value := by
    cases flag <;> rfl
  simp only [Flags.apply, twice]

theorem Config.IsValid.workers_pos {config : Config} (h : config.IsValid) {workers : Nat}
    (pool : config.strategy = .pool workers) : 0 < workers := by
  unfold Config.strategy at pool
  split at pool
  · cases pool
  · exact Strategy.pool.inj pool ▸ h.workers

namespace Program

section

variable [DomainNames]
variable {world : Surroundings} {flags : Flags} {config : Config} {given : List (Text × Toml)}

def IsPastConfiguration (world : Surroundings) (flags : Flags) : Prop :=
  ∀ cause, (run world flags).ending ≠ .stopped (.invalidConfig cause)

theorem not_isPast_of_error {error : RunError} (h : configure flags world.tree = .error error) :
    ¬ IsPastConfiguration world flags := by
  have failed := h
  rw [configure, mapError_eq_error_iff] at failed
  obtain ⟨cause, -, rfl⟩ := failed
  have stopped : (run world flags).ending = .stopped (.invalidConfig cause) := by
    rw [run_eq, readAll, h]
    rfl
  exact fun past => past cause stopped

theorem isPast_of_configure (h : configure flags world.tree = .ok config) :
    IsPastConfiguration world flags := by
  intro cause same
  rw [run_eq, readAll_of_configure h] at same
  cases load : Document.load world.tree config.protectedHeads config.httpFile with
  | error error =>
    rw [load] at same
    obtain rfl := Ending.stopped.inj same
    unfold Document.load at load
    split at load <;> cases load
  | ok document =>
    have read : IsRead world.tree flags config document := by
      rw [← readAll_eq_ok_iff, readAll_of_configure h, load]
      rfl
    rw [load] at same
    change (runDocument world flags config document).ending = _ at same
    by_cases empty : document.cases = []
    · rw [← run_of_isRead read, run_of_noCases read empty] at same
      cases same
    · cases address : Request.baseUrl config.apiUrl with
      | error fault =>
        have some : ¬ document.cases.isEmpty = true := List.isEmpty_iff.not.2 empty
        rw [runDocument, if_neg some, address] at same
        cases same
      | ok base =>
        have starts : Starts world.tree flags config document base := ⟨read, empty, address⟩
        have late := isLate_run (not_stopsEarly_iff.2 ⟨config, document, base, starts⟩)
        rw [← run_of_isRead read] at same
        exact late.error _ same (.config cause)

theorem isPastConfiguration_iff : IsPastConfiguration world flags ↔
    ∃ config, configure flags world.tree = .ok config := by
  refine ⟨fun past => ?_, fun ⟨config, h⟩ => isPast_of_configure h⟩
  cases configured : configure flags world.tree with
  | error error => exact absurd past (not_isPast_of_error configured)
  | ok config => exact ⟨config, rfl⟩

theorem configure_settles (world : Surroundings) (flags : Flags)
    (finds : Config.Finds world.tree flags.config given) :
    (IsPastConfiguration world flags → ∃ config, configure flags world.tree = .ok config ∧
      Config.Settled flags given config ∧ config.IsValid ∧
      ∀ workers, config.strategy = .pool workers → 0 < workers) ∧
    (IsPastConfiguration world flags ↔
      (∀ entry ∈ given, Shape.IsEntry Config.documentTypes entry) ∧
      ∃ file config, Config.Settled {} given file ∧ Config.Settled flags given config ∧
        file.IsValid ∧ config.IsValid) ∧
    ∀ config, flags.apply (flags.apply config) = flags.apply config := by
  have keys := finds.hasDistinctKeys
  have settles {config} (h : configure flags world.tree = .ok config) :
      (∀ entry ∈ given, Shape.IsEntry Config.documentTypes entry) ∧
      ∃ file, Config.Settled {} given file ∧ Config.Settled flags given config ∧
        file.IsValid ∧ config.IsValid := by
    obtain ⟨⟨file, loaded, rfl⟩, valid⟩ := configure_eq_ok_iff.1 h
    obtain ⟨read, fileValid⟩ := finds.load_eq_ok_iff.1 (Config.load_eq_ok_iff.2 loaded)
    have settled := Config.settled_of_entries keys read
    refine ⟨?_, file, settled, settled.apply flags, fileValid, valid⟩
    exact (Shape.entries_ok_iff Config.haveTypes_fields Config.distinct_fields).1 ⟨file, read⟩
  refine ⟨fun past => ?_, ⟨fun past => ?_, ?_⟩, flags.apply_apply⟩
  · obtain ⟨config, h⟩ := isPastConfiguration_iff.1 past
    obtain ⟨-, -, -, settled, -, valid⟩ := settles h
    exact ⟨config, h, settled, valid, fun _ => valid.workers_pos⟩
  · obtain ⟨config, h⟩ := isPastConfiguration_iff.1 past
    obtain ⟨typed, file, settled⟩ := settles h
    exact ⟨typed, file, config, settled⟩
  · -- Settings determine a configuration, so that the document is read to the one they give.
    rintro ⟨typed, file, config, settledFile, settled, fileValid, valid⟩
    obtain ⟨file', read⟩ :=
      (Shape.entries_ok_iff Config.haveTypes_fields Config.distinct_fields).2 typed
    obtain rfl := (Config.settled_of_entries keys read).unique settledFile
    obtain rfl := (settledFile.apply flags).unique settled
    have loaded := Config.load_eq_ok_iff.1 (finds.load_eq_ok_iff.2 ⟨read, fileValid⟩)
    exact isPast_of_configure (configure_eq_ok_iff.2 ⟨⟨_, loaded, rfl⟩, valid⟩)

end

/-- The time and the workers are those of a file, the strategy is that of a flag, and everything
else has its default. -/
theorem configure_settles_partly :
    let _ : DomainNames := .asciiOnly
    let document : Text := "timeout_ms = 7\n[execution]\nworkers = 2\n"
    let world : Surroundings :=
      { tree := { entries := [([Config.defaultFile], .file (Utf8.encode document))] }
        network := { isUp := true, server := fun _ => .close } }
    let flags : Flags := { strategy := some .pool }
    let workers : Text × Toml := ("workers", .integer 2)
    let given : List (Text × Toml) := [("timeout_ms", .integer 7), ("execution", .table [workers])]
    let config : Config := { timeoutMillis := 7, execution := { strategy := .pool, workers := 2 } }
    Config.Finds world.tree none given ∧ IsPastConfiguration world flags ∧
    configure flags world.tree = .ok config ∧ Config.Settled flags given config := by
  intro names document world flags workers given config
  have held : world.tree.Holds Config.defaultFile document :=
    ⟨Utf8.encode document, by decide +kernel, by decide +kernel⟩
  have parsed : Toml.parse? document = some given := by decide +kernel
  have finds : Config.Finds world.tree none given := .found held parsed
  have configured : configure flags world.tree = .ok config :=
    toOption_eq_some_iff.1 (by decide +kernel)
  have past : IsPastConfiguration world flags := isPast_of_configure configured
  obtain ⟨config', same, settled, -⟩ := (configure_settles world flags finds).1 past
  obtain rfl := Except.ok.inj (same.symm.trans configured)
  exact ⟨finds, past, configured, settled⟩

end Program
end HttpContract
