import HttpContract.Program
import HttpContract.Proofs.Config.Loading

/-! The stages of a run before its first case, and what it does that stops in one of them. -/
namespace HttpContract

theorem Document.load_eq_ok_iff {tree : FileTree} {heads : List Text} {path : Text}
    {document : Document} : Document.load tree heads path = .ok document ↔
      ∃ text, tree.Holds path text ∧ Document.ofText heads text = document := by
  unfold Document.load
  split
  next text read =>
    have held := FileTree.read_eq_ok_iff.1 read
    constructor
    · exact fun same => ⟨text, held, Except.ok.inj same⟩
    · rintro ⟨text', held', same⟩
      obtain rfl := Except.ok.inj (read.symm.trans (FileTree.read_eq_ok_iff.2 held'))
      rw [same]
  next missing =>
    refine iff_of_false nofun fun ⟨_, held, _⟩ => ?_
    rw [FileTree.read_eq_ok_iff.2 held] at missing
    cases missing
  next unreadable =>
    refine iff_of_false nofun fun ⟨_, held, _⟩ => ?_
    rw [FileTree.read_eq_ok_iff.2 held] at unreadable
    cases unreadable

namespace Program

/-- A configuration is loaded, and the flags make a valid one of it. -/
structure IsConfigured (tree : FileTree) (flags : Flags) (config : Config) : Prop where
  loaded : ∃ file, Config.IsLoaded tree flags.config file ∧ flags.apply file = config
  valid : config.IsValid

structure IsRead (tree : FileTree) (flags : Flags) (config : Config) (document : Document) :
    Prop where
  configured : IsConfigured tree flags config
  held : ∃ text, tree.Holds config.httpFile text ∧
    Document.ofText config.protectedHeads text = document

/-- The run gets to its first case. -/
structure Starts [DomainNames] (tree : FileTree) (flags : Flags) (config : Config)
    (document : Document) (base : Url) : Prop where
  read : IsRead tree flags config document
  hasCases : document.cases ≠ []
  address : Request.baseUrl config.apiUrl = .ok base

/-- What stops a run before its first case. There may be several reasons at once. -/
inductive StopsEarly [DomainNames] (tree : FileTree) (flags : Flags) : Prop
  | unloaded (none : ∀ file, ¬ Config.IsLoaded tree flags.config file)
  | invalid {file : Config} (loaded : Config.IsLoaded tree flags.config file)
      (invalid : ¬ (flags.apply file).IsValid)
  | unread {config : Config} (configured : IsConfigured tree flags config)
      (none : ∀ text, ¬ tree.Holds config.httpFile text)
  | noCases {config : Config} {document : Document} (read : IsRead tree flags config document)
      (empty : document.cases = [])
  | noAddress {config : Config} {cause : UrlError} (configured : IsConfigured tree flags config)
      (malformed : Request.baseUrl config.apiUrl = .error cause)

variable {tree : FileTree} {flags : Flags} {config : Config} {document : Document} {base : Url}

@[simp] theorem configure_eq_ok_iff : configure flags tree = .ok config ↔
    IsConfigured tree flags config := by
  unfold configure
  rw [mapError_eq_ok_iff]
  constructor
  · intro h
    obtain ⟨file, loaded, h⟩ := bind_eq_ok_iff.1 h
    obtain ⟨_, valid, same⟩ := bind_eq_ok_iff.1 h
    obtain rfl := Except.ok.inj same
    exact ⟨⟨file, Config.load_eq_ok_iff.1 loaded, rfl⟩, Config.validate_eq_ok_iff.1 valid⟩
  · rintro ⟨⟨file, loaded, rfl⟩, valid⟩
    refine bind_eq_ok_iff.2 ⟨file, Config.load_eq_ok_iff.2 loaded, ?_⟩
    exact bind_eq_ok_iff.2 ⟨(), Config.validate_eq_ok_iff.2 valid, rfl⟩

theorem IsConfigured.unique {other : Config} (h : IsConfigured tree flags config)
    (h' : IsConfigured tree flags other) : config = other :=
  Except.ok.inj ((configure_eq_ok_iff.2 h).symm.trans (configure_eq_ok_iff.2 h'))

def readAll (tree : FileTree) (flags : Flags) : Except RunError (Config × Document) := do
  let config ← configure flags tree
  let document ← Document.load tree config.protectedHeads config.httpFile
  return (config, document)

theorem readAll_of_configure (h : configure flags tree = .ok config) : readAll tree flags =
    (Document.load tree config.protectedHeads config.httpFile).map fun document =>
      (config, document) := by
  unfold readAll
  rw [h]
  change (Document.load tree config.protectedHeads config.httpFile >>= fun document =>
    .ok (config, document)) = _
  cases Document.load tree config.protectedHeads config.httpFile <;> rfl

@[simp] theorem readAll_eq_ok_iff : readAll tree flags = .ok (config, document) ↔
    IsRead tree flags config document := by
  unfold readAll
  constructor
  · intro h
    obtain ⟨config', configured, h⟩ := bind_eq_ok_iff.1 h
    obtain ⟨document', read, same⟩ := bind_eq_ok_iff.1 h
    obtain ⟨rfl, rfl⟩ := Prod.mk.inj (Except.ok.inj same)
    exact ⟨configure_eq_ok_iff.1 configured, Document.load_eq_ok_iff.1 read⟩
  · rintro ⟨configured, held⟩
    refine bind_eq_ok_iff.2 ⟨config, configure_eq_ok_iff.2 configured, ?_⟩
    exact bind_eq_ok_iff.2 ⟨document, Document.load_eq_ok_iff.2 held, rfl⟩

theorem IsRead.unique {otherConfig : Config} {otherDocument : Document}
    (h : IsRead tree flags config document) (h' : IsRead tree flags otherConfig otherDocument) :
    config = otherConfig ∧ document = otherDocument :=
  Prod.mk.inj (Except.ok.inj ((readAll_eq_ok_iff.2 h).symm.trans (readAll_eq_ok_iff.2 h')))

variable [DomainNames]

theorem Starts.unique {otherConfig : Config} {otherDocument : Document} {otherBase : Url}
    (h : Starts tree flags config document base)
    (h' : Starts tree flags otherConfig otherDocument otherBase) :
    config = otherConfig ∧ document = otherDocument ∧ base = otherBase := by
  obtain ⟨rfl, rfl⟩ := h.read.unique h'.read
  exact ⟨rfl, rfl, Except.ok.inj (h.address.symm.trans h'.address)⟩

theorem stopsEarly_iff : StopsEarly tree flags ↔
    ∀ config document base, ¬ Starts tree flags config document base := by
  constructor
  · intro stops config document base starts
    obtain ⟨file, loaded, same⟩ := starts.read.configured.loaded
    cases stops with
    | unloaded none => exact none file loaded
    | invalid loaded' invalid =>
      have found := Config.load_eq_ok_iff.2 loaded
      obtain rfl := Except.ok.inj (found.symm.trans (Config.load_eq_ok_iff.2 loaded'))
      exact invalid (same ▸ starts.read.configured.valid)
    | unread configured none =>
      obtain rfl := configured.unique starts.read.configured
      obtain ⟨text, held, -⟩ := starts.read.held
      exact none text held
    | noCases read empty =>
      obtain ⟨-, rfl⟩ := read.unique starts.read
      exact starts.hasCases empty
    | noAddress configured malformed =>
      obtain rfl := configured.unique starts.read.configured
      rw [starts.address] at malformed
      cases malformed
  · intro never
    by_cases loaded : ∃ file, Config.IsLoaded tree flags.config file
    · obtain ⟨file, loaded⟩ := loaded
      by_cases valid : (flags.apply file).IsValid
      · have configured : IsConfigured tree flags (flags.apply file) := ⟨⟨file, loaded, rfl⟩, valid⟩
        by_cases held : ∃ text, tree.Holds (flags.apply file).httpFile text
        · obtain ⟨text, held⟩ := held
          have read : IsRead tree flags _ _ := ⟨configured, text, held, rfl⟩
          by_cases empty : (Document.ofText (flags.apply file).protectedHeads text).cases = []
          · exact .noCases read empty
          · cases address : Request.baseUrl (flags.apply file).apiUrl with
            | error cause => exact .noAddress configured address
            | ok base => exact absurd ⟨read, empty, address⟩ (never _ _ base)
        · exact .unread configured (not_exists.1 held)
      · exact .invalid loaded valid
    · exact .unloaded (not_exists.1 loaded)

theorem not_stopsEarly_iff : ¬ StopsEarly tree flags ↔
    ∃ config document base, Starts tree flags config document base := by
  rw [stopsEarly_iff]
  simp

variable {world : Surroundings}

theorem run_eq (world : Surroundings) (flags : Flags) : run world flags =
    match readAll world.tree flags with
    | .error error => { ending := .stopped error, tree := world.tree }
    | .ok (config, document) => runDocument world flags config document := rfl

theorem run_of_isRead (h : IsRead world.tree flags config document) :
    run world flags = runDocument world flags config document := by
  rw [run_eq, readAll_eq_ok_iff.2 h]

theorem run_of_unread (h : ∀ config document, ¬ IsRead world.tree flags config document) :
    ∃ error, run world flags = { ending := .stopped error, tree := world.tree } := by
  rw [run_eq]
  cases read : readAll world.tree flags with
  | error error => exact ⟨error, rfl⟩
  | ok pair => exact absurd (readAll_eq_ok_iff.1 read) (h pair.1 pair.2)

/-- The address counts for nothing here. -/
theorem run_of_noCases (h : IsRead world.tree flags config document)
    (empty : document.cases = []) : run world flags =
      { ending := .failed, output := noTestsText config.httpFile, tree := world.tree } := by
  rw [run_of_isRead h, runDocument, empty]
  rfl

theorem run_of_results {sent : List Request} {results : List TestResult}
    (h : Starts world.tree flags config document base)
    (done : executeCases world base config.strategy document.cases =
      { sent, results := .ok results }) :
    run world flags = reportResults world flags config sent results := by
  have some : ¬ document.cases.isEmpty = true := List.isEmpty_iff.not.2 h.hasCases
  rw [run_of_isRead h.read, runDocument, if_neg some]
  simp only [h.address, done]

theorem run_of_ending {sent : List Request} {ending : Ending}
    (h : Starts world.tree flags config document base)
    (broken : executeCases world base config.strategy document.cases =
      { sent, results := .error ending }) :
    run world flags = { ending, tree := world.tree, sent } := by
  have some : ¬ document.cases.isEmpty = true := List.isEmpty_iff.not.2 h.hasCases
  rw [run_of_isRead h.read, runDocument, if_neg some]
  simp only [h.address, broken]

theorem run_of_stopsEarly (h : StopsEarly world.tree flags) :
    (∃ error, run world flags = { ending := .stopped error, tree := world.tree }) ∨
      ∃ config document, IsRead world.tree flags config document ∧ document.cases = [] ∧
        run world flags =
          { ending := .failed, output := noTestsText config.httpFile, tree := world.tree } := by
  by_cases read : ∃ config document, IsRead world.tree flags config document
  · obtain ⟨config, document, read⟩ := read
    by_cases empty : document.cases = []
    · exact .inr ⟨config, document, read, empty, run_of_noCases read empty⟩
    · have some : ¬ document.cases.isEmpty = true := List.isEmpty_iff.not.2 empty
      cases address : Request.baseUrl config.apiUrl with
      | error cause =>
        refine .inl ⟨.invalidBaseUrl config.apiUrl cause, ?_⟩
        rw [run_of_isRead read, runDocument, if_neg some, address]
      | ok base => exact absurd ⟨read, empty, address⟩ (stopsEarly_iff.1 h _ _ base)
  · refine .inl (run_of_unread fun config document h => read ⟨config, document, h⟩)

end Program
end HttpContract
