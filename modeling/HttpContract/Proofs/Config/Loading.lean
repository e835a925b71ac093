import HttpContract.Config.Load
import HttpContract.Proofs.Except
import HttpContract.Proofs.FileTree.Basic

/-! Which configuration is loaded, and when one is valid. -/
namespace HttpContract
namespace Config

structure IsValid (config : Config) : Prop where
  apiUrl : Text.isBlank config.apiUrl = false
  timeout : 0 < config.timeoutMillis
  workers : 0 < config.execution.workers

@[simp]
theorem validate_eq_ok_iff {config : Config} : config.validate = .ok () ↔ config.IsValid := by
  unfold validate
  split_ifs with blank zero none
  · exact iff_of_false nofun fun valid => by simp [valid.apiUrl] at blank
  · exact iff_of_false nofun fun valid => valid.timeout.ne' zero
  · exact iff_of_false nofun fun valid => valid.workers.ne' none
  · exact iff_of_true rfl
      ⟨Bool.eq_false_iff.2 blank, Nat.pos_of_ne_zero zero, Nat.pos_of_ne_zero none⟩

@[simp] theorem isValid_default : IsValid {} := ⟨by decide, by decide, by decide⟩

/-- A document is TOML, has the shape of a configuration, and is valid by itself. -/
structure IsDocumentOf (config : Config) (document : Text) : Prop where
  shape : ∃ given, Toml.parse? document = some given ∧ Shape.entries fields {} given = .ok config
  valid : config.IsValid

theorem ofText_eq_ok_iff {path : Option Text} {document : Text} {config : Config} :
    ofText path document = .ok config ↔ config.IsDocumentOf document := by
  unfold ofText
  split
  next malformed =>
    refine iff_of_false nofun fun h => ?_
    obtain ⟨_, parsed, -⟩ := h.shape
    rw [malformed] at parsed
    cases parsed
  next given parsed =>
    split
    next misshapen =>
      refine iff_of_false nofun fun h => ?_
      obtain ⟨given', parsed', shaped⟩ := h.shape
      obtain rfl := Option.some.inj (parsed.symm.trans parsed')
      rw [misshapen] at shaped
      cases shaped
    next read shaped =>
      rw [bind_eq_ok_iff]
      constructor
      · rintro ⟨_, valid, same⟩
        obtain rfl := Except.ok.inj same
        exact ⟨⟨given, parsed, shaped⟩, validate_eq_ok_iff.1 valid⟩
      · rintro ⟨⟨given', parsed', shaped'⟩, valid⟩
        obtain rfl := Option.some.inj (parsed.symm.trans parsed')
        obtain rfl := Except.ok.inj (shaped.symm.trans shaped')
        exact ⟨(), validate_eq_ok_iff.2 valid, rfl⟩

/-- The configuration that the flags override: that of the named file, or of the default file, or
without both the default configuration. -/
inductive IsLoaded (tree : FileTree) : Option Text → Config → Prop
  | named {path document : Text} {config : Config} (held : tree.Holds path document)
      (read : config.IsDocumentOf document) : IsLoaded tree (some path) config
  | found {document : Text} {config : Config} (held : tree.Holds defaultFile document)
      (read : config.IsDocumentOf document) : IsLoaded tree none config
  | absent (absent : tree.hasEntry defaultFile = false) : IsLoaded tree none {}

theorem ofFile_eq_ok_iff {tree : FileTree} {path : Text} {config : Config} :
    ofFile tree path = .ok config ↔
      ∃ document, tree.Holds path document ∧ config.IsDocumentOf document := by
  unfold ofFile
  split
  next unread =>
    refine iff_of_false nofun fun ⟨_, held, _⟩ => ?_
    rw [FileTree.read_eq_ok_iff.2 held] at unread
    cases unread
  next document read =>
    rw [ofText_eq_ok_iff]
    constructor
    · exact fun h => ⟨document, FileTree.read_eq_ok_iff.1 read, h⟩
    · rintro ⟨document', held, h⟩
      obtain rfl := Except.ok.inj (read.symm.trans (FileTree.read_eq_ok_iff.2 held))
      exact h

theorem hasEntry_of_holds {tree : FileTree} {path document : Text}
    (h : tree.Holds path document) : tree.hasEntry path = true := by
  obtain ⟨bytes, found, -⟩ := h
  simp [FileTree.hasEntry, found, Except.toOption]

theorem load_eq_ok_iff {tree : FileTree} {explicit : Option Text} {config : Config} :
    load tree explicit = .ok config ↔ IsLoaded tree explicit config := by
  unfold load
  cases explicit with
  | some path =>
    rw [ofFile_eq_ok_iff]
    constructor
    · rintro ⟨document, held, read⟩
      exact .named held read
    · rintro ⟨held, read⟩
      exact ⟨_, held, read⟩
  | none =>
    dsimp only
    split
    next there =>
      rw [ofFile_eq_ok_iff]
      constructor
      · rintro ⟨document, held, read⟩
        exact .found held read
      · rintro (_ | ⟨held, read⟩ | absent)
        · exact ⟨_, held, read⟩
        · rw [there] at absent
          cases absent
    next absent =>
      constructor
      · intro same
        obtain rfl := Except.ok.inj same
        exact .absent (Bool.eq_false_iff.2 absent)
      · rintro (_ | ⟨held, -⟩ | -)
        · exact absurd (hasEntry_of_holds held) absent
        · rfl

theorem IsLoaded.isValid {tree : FileTree} {explicit : Option Text} {config : Config}
    (h : IsLoaded tree explicit config) : config.IsValid := by
  cases h with
  | named _ read => exact read.valid
  | found _ read => exact read.valid
  | absent => exact isValid_default

end Config
end HttpContract
