import HttpContract.CommandLine.Basic
import HttpContract.Proofs.Config.Loading
import HttpContract.Proofs.Config.Shape
import Mathlib.Tactic.FinCases

/-! The settings of a run, each by itself: where its value comes from, and which documents give one
to all of them. -/
namespace HttpContract
namespace Config

open Shape

/-! The keys of a document with the types of their values. -/

abbrev Types := List (Text × (Toml → Prop))

def executionTypes : Types :=
  [("strategy", IsTyped (IsNamed StrategyKind.name)), ("workers", IsTyped IsNatural)]

def parserTypes : Types := [("section_headers", IsTyped (IsList IsText))]

def reportsTypes : Types := [("formats", IsTyped (IsList (IsNamed ReportFormat.name)))]

def documentTypes : Types :=
  [("api_url", IsTyped IsText), ("http_file", IsTyped IsText), ("output_dir", IsTyped IsText),
    ("timeout_ms", IsTyped IsNatural), ("execution", IsSection executionTypes),
    ("parser", IsSection parserTypes), ("reports", IsSection reportsTypes)]

def atKey? (given : List (Text × Toml)) (key : Text) : Option Toml := given.lookup key

def inSection? (types : Types) (given : List (Text × Toml)) (name key : Text) : Option Toml :=
  ((atKey? given name).bind (sectionEntries? (types.map Prod.fst))).bind (atKey? · key)

/-- Every setting is that of its flag, or else that of its key, or else its default, and depends on
nothing besides. -/
structure Settled (flags : Flags) (given : List (Text × Toml)) (config : Config) : Prop where
  apiUrl : IsSetting IsText "http://localhost:5225" flags.apiUrl (atKey? given "api_url")
    config.apiUrl
  httpFile : IsSetting IsText "TestFiles/endpoints.http" flags.httpFile (atKey? given "http_file")
    config.httpFile
  outputDir : IsSetting IsText "Reports" flags.output (atKey? given "output_dir") config.outputDir
  timeout : IsSetting IsNatural 100000 flags.timeoutMillis (atKey? given "timeout_ms")
    config.timeoutMillis
  strategy : IsSetting (IsNamed StrategyKind.name) .sequential flags.strategy
    (inSection? executionTypes given "execution" "strategy") config.execution.strategy
  workers : IsSetting IsNatural 4 flags.workers
    (inSection? executionTypes given "execution" "workers") config.execution.workers
  protectedHeads : IsSetting (IsList IsText) Block.defaultProtected none
    (inSection? parserTypes given "parser" "section_headers") config.protectedHeads
  formats : IsSetting (IsList (IsNamed ReportFormat.name)) ReportFormat.all none
    (inSection? reportsTypes given "reports" "formats") config.formats

/-! The names of the variants. -/

theorem lists_of_injective {α : Type} {all : List α} {name : α → Text}
    (complete : ∀ variant, variant ∈ all) (injective : Function.Injective name) :
    Lists (all.map fun variant => (name variant, variant)) name := by
  refine ⟨fun {given variant} => ?_⟩
  constructor
  · intro found
    obtain ⟨before, after, cut, -⟩ := List.lookup_eq_some_iff.1 found
    have member : (given, variant) ∈ all.map fun variant => (name variant, variant) :=
      cut ▸ List.mem_append_right _ List.mem_cons_self
    obtain ⟨variant', -, same⟩ := List.mem_map.1 member
    obtain ⟨rfl, rfl⟩ := Prod.mk.inj same
    rfl
  · rintro rfl
    have member := complete variant
    clear complete
    induction all with
    | nil => cases member
    | cons first all ih =>
      rw [List.map_cons, List.lookup_cons]
      by_cases same : name variant = name first
      · rw [injective same, beq_self_eq_true]
      · rw [beq_eq_false_iff_ne.2 same]
        exact ih ((List.mem_cons.1 member).resolve_left fun own => same (own ▸ rfl))

@[simp] theorem lists_strategy :
    Lists (StrategyKind.all.map fun kind => (kind.name, kind)) StrategyKind.name := by
  refine lists_of_injective (fun kind => by cases kind <;> decide) fun kind other same => ?_
  revert same
  cases kind <;> cases other <;> decide

@[simp] theorem lists_format :
    Lists (ReportFormat.all.map fun format => (format.name, format)) ReportFormat.name := by
  refine lists_of_injective (fun format => by cases format <;> decide) fun format other same => ?_
  revert same
  cases format <;> cases other <;> decide

/-! The fields of the records, and the setting that each of them owns. -/

@[simp] theorem distinct_fields : (fields.map RecordField.name).Nodup := by decide +kernel

@[simp] theorem distinct_executionFields : (executionFields.map RecordField.name).Nodup := by
  decide +kernel

@[simp] theorem distinct_protectedHeadsField : ([protectedHeadsField].map RecordField.name).Nodup :=
  List.nodup_singleton _

@[simp] theorem distinct_formatsField : ([formatsField].map RecordField.name).Nodup :=
  List.nodup_singleton _

@[simp] theorem haveTypes_executionSection : HaveTypes executionFields executionTypes :=
  .cons ⟨rfl, takes_fieldOf fun _ => exists_congr (reads_variant lists_strategy _)⟩ <|
    .cons ⟨rfl, takes_fieldOf fun _ => exists_congr (reads_natural _ _)⟩ .nil

@[simp] theorem haveTypes_parserSection : HaveTypes [protectedHeadsField] parserTypes :=
  .cons ⟨rfl, takes_fieldOf fun _ => exists_congr (reads_list (reads_text _) _)⟩ .nil

@[simp] theorem haveTypes_reportsSection : HaveTypes [formatsField] reportsTypes :=
  .cons ⟨rfl, takes_fieldOf fun _ =>
    exists_congr (reads_list (reads_variant lists_format) _)⟩ .nil

@[simp] theorem haveTypes_fields : HaveTypes fields documentTypes := by
  unfold fields documentTypes
  refine .cons ⟨rfl, takes_fieldOf fun _ => exists_congr (reads_text _ _)⟩ ?_
  refine .cons ⟨rfl, takes_fieldOf fun _ => exists_congr (reads_text _ _)⟩ ?_
  refine .cons ⟨rfl, takes_fieldOf fun _ => exists_congr (reads_text _ _)⟩ ?_
  refine .cons ⟨rfl, takes_fieldOf fun _ => exists_congr (reads_natural _ _)⟩ ?_
  refine .cons ⟨rfl, takes_fieldOf fun _ =>
    record_ok_iff haveTypes_executionSection distinct_executionFields⟩ ?_
  refine .cons ⟨rfl, takes_fieldOf fun _ =>
    record_ok_iff haveTypes_parserSection distinct_protectedHeadsField⟩ ?_
  refine .cons ⟨rfl, takes_fieldOf fun _ =>
    record_ok_iff haveTypes_reportsSection distinct_formatsField⟩ .nil

theorem owns_strategy : Owns executionFields "strategy" ExecutionConfig.strategy
    (IsNamed StrategyKind.name) :=
  ⟨_, .head _, rfl, sets_fieldOf fun _ _ _ _ => (reads_variant lists_strategy _ _).1,
    List.forall_mem_cons.2 ⟨fun other => absurd rfl other,
      List.forall_mem_singleton.2 fun _ => keeps_fieldOf fun _ _ => rfl⟩⟩

theorem owns_workers : Owns executionFields "workers" ExecutionConfig.workers IsNatural :=
  ⟨_, .tail _ (.head _), rfl, sets_fieldOf fun _ _ _ _ => (reads_natural _ _ _).1,
    List.forall_mem_cons.2 ⟨fun _ => keeps_fieldOf fun _ _ => rfl,
      List.forall_mem_singleton.2 fun other => absurd rfl other⟩⟩

theorem owns_sectionHeaders : Owns [protectedHeadsField] "section_headers" id (IsList IsText) :=
  ⟨_, .head _, rfl, sets_fieldOf fun _ _ _ _ => (reads_list (reads_text _) _ _).1,
    List.forall_mem_singleton.2 fun other => absurd rfl other⟩

theorem owns_formatList :
    Owns [formatsField] "formats" id (IsList (IsNamed ReportFormat.name)) :=
  ⟨_, .head _, rfl, sets_fieldOf fun _ _ _ _ => (reads_list (reads_variant lists_format) _ _).1,
    List.forall_mem_singleton.2 fun other => absurd rfl other⟩

/-- A field of a document leaves every part of the configuration as it is but its own. -/
structure KeepsOthers (field : RecordField Config) : Prop where
  apiUrl : field.name ≠ "api_url" → field.Keeps Config.apiUrl
  httpFile : field.name ≠ "http_file" → field.Keeps Config.httpFile
  outputDir : field.name ≠ "output_dir" → field.Keeps Config.outputDir
  timeout : field.name ≠ "timeout_ms" → field.Keeps Config.timeoutMillis
  execution : field.name ≠ "execution" → field.Keeps Config.execution
  protectedHeads : field.name ≠ "parser" → field.Keeps Config.protectedHeads
  formats : field.name ≠ "reports" → field.Keeps Config.formats

theorem keepsOthers_of_mem : ∀ field ∈ fields, KeepsOthers field := by
  intro field member
  unfold fields at member
  -- Each of the seven fields has its own part, whose condition fails, and six others.
  fin_cases member <;> constructor <;>
    first
      | exact fun _ => keeps_fieldOf fun _ _ => rfl
      | exact fun other => absurd rfl other

theorem owns_apiUrl : Owns fields "api_url" Config.apiUrl IsText :=
  ⟨_, .head _, rfl, sets_fieldOf fun _ _ _ _ => (reads_text _ _ _).1,
    fun _ member => (keepsOthers_of_mem _ member).apiUrl⟩

theorem owns_httpFile : Owns fields "http_file" Config.httpFile IsText :=
  ⟨_, .tail _ (.head _), rfl, sets_fieldOf fun _ _ _ _ => (reads_text _ _ _).1,
    fun _ member => (keepsOthers_of_mem _ member).httpFile⟩

theorem owns_outputDir : Owns fields "output_dir" Config.outputDir IsText :=
  ⟨_, .tail _ (.tail _ (.head _)), rfl, sets_fieldOf fun _ _ _ _ => (reads_text _ _ _).1,
    fun _ member => (keepsOthers_of_mem _ member).outputDir⟩

theorem owns_timeout : Owns fields "timeout_ms" Config.timeoutMillis IsNatural :=
  ⟨_, .tail _ (.tail _ (.tail _ (.head _))), rfl,
    sets_fieldOf fun _ _ _ _ => (reads_natural _ _ _).1,
    fun _ member => (keepsOthers_of_mem _ member).timeout⟩

theorem owns_executionStrategy : Owns fields "execution" (fun config => config.execution.strategy)
    (InSection (executionTypes.map Prod.fst) "strategy" (IsNamed StrategyKind.name)
      .sequential) :=
  ⟨_, .tail _ (.tail _ (.tail _ (.tail _ (.head _)))), rfl,
    sets_fieldOf fun _ _ _ => inSection_of_record distinct_executionFields owns_strategy,
    fun _ member other =>
      ((keepsOthers_of_mem _ member).execution other).comp ExecutionConfig.strategy⟩

theorem owns_executionWorkers : Owns fields "execution" (fun config => config.execution.workers)
    (InSection (executionTypes.map Prod.fst) "workers" IsNatural 4) :=
  ⟨_, .tail _ (.tail _ (.tail _ (.tail _ (.head _)))), rfl,
    sets_fieldOf fun _ _ _ => inSection_of_record distinct_executionFields owns_workers,
    fun _ member other =>
      ((keepsOthers_of_mem _ member).execution other).comp ExecutionConfig.workers⟩

theorem owns_protectedHeads : Owns fields "parser" Config.protectedHeads
    (InSection (parserTypes.map Prod.fst) "section_headers" (IsList IsText)
      Block.defaultProtected) :=
  ⟨_, .tail _ (.tail _ (.tail _ (.tail _ (.tail _ (.head _))))), rfl,
    sets_fieldOf fun _ _ _ =>
      inSection_of_record distinct_protectedHeadsField owns_sectionHeaders,
    fun _ member => (keepsOthers_of_mem _ member).protectedHeads⟩

theorem owns_formats : Owns fields "reports" Config.formats
    (InSection (reportsTypes.map Prod.fst) "formats" (IsList (IsNamed ReportFormat.name))
      ReportFormat.all) :=
  ⟨_, .tail _ (.tail _ (.tail _ (.tail _ (.tail _ (.tail _ (.head _)))))), rfl,
    sets_fieldOf fun _ _ _ => inSection_of_record distinct_formatsField owns_formatList,
    fun _ member => (keepsOthers_of_mem _ member).formats⟩

/-! A document that is taken settles everything, and the flags override it. -/

variable {tree : FileTree} {explicit : Option Text} {given : List (Text × Toml)} {config : Config}

theorem settled_of_entries (keys : Toml.HasDistinctKeys (.table given))
    (read : entries fields {} given = .ok config) : Settled {} given config where
  apiUrl := isSetting_of_entries distinct_fields owns_apiUrl keys read
  httpFile := isSetting_of_entries distinct_fields owns_httpFile keys read
  outputDir := isSetting_of_entries distinct_fields owns_outputDir keys read
  timeout := isSetting_of_entries distinct_fields owns_timeout keys read
  strategy := (isSetting_of_entries distinct_fields owns_executionStrategy keys read).of_inSection
  workers := (isSetting_of_entries distinct_fields owns_executionWorkers keys read).of_inSection
  protectedHeads :=
    (isSetting_of_entries distinct_fields owns_protectedHeads keys read).of_inSection
  formats := (isSetting_of_entries distinct_fields owns_formats keys read).of_inSection

theorem Settled.apply (h : Settled {} given config) (flags : Flags) :
    Settled flags given (flags.apply config) where
  apiUrl := h.apiUrl.override flags.apiUrl
  httpFile := h.httpFile.override flags.httpFile
  outputDir := h.outputDir.override flags.output
  timeout := h.timeout.override flags.timeoutMillis
  strategy := h.strategy.override flags.strategy
  workers := h.workers.override flags.workers
  protectedHeads := h.protectedHeads
  formats := h.formats

theorem Settled.unique {flags : Flags} {other : Config} (h : Settled flags given config)
    (h' : Settled flags given other) : config = other := by
  obtain ⟨_, _, _, _, ⟨_, _⟩, _, _⟩ := config
  obtain ⟨_, _, _, _, ⟨_, _⟩, _, _⟩ := other
  have texts := reads_list (reads_text "a string")
  have apiUrl := h.apiUrl.unique (reads_text "a string").isFunctional h'.apiUrl
  have httpFile := h.httpFile.unique (reads_text "a string").isFunctional h'.httpFile
  have outputDir := h.outputDir.unique (reads_text "a string").isFunctional h'.outputDir
  have timeout := h.timeout.unique (reads_natural "u64").isFunctional h'.timeout
  have strategy := h.strategy.unique (reads_variant lists_strategy).isFunctional h'.strategy
  have workers := h.workers.unique (reads_natural "usize").isFunctional h'.workers
  have protectedHeads := h.protectedHeads.unique texts.isFunctional h'.protectedHeads
  have formats :=
    h.formats.unique (reads_list (reads_variant lists_format)).isFunctional h'.formats
  dsimp only at *
  subst apiUrl httpFile outputDir timeout strategy workers protectedHeads formats
  rfl

/-! The document that a run finds. -/

/-- What the configuration file says: the named one, or the default one, or nothing where there is
none. -/
inductive Finds (tree : FileTree) : Option Text → List (Text × Toml) → Prop
  | named {path document : Text} {given : List (Text × Toml)} (held : tree.Holds path document)
      (parsed : Toml.parse? document = some given) : Finds tree (some path) given
  | found {document : Text} {given : List (Text × Toml)} (held : tree.Holds defaultFile document)
      (parsed : Toml.parse? document = some given) : Finds tree none given
  | absent (absent : tree.hasEntry defaultFile = false) : Finds tree none []

theorem Finds.hasDistinctKeys (h : Finds tree explicit given) :
    Toml.HasDistinctKeys (.table given) := by
  cases h with
  | named _ parsed => exact Toml.hasDistinctKeys_of_parse? parsed
  | found _ parsed => exact Toml.hasDistinctKeys_of_parse? parsed
  | absent => exact .table List.nodup_nil nofun

theorem ofFile_eq_ok_iff_of_parsed {path document : Text} (held : tree.Holds path document)
    (parsed : Toml.parse? document = some given) : ofFile tree path = .ok config ↔
      entries fields {} given = .ok config ∧ config.IsValid := by
  rw [ofFile, FileTree.read_eq_ok_iff.2 held]
  dsimp only
  rw [ofText_eq_ok_iff]
  constructor
  · rintro ⟨⟨given', parsed', read⟩, valid⟩
    obtain rfl := Option.some.inj (parsed.symm.trans parsed')
    exact ⟨read, valid⟩
  · exact fun ⟨read, valid⟩ => ⟨⟨given, parsed, read⟩, valid⟩

theorem Finds.load_eq_ok_iff (h : Finds tree explicit given) :
    load tree explicit = .ok config ↔ entries fields {} given = .ok config ∧ config.IsValid := by
  cases h with
  | named held parsed => exact ofFile_eq_ok_iff_of_parsed held parsed
  | found held parsed =>
    rw [load, if_pos (hasEntry_of_holds held)]
    exact ofFile_eq_ok_iff_of_parsed held parsed
  | absent absent =>
    rw [load, if_neg (Bool.eq_false_iff.1 absent)]
    have empty : entries fields {} [] = .ok {} := rfl
    rw [empty, Except.ok.injEq, Except.ok.injEq]
    exact ⟨fun same => ⟨same, same ▸ isValid_default⟩, And.left⟩

end Config
end HttpContract
