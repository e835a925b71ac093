import HttpContract.Config.Shape
import HttpContract.Proofs.Except
import HttpContract.Proofs.Toml.Distinct

/-! What the readers of typed values take out of TOML: which values have a type, what each of them
stands for, and what a record holds once the entries of a table have been set in it. -/
namespace HttpContract
namespace Shape

variable {σ α : Type}

/-! The types of values, each as the relation between a value and what it stands for. -/

inductive IsText : Toml → Text → Prop
  | string (text : Text) : IsText (.string text) text

inductive IsNatural : Toml → Nat → Prop
  | integer (number : Nat) : IsNatural (.integer number) number

inductive IsNothing : Toml → Prop
  | array : IsNothing (.array [])
  | table : IsNothing (.table [])
  | tables : IsNothing (.tables [])

/-- A variant is given by its name, or by a table with its name as the only key. -/
inductive IsNamed (name : α → Text) : Toml → α → Prop
  | string (variant : α) : IsNamed name (.string (name variant)) variant
  | table (variant : α) {value : Toml} (nothing : IsNothing value) :
      IsNamed name (.table [(name variant, value)]) variant

inductive IsList (item : Toml → α → Prop) (value : Toml) (list : List α) : Prop
  | intro {items : List Toml} (sequence : value.items? = some items)
      (each : List.Forall₂ item items list)

def IsTyped (means : Toml → α → Prop) (value : Toml) : Prop := ∃ a, means value a

/-- The entries of a section: those of its table, or, where it lists values only, each of them under
the key at its place. -/
def sectionEntries? (keys : List Text) : Toml → Option (List (Text × Toml))
  | .table entries => some entries
  | value => value.items?.map keys.zip

def IsEntry (types : List (Text × (Toml → Prop))) (entry : Text × Toml) : Prop :=
  ∃ type, (entry.1, type) ∈ types ∧ type entry.2

def IsSection (types : List (Text × (Toml → Prop))) (value : Toml) : Prop :=
  ∃ given, sectionEntries? (types.map Prod.fst) value = some given ∧
    ∀ entry ∈ given, IsEntry types entry

/-- Where a setting comes from: its flag, or else what is written in the file, or else its
default. -/
inductive IsSetting (means : Toml → α → Prop) (default : α) :
    Option α → Option Toml → α → Prop
  | flag (value : α) (written : Option Toml) : IsSetting means default (some value) written value
  | file {written : Toml} {value : α} (meant : means written value) :
      IsSetting means default none (some written) value
  | default : IsSetting means default none none default

/-! Readers take a value exactly for what it stands for. -/

/-- A reader takes the values of a type for what they stand for, and no others. -/
def Reads (reader : Reader α) (means : Toml → α → Prop) : Prop :=
  ∀ value a, reader value = .ok a ↔ means value a

@[simp] theorem reads_text (expected : Text) : Reads (text expected) IsText := by
  intro value t
  constructor
  · intro read
    cases value with
    | string => exact Except.ok.inj read ▸ .string _
    | _ => cases read
  · rintro ⟨⟩
    rfl

@[simp] theorem reads_natural (expected : Text) : Reads (natural expected) IsNatural := by
  intro value n
  constructor
  · intro read
    cases value with
    | integer number =>
      rw [natural] at read
      split_ifs at read with negative
      obtain rfl := Except.ok.inj read
      obtain ⟨number, rfl⟩ := Int.eq_ofNat_of_zero_le (Int.not_lt.1 negative)
      exact .integer number
    | _ => cases read
  · rintro ⟨⟩
    rw [natural, if_neg (Int.not_lt.2 (Int.natCast_nonneg n))]
    rfl

theorem reads_list {item : Reader α} {means : Toml → α → Prop} (h : Reads item means) :
    Reads (list item) (IsList means) := by
  have each : (fun value a => item value = .ok a) = means := funext₂ fun _ _ => propext (h _ _)
  intro value values
  rw [list]
  split
  next items sequence =>
    rw [mapM_eq_ok_iff, each]
    constructor
    · exact .intro sequence
    · rintro ⟨sequence', read⟩
      exact Option.some.inj (sequence.symm.trans sequence') ▸ read
  next scalar =>
    refine iff_of_false nofun fun ⟨sequence, _⟩ => ?_
    rw [scalar] at sequence
    cases sequence

@[simp] theorem nothing_eq_ok_iff {value : Toml} : nothing value = .ok () ↔ IsNothing value := by
  constructor
  · intro read
    cases value with
    | array items =>
      cases items with
      | nil => exact .array
      | cons => cases read
    | table entries =>
      cases entries with
      | nil => exact .table
      | cons => cases read
    | tables items =>
      cases items with
      | nil => exact .tables
      | cons => cases read
    | _ => cases read
  · rintro (_ | _ | _) <;> rfl

/-- All variants are listed by their names, and no two have one name. -/
structure Lists (known : List (Text × α)) (name : α → Text) : Prop where
  lookup : ∀ {given variant}, known.lookup given = some variant ↔ name variant = given

theorem named_eq_ok_iff {known : List (Text × α)} {name : α → Text} (h : Lists known name)
    {given : Text} {a : α} : variant.named known given = .ok a ↔ name a = given := by
  rw [variant.named, ← h.lookup]
  split
  next found => rw [found, Option.some_inj, Except.ok.injEq]
  next missing =>
    rw [missing]
    exact iff_of_false nofun nofun

theorem reads_variant {known : List (Text × α)} {name : α → Text} (h : Lists known name) :
    Reads (variant known) (IsNamed name) := by
  intro value a
  constructor
  · intro read
    cases value with
    | string given => exact (named_eq_ok_iff h).1 read ▸ .string a
    | table entries =>
      match entries, read with
      | [(given, value)], read =>
        obtain ⟨a', found, read⟩ := bind_eq_ok_iff.1 read
        obtain ⟨⟨⟩, empty, same⟩ := bind_eq_ok_iff.1 read
        obtain rfl := Except.ok.inj same
        exact (named_eq_ok_iff h).1 found ▸ .table a' (nothing_eq_ok_iff.1 empty)
    | _ => cases read
  · rintro (_ | ⟨_, empty⟩)
    · exact (named_eq_ok_iff h).2 rfl
    · refine bind_eq_ok_iff.2 ⟨a, (named_eq_ok_iff h).2 rfl, ?_⟩
      exact bind_eq_ok_iff.2 ⟨(), nothing_eq_ok_iff.2 empty, rfl⟩

/-! Records. -/

namespace RecordField

variable {β : Type}

/-- The values that a field can be set to, whatever the record holds. -/
def Takes (field : RecordField σ) (type : Toml → Prop) : Prop :=
  ∀ value record, (∃ record', field.set value record = .ok record') ↔ type value

def Sets (field : RecordField σ) (get : σ → β) (means : Toml → β → Prop) : Prop :=
  ∀ value record record', value.HasDistinctKeys → field.set value record = .ok record' →
    means value (get record')

def Keeps (field : RecordField σ) (get : σ → β) : Prop :=
  ∀ value record record', field.set value record = .ok record' → get record' = get record

theorem Keeps.comp {γ : Type} {field : RecordField σ} {get : σ → β} (h : field.Keeps get)
    (part : β → γ) : field.Keeps (part ∘ get) :=
  fun value record record' done => congrArg part (h value record record' done)

end RecordField

section Field

variable {β : Type} {name : Text} {reader : Reader α} {set : α → σ → σ}

theorem takes_fieldOf {type : Toml → Prop} (h : ∀ value, (∃ a, reader value = .ok a) ↔ type value) :
    (fieldOf name reader set).Takes type := by
  intro value record
  rw [← h]
  constructor
  · rintro ⟨record', done⟩
    obtain ⟨a, read, -⟩ := map_eq_ok_iff.1 done
    exact ⟨a, read⟩
  · rintro ⟨a, read⟩
    exact ⟨set a record, map_eq_ok_iff.2 ⟨a, read, rfl⟩⟩

theorem sets_fieldOf {get : σ → β} {means : Toml → β → Prop}
    (h : ∀ value a record, value.HasDistinctKeys → reader value = .ok a →
      means value (get (set a record))) : (fieldOf name reader set).Sets get means := by
  intro value record record' distinct done
  obtain ⟨a, read, rfl⟩ := map_eq_ok_iff.1 done
  exact h value a record distinct read

theorem keeps_fieldOf {get : σ → β} (h : ∀ a record, get (set a record) = get record) :
    (fieldOf name reader set).Keeps get := by
  intro value record record' done
  obtain ⟨a, -, rfl⟩ := map_eq_ok_iff.1 done
  exact h a record

end Field

section Entries

variable {fields : List (RecordField σ)} {defaults record : σ} {given : List (Text × Toml)}

theorem find?_name_eq_some_iff (distinct : (fields.map RecordField.name).Nodup)
    {field : RecordField σ} {key : Text} :
    fields.find? (fun field => field.name == key) = some field ↔
      field ∈ fields ∧ field.name = key := by
  constructor
  · intro found
    exact ⟨List.mem_of_find?_eq_some found, by simpa using List.find?_some found⟩
  · rintro ⟨member, rfl⟩
    obtain ⟨before, after, rfl⟩ := List.append_of_mem member
    rw [List.map_append, List.map_cons] at distinct
    refine List.find?_eq_some_iff_append.2 ⟨beq_self_eq_true _, before, after, rfl, ?_⟩
    intro earlier there
    have other : earlier.name ≠ field.name := fun same =>
      (List.disjoint_of_nodup_append distinct) (List.mem_map_of_mem there)
        (same ▸ List.mem_cons_self)
    simpa using other

theorem entries_cons_eq_ok_iff (distinct : (fields.map RecordField.name).Nodup) {key : Text}
    {value : Toml} : entries fields defaults ((key, value) :: given) = .ok record ↔
      ∃ field ∈ fields, field.name = key ∧
        ∃ next, field.set value defaults = .ok next ∧ entries fields next given = .ok record := by
  rw [entries, List.foldlM_cons, bind_eq_ok_iff]
  dsimp only
  split
  next field found =>
    obtain ⟨member, named⟩ := (find?_name_eq_some_iff distinct).1 found
    constructor
    · exact fun ⟨next, first, rest⟩ => ⟨field, member, named, next, first, rest⟩
    · rintro ⟨field', member', named', next, first, rest⟩
      have found' := (find?_name_eq_some_iff distinct).2 ⟨member', named'⟩
      obtain rfl := Option.some.inj (found.symm.trans found')
      exact ⟨next, first, rest⟩
  next unknown =>
    refine iff_of_false (fun ⟨_, wrong, _⟩ => nomatch wrong) fun ⟨field, member, named, _⟩ => ?_
    rw [(find?_name_eq_some_iff distinct).2 ⟨member, named⟩] at unknown
    cases unknown

def HaveTypes (fields : List (RecordField σ)) (types : List (Text × (Toml → Prop))) : Prop :=
  List.Forall₂ (fun field type => field.name = type.1 ∧ field.Takes type.2) fields types

variable {types : List (Text × (Toml → Prop))}

theorem HaveTypes.names_eq (h : HaveTypes fields types) :
    fields.map RecordField.name = types.map Prod.fst := by
  induction h with
  | nil => rfl
  | cons first _ ih => rw [List.map_cons, List.map_cons, first.1, ih]

theorem HaveTypes.isEntry_iff (h : HaveTypes fields types) (record : σ) {key : Text}
    {value : Toml} : IsEntry types (key, value) ↔
      ∃ field ∈ fields, field.name = key ∧ ∃ next, field.set value record = .ok next := by
  induction h with
  | nil => simp [IsEntry]
  | @cons field type fields types first _ ih =>
    obtain ⟨key', type⟩ := type
    obtain ⟨rfl, takes⟩ := first
    rw [List.exists_mem_cons_iff, ← ih, takes value record]
    constructor
    · rintro ⟨type', member, typed⟩
      obtain same | later := List.mem_cons.1 member
      · obtain ⟨rfl, rfl⟩ := Prod.mk.inj same
        exact .inl ⟨rfl, typed⟩
      · exact .inr ⟨type', later, typed⟩
    · rintro (⟨rfl, typed⟩ | ⟨type', later, typed⟩)
      · exact ⟨type, List.mem_cons_self, typed⟩
      · exact ⟨type', List.mem_cons_of_mem _ later, typed⟩

/-- The entries of a table are taken exactly if each of them has a known key and a value of its
type. -/
theorem entries_ok_iff (h : HaveTypes fields types)
    (distinct : (fields.map RecordField.name).Nodup) :
    (∃ record, entries fields defaults given = .ok record) ↔
      ∀ entry ∈ given, IsEntry types entry := by
  induction given generalizing defaults with
  | nil => exact iff_of_true ⟨defaults, rfl⟩ (List.forall_mem_nil _)
  | cons entry given ih =>
    obtain ⟨key, value⟩ := entry
    rw [List.forall_mem_cons, h.isEntry_iff defaults]
    constructor
    · rintro ⟨record, read⟩
      obtain ⟨field, member, named, next, first, rest⟩ := (entries_cons_eq_ok_iff distinct).1 read
      exact ⟨⟨field, member, named, next, first⟩, ih.1 ⟨record, rest⟩⟩
    · rintro ⟨⟨field, member, named, next, first⟩, typed⟩
      obtain ⟨record, rest⟩ := ih.2 typed
      exact ⟨record, (entries_cons_eq_ok_iff distinct).2 ⟨field, member, named, next, first, rest⟩⟩

variable {β : Type} {get : σ → β} {means : Toml → β → Prop} {key : Text}

/-- A part of a record that the field of a key sets, and that the other fields leave alone. -/
def Owns (fields : List (RecordField σ)) (key : Text) (get : σ → β) (means : Toml → β → Prop) :
    Prop :=
  ∃ own ∈ fields, own.name = key ∧ own.Sets get means ∧
    ∀ field ∈ fields, field.name ≠ key → field.Keeps get

/-- Such a part is what the entry of the key says, or else its default, whatever the other entries
say. -/
theorem isSetting_of_entries (distinct : (fields.map RecordField.name).Nodup)
    (owns : Owns fields key get means) (keys : Toml.HasDistinctKeys (.table given))
    (read : entries fields defaults given = .ok record) :
    IsSetting means (get defaults) none (given.lookup key) (get record) := by
  obtain ⟨own, there, rfl, sets, keeps⟩ := owns
  rw [Toml.hasDistinctKeys_table_iff] at keys
  obtain ⟨keys, values⟩ := keys
  induction given generalizing defaults with
  | nil =>
    obtain rfl := Except.ok.inj read
    exact .default
  | cons entry given ih =>
    obtain ⟨key, value⟩ := entry
    rw [List.map_cons, List.nodup_cons] at keys
    rw [List.forall_mem_cons] at values
    obtain ⟨field, member, rfl, next, first, rest⟩ := (entries_cons_eq_ok_iff distinct).1 read
    have later := ih rest keys.2 values.2
    by_cases same : field = own
    · -- No later entry has the key, so that the part stays as this one sets it.
      subst same
      rw [Toml.lookup_eq_none_iff_not_mem.2 keys.1] at later
      rw [List.lookup_cons_self]
      generalize get record = part at later ⊢
      cases later
      exact .file (sets value defaults next values.1 first)
    · have other : own.name ≠ field.name := fun named =>
        same (List.inj_on_of_nodup_map distinct member there named.symm)
      rw [List.lookup_cons, beq_eq_false_iff_ne.2 other]
      exact keeps field member other.symm value defaults next first ▸ later

/-! Sections. -/

theorem foldlM_set_eq_entries (distinct : (fields.map RecordField.name).Nodup)
    {pairs : List (RecordField σ × Toml)} (known : ∀ pair ∈ pairs, pair.1 ∈ fields) :
    pairs.foldlM (fun record (field, value) => field.set value record) defaults =
      entries fields defaults (pairs.map (Prod.map RecordField.name id)) := by
  induction pairs generalizing defaults with
  | nil => rfl
  | cons pair pairs ih =>
    obtain ⟨field, value⟩ := pair
    rw [List.forall_mem_cons] at known
    have found := (find?_name_eq_some_iff distinct).2 ⟨known.1, rfl⟩
    rw [List.map_cons, entries, List.foldlM_cons, List.foldlM_cons]
    dsimp only [Prod.map, id]
    rw [found]
    exact bind_congr fun next => ih known.2

theorem record_eq_entries (distinct : (fields.map RecordField.name).Nodup) (name : Text)
    {value : Toml} (found : sectionEntries? (fields.map RecordField.name) value = some given) :
    Shape.record name fields defaults value = entries fields defaults given := by
  have listed (items : List Toml) :
      (fields.zip items).foldlM (fun record (field, value) => field.set value record) defaults =
        entries fields defaults ((fields.map RecordField.name).zip items) := by
    rw [List.zip_map_left]
    exact foldlM_set_eq_entries distinct fun pair member => (List.of_mem_zip member).1
  cases value with
  | table entries => exact Option.some.inj found ▸ rfl
  | array items => exact Option.some.inj found ▸ listed items
  | tables items => exact Option.some.inj found ▸ listed (items.map .table)
  | _ => cases found

theorem record_eq_ok_iff (distinct : (fields.map RecordField.name).Nodup) {name : Text}
    {value : Toml} : Shape.record name fields defaults value = .ok record ↔
      ∃ given, sectionEntries? (fields.map RecordField.name) value = some given ∧
        entries fields defaults given = .ok record := by
  cases found : sectionEntries? (fields.map RecordField.name) value with
  | some given =>
    rw [record_eq_entries distinct name found]
    exact ⟨fun read => ⟨given, rfl, read⟩, fun ⟨_, same, read⟩ => Option.some.inj same ▸ read⟩
  | none =>
    refine iff_of_false (fun read => ?_) fun ⟨_, same, _⟩ => nomatch same
    cases value <;> simp [sectionEntries?, Shape.record, Toml.items?] at found read

theorem record_ok_iff (h : HaveTypes fields types) (distinct : (fields.map RecordField.name).Nodup)
    {name : Text} {value : Toml} :
    (∃ record, Shape.record name fields defaults value = .ok record) ↔ IsSection types value := by
  simp only [record_eq_ok_iff distinct, h.names_eq]
  rw [exists_comm]
  simp only [exists_and_left, entries_ok_iff h distinct, IsSection]

theorem map_fst_zip_sublist {β : Type} (keys : List α) (values : List β) :
    ((keys.zip values).map Prod.fst).Sublist keys := by
  induction keys generalizing values with
  | nil => exact .slnil
  | cons key keys ih =>
    cases values with
    | nil => exact List.nil_sublist _
    | cons value values => exact (ih values).cons_cons key

theorem hasDistinctKeys_sectionEntries {keys : List Text} (distinct : keys.Nodup) {value : Toml}
    (h : value.HasDistinctKeys) (found : sectionEntries? keys value = some given) :
    Toml.HasDistinctKeys (.table given) := by
  have listed {items : List Toml} (all : ∀ item ∈ items, item.HasDistinctKeys) :
      Toml.HasDistinctKeys (.table (keys.zip items)) := by
    refine .table ?_ fun entry member => all _ (List.of_mem_zip member).2
    exact distinct.sublist (map_fst_zip_sublist keys items)
  cases h with
  | table keys values => exact Option.some.inj found ▸ .table keys values
  | array all => exact Option.some.inj found ▸ listed all
  | tables all => exact Option.some.inj found ▸ listed (List.forall_mem_map.2 all)
  | _ => cases found

/-- A part of a section is what its entries say under a key, or else its default. -/
def InSection (keys : List Text) (key : Text) (means : Toml → β → Prop) (default : β)
    (value : Toml) (part : β) : Prop :=
  ∃ given, sectionEntries? keys value = some given ∧
    IsSetting means default none (given.lookup key) part

theorem inSection_of_record (distinct : (fields.map RecordField.name).Nodup)
    (owns : Owns fields key get means) {name : Text} {value : Toml} (keys : value.HasDistinctKeys)
    (read : Shape.record name fields defaults value = .ok record) :
    InSection (fields.map RecordField.name) key means (get defaults) value (get record) := by
  obtain ⟨given, found, read⟩ := (record_eq_ok_iff distinct).1 read
  have keys := hasDistinctKeys_sectionEntries distinct keys found
  exact ⟨given, found, isSetting_of_entries distinct owns keys read⟩

def IsFunctional (means : Toml → α → Prop) : Prop :=
  ∀ ⦃value a a'⦄, means value a → means value a' → a = a'

theorem Reads.isFunctional {reader : Reader α} {means : Toml → α → Prop} (h : Reads reader means) :
    IsFunctional means := fun value a a' meant meant' =>
  Except.ok.inj (((h value a).2 meant).symm.trans ((h value a').2 meant'))

theorem IsSetting.unique (h : IsFunctional means) {default value other : β} {flag : Option β}
    {written : Option Toml} (setting : IsSetting means default flag written value)
    (setting' : IsSetting means default flag written other) : value = other := by
  cases setting <;> cases setting'
  case flag.flag | default.default => rfl
  case file.file meant meant' => exact h meant meant'

theorem IsSetting.override {default value : β} {written : Option Toml}
    (h : IsSetting means default none written value) (flag : Option β) :
    IsSetting means default flag written (flag.getD value) := by
  cases flag with
  | some given => exact .flag given written
  | none => exact h

theorem IsSetting.of_inSection {keys : List Text} {default part : β} {written : Option Toml}
    (h : IsSetting (InSection keys key means default) default none written part) :
    IsSetting means default none ((written.bind (sectionEntries? keys)).bind (·.lookup key))
      part := by
  cases h with
  | file meant =>
    obtain ⟨given, found, setting⟩ := meant
    rwa [Option.bind_some, found, Option.bind_some]
  | default => exact .default

end Entries

end Shape
end HttpContract
