import HttpContract.Toml.Parse
import Mathlib.Data.List.Nodup

/-! No table of a TOML document has two entries with one key, however deep it lies. -/
namespace HttpContract
namespace Toml

inductive HasDistinctKeys : Toml → Prop
  | string (value : Text) : HasDistinctKeys (.string value)
  | integer (value : Int) : HasDistinctKeys (.integer value)
  | float (value : TomlFloat) : HasDistinctKeys (.float value)
  | boolean (value : Bool) : HasDistinctKeys (.boolean value)
  | datetime (lexeme : Text) : HasDistinctKeys (.datetime lexeme)
  | array {items : List Toml} (all : ∀ item ∈ items, HasDistinctKeys item) :
      HasDistinctKeys (.array items)
  | table {entries : List (Text × Toml)} (distinct : (entries.map Prod.fst).Nodup)
      (all : ∀ entry ∈ entries, HasDistinctKeys entry.2) : HasDistinctKeys (.table entries)
  | tables {items : List (List (Text × Toml))}
      (all : ∀ entries ∈ items, HasDistinctKeys (.table entries)) : HasDistinctKeys (.tables items)

@[simp] theorem hasDistinctKeys_table_iff {entries : List (Text × Toml)} :
    HasDistinctKeys (.table entries) ↔
      (entries.map Prod.fst).Nodup ∧ ∀ entry ∈ entries, HasDistinctKeys entry.2 := by
  constructor
  · rintro ⟨⟩
    exact ⟨‹_›, ‹_›⟩
  · exact fun ⟨distinct, all⟩ => .table distinct all

@[simp] theorem hasDistinctKeys_tables_iff {items : List (List (Text × Toml))} :
    HasDistinctKeys (.tables items) ↔ ∀ entries ∈ items, HasDistinctKeys (.table entries) := by
  constructor
  · rintro ⟨⟩
    assumption
  · exact .tables

/-! Tables that still grow. -/

/-- The table that the nodes come to has distinct keys. -/
def AreDistinct (nodes : Nodes) : Prop := HasDistinctKeys (.table (nodeEntries nodes))

variable {nodes nodes' : Nodes} {node : TomlNode} {key : Text}

theorem nodeEntries_eq_map (nodes : Nodes) :
    nodeEntries nodes = nodes.map fun (key, node) => (key, nodeValue node) := by
  induction nodes with
  | nil => rfl
  | cons entry rest ih => rw [nodeEntries, ih, List.map_cons]

theorem nodeTables_eq_map (items : List Nodes) : nodeTables items = items.map nodeEntries := by
  induction items with
  | nil => rfl
  | cons entries rest ih => rw [nodeTables, ih, List.map_cons]

theorem areDistinct_iff : AreDistinct nodes ↔
    (nodes.map Prod.fst).Nodup ∧ ∀ entry ∈ nodes, HasDistinctKeys (nodeValue entry.2) := by
  rw [AreDistinct, hasDistinctKeys_table_iff, nodeEntries_eq_map, List.map_map]
  exact and_congr Iff.rfl List.forall_mem_map

@[simp] theorem areDistinct_nil : AreDistinct [] := areDistinct_iff.2 ⟨List.nodup_nil, nofun⟩

@[simp] theorem hasDistinctKeys_items_iff {items : List Nodes} :
    HasDistinctKeys (nodeValue (.items items)) ↔ ∀ nodes ∈ items, AreDistinct nodes := by
  rw [nodeValue, hasDistinctKeys_tables_iff, nodeTables_eq_map]
  exact List.forall_mem_map

theorem lookup_eq_none_iff_not_mem {α : Type} {entries : List (Text × α)} :
    entries.lookup key = none ↔ key ∉ entries.map Prod.fst := by
  simp only [List.lookup_eq_none_iff, List.mem_map, bne_iff_ne]
  exact ⟨fun apart ⟨entry, there, same⟩ => apart entry there same.symm,
    fun missing entry there same => missing ⟨entry, there, same.symm⟩⟩

theorem AreDistinct.of_lookup (h : AreDistinct nodes) (found : nodes.lookup key = some node) :
    HasDistinctKeys (nodeValue node) := by
  obtain ⟨before, after, rfl, -⟩ := List.lookup_eq_some_iff.1 found
  exact (areDistinct_iff.1 h).2 (key, node) (List.mem_append_right _ List.mem_cons_self)

theorem AreDistinct.concat (h : AreDistinct nodes) (missing : key ∉ nodes.map Prod.fst)
    (below : HasDistinctKeys (nodeValue node)) : AreDistinct (nodes ++ [(key, node)]) := by
  obtain ⟨distinct, all⟩ := areDistinct_iff.1 h
  rw [areDistinct_iff, List.map_append]
  constructor
  · exact distinct.append (List.nodup_singleton key) (List.disjoint_singleton.2 missing)
  · intro entry member
    obtain old | new := List.mem_append.1 member
    · exact all entry old
    · obtain rfl := List.mem_singleton.1 new
      exact below

@[simp] theorem keys_replaceNode (key : Text) (node : TomlNode) (nodes : Nodes) :
    (replaceNode key node nodes).map Prod.fst = nodes.map Prod.fst := by
  induction nodes with
  | nil => rfl
  | cons entry rest ih =>
    rw [replaceNode]
    split
    · rfl
    · rw [List.map_cons, List.map_cons, ih]

theorem mem_replaceNode {entry : Text × TomlNode} (h : entry ∈ replaceNode key node nodes) :
    entry ∈ nodes ∨ entry.2 = node := by
  induction nodes with
  | nil => cases h
  | cons first rest ih =>
    rw [replaceNode] at h
    split at h
    · obtain rfl | later := List.mem_cons.1 h
      · exact .inr rfl
      · exact .inl (List.mem_cons_of_mem _ later)
    · obtain rfl | later := List.mem_cons.1 h
      · exact .inl List.mem_cons_self
      · exact (ih later).imp_left (List.mem_cons_of_mem _)

theorem AreDistinct.replaceNode (h : AreDistinct nodes)
    (below : HasDistinctKeys (nodeValue node)) : AreDistinct (replaceNode key node nodes) := by
  obtain ⟨distinct, all⟩ := areDistinct_iff.1 h
  rw [areDistinct_iff, keys_replaceNode]
  refine ⟨distinct, fun entry member => ?_⟩
  obtain old | new := mem_replaceNode member
  · exact all entry old
  · exact new ▸ below

theorem AreDistinct.filter (h : AreDistinct nodes) (keep : Text × TomlNode → Bool) :
    AreDistinct (nodes.filter keep) := by
  obtain ⟨distinct, all⟩ := areDistinct_iff.1 h
  rw [areDistinct_iff]
  refine ⟨distinct.sublist (List.filter_sublist.map _), fun entry member => ?_⟩
  exact all entry (List.mem_of_mem_filter member)

/-! Lines are taken into account one after another. -/

def KeepsDistinct (change : Nodes → Option Nodes) : Prop :=
  ∀ ⦃nodes nodes'⦄, AreDistinct nodes → change nodes = some nodes' → AreDistinct nodes'

theorem keepsDistinct_changeAt {byKey : Bool} {change : TableOrigin → Nodes → Option Nodes}
    (keeps : ∀ origin, KeepsDistinct (change origin)) (path : List Text) (origin : TableOrigin) :
    KeepsDistinct (changeAt byKey change path origin) := by
  induction path generalizing origin with
  | nil => exact keeps origin
  | cons key path ih =>
    intro nodes nodes' h changed
    rw [changeAt] at changed
    split at changed
    next missing =>
      obtain ⟨below, made, same⟩ := Option.bind_eq_some_iff.1 changed
      obtain rfl := Option.some.inj same
      exact h.concat (lookup_eq_none_iff_not_mem.1 missing) (ih _ areDistinct_nil made)
    next => cases changed
    next below found =>
      split at changed
      · cases changed
      · obtain ⟨below', made, same⟩ := Option.bind_eq_some_iff.1 changed
        obtain rfl := Option.some.inj same
        exact h.replaceNode (ih _ (h.of_lookup found) made)
    next items found =>
      -- Only the last item is still open.
      obtain ⟨last, isLast, changed⟩ := Option.bind_eq_some_iff.1 changed
      obtain ⟨last', made, same⟩ := Option.bind_eq_some_iff.1 changed
      obtain rfl := Option.some.inj same
      have all := hasDistinctKeys_items_iff.1 (h.of_lookup found)
      have distinct : AreDistinct last' := ih _ (all last (List.mem_of_getLast? isLast)) made
      refine h.replaceNode (hasDistinctKeys_items_iff.2 fun entries member => ?_)
      obtain old | new := List.mem_append.1 member
      · exact all entries (List.dropLast_subset items old)
      · exact List.mem_singleton.1 new ▸ distinct

theorem keepsDistinct_addEntry {path : List Text} {value : Toml} (h : value.HasDistinctKeys)
    (origin : TableOrigin) : KeepsDistinct (addEntry path value origin) := by
  intro nodes nodes' distinct added
  obtain ⟨key, -, added⟩ := Option.bind_eq_some_iff.1 added
  refine keepsDistinct_changeAt (fun origin nodes nodes' distinct added => ?_) _ _ distinct added
  split_ifs at added with wrong there
  obtain rfl := Option.some.inj added
  exact distinct.concat (lookup_eq_none_iff_not_mem.1 (Option.not_isSome_iff_eq_none.1 there)) h

@[simp] theorem keepsDistinct_openTable (key : Text) : KeepsDistinct (openTable key) := by
  intro nodes nodes' h opened
  rw [openTable] at opened
  split at opened
  next missing =>
    obtain rfl := Option.some.inj opened
    exact h.concat (lookup_eq_none_iff_not_mem.1 missing) areDistinct_nil
  next below found =>
    obtain rfl := Option.some.inj opened
    have table : AreDistinct below := h.of_lookup found
    exact (h.filter _).concat (by simp) table
  next => cases opened

@[simp] theorem keepsDistinct_openItem (key : Text) : KeepsDistinct (openItem key) := by
  intro nodes nodes' h opened
  rw [openItem] at opened
  split at opened
  next missing =>
    obtain rfl := Option.some.inj opened
    refine h.concat (lookup_eq_none_iff_not_mem.1 missing) (hasDistinctKeys_items_iff.2 ?_)
    exact List.forall_mem_singleton.2 areDistinct_nil
  next items found =>
    obtain rfl := Option.some.inj opened
    refine h.replaceNode (hasDistinctKeys_items_iff.2 fun entries member => ?_)
    obtain old | new := List.mem_append.1 member
    · exact hasDistinctKeys_items_iff.1 (h.of_lookup found) entries old
    · exact List.mem_singleton.1 new ▸ areDistinct_nil
  next => cases opened

def HasDistinctValue : TomlLine → Prop
  | .entry _ value => value.HasDistinctKeys
  | .header _ | .itemHeader _ => True

theorem AreDistinct.addLine {assembly assembly' : Assembly} {line : TomlLine}
    (h : AreDistinct assembly.nodes) (value : HasDistinctValue line)
    (added : assembly.addLine line = some assembly') : AreDistinct assembly'.nodes := by
  cases line with
  | entry path value' =>
    obtain ⟨nodes, changed, same⟩ := Option.bind_eq_some_iff.1 added
    obtain rfl := Option.some.inj same
    exact keepsDistinct_changeAt (fun _ => keepsDistinct_addEntry value _) _ _ h changed
  | header path =>
    obtain ⟨key, -, added⟩ := Option.bind_eq_some_iff.1 added
    obtain ⟨nodes, changed, same⟩ := Option.bind_eq_some_iff.1 added
    obtain rfl := Option.some.inj same
    exact keepsDistinct_changeAt (fun _ => keepsDistinct_openTable key) _ _ h changed
  | itemHeader path =>
    obtain ⟨key, -, added⟩ := Option.bind_eq_some_iff.1 added
    obtain ⟨nodes, changed, same⟩ := Option.bind_eq_some_iff.1 added
    obtain rfl := Option.some.inj same
    exact keepsDistinct_changeAt (fun _ => keepsDistinct_openItem key) _ _ h changed

theorem foldlM_invariant {σ α : Type} {P : σ → Prop} {step : σ → α → Option σ} {items : List α}
    (keeps : ∀ state state', ∀ item ∈ items, P state → step state item = some state' → P state')
    {state state' : σ} (h : P state) (run : items.foldlM step state = some state') : P state' := by
  induction items generalizing state with
  | nil =>
    obtain rfl := Option.some.inj run
    exact h
  | cons item items ih =>
    rw [List.foldlM_cons] at run
    obtain ⟨next, first, rest⟩ := Option.bind_eq_some_iff.1 run
    refine ih (fun state state' other member => ?_) ?_ rest
    · exact keeps state state' other (List.mem_cons_of_mem _ member)
    · exact keeps state next item List.mem_cons_self h first

theorem hasDistinctKeys_of_tableOfLines? {lines : List TomlLine} {given : List (Text × Toml)}
    (values : ∀ line ∈ lines, HasDistinctValue line) (h : tableOfLines? lines = some given) :
    HasDistinctKeys (.table given) := by
  obtain ⟨assembly, run, rfl⟩ := Option.map_eq_some_iff.1 h
  refine foldlM_invariant (P := fun assembly => AreDistinct assembly.nodes) ?_ areDistinct_nil run
  exact fun _ _ line member distinct => distinct.addLine (values line member)

theorem hasDistinctKeys_of_inlineEntries? {entries : List (List Text × Toml)}
    {given : List (Text × Toml)} (values : ∀ entry ∈ entries, entry.2.HasDistinctKeys)
    (h : inlineEntries? entries = some given) : HasDistinctKeys (.table given) := by
  obtain ⟨nodes, run, rfl⟩ := Option.map_eq_some_iff.1 h
  refine foldlM_invariant (P := AreDistinct) ?_ areDistinct_nil run
  rintro nodes nodes' ⟨path, value⟩ member
  exact @keepsDistinct_addEntry path value (values (path, value) member) .explicit nodes nodes'

/-! What the scanners give. -/

def Yields {α : Type} (P : α → Prop) (scan : Scan α) : Prop :=
  ∀ ⦃text item rest⦄, scan text = some (item, rest) → P item

theorem yields_scanAll {α : Type} {P : α → Prop} {step : Text → Option (ScanStep α)}
    (each : ∀ ⦃text found⦄, step text = some found → ∀ item ∈ found.items, P item) :
    Yields (fun items => ∀ item ∈ items, P item) (scanAll step) := by
  intro text items rest scanned
  -- Nothing depends on how often the step may be repeated.
  unfold scanAll at scanned
  generalize text.length + 1 = fuel at scanned
  induction fuel generalizing text items rest with
  | zero => cases scanned
  | succ fuel ih =>
    obtain ⟨first, found, scanned⟩ := Option.bind_eq_some_iff.1 scanned
    split_ifs at scanned
    · obtain ⟨rfl, -⟩ := Prod.mk.inj (Option.some.inj scanned)
      exact each found
    · obtain ⟨⟨more, rest'⟩, repeated, same⟩ := Option.bind_eq_some_iff.1 scanned
      obtain ⟨rfl, -⟩ := Prod.mk.inj (Option.some.inj same)
      exact List.forall_mem_append.2 ⟨each found, ih repeated⟩

theorem Yields.orElse {α : Type} {P : α → Prop} {scan other : Scan α} (h : Yields P scan)
    (h' : Yields P other) : Yields P fun text => (scan text).orElse fun _ => other text := by
  intro text item rest scanned
  dsimp only at scanned
  cases first : scan text with
  | some found =>
    rw [first] at scanned
    exact h (first.trans scanned)
  | none =>
    rw [first] at scanned
    exact h' scanned

theorem hasDistinctKeys_integerOf? {negative : Bool} {magnitude : Nat} {value : Toml}
    (h : integerOf? negative magnitude = some value) : HasDistinctKeys value := by
  unfold integerOf? at h
  split_ifs at h <;> exact Option.some.inj h ▸ .integer _

@[simp] theorem yields_basedInteger (base : Nat) : Yields HasDistinctKeys (basedInteger base) := by
  intro text item rest scanned
  obtain ⟨⟨digits, behind⟩, -, scanned⟩ := Option.bind_eq_some_iff.1 scanned
  obtain ⟨value, within, same⟩ := Option.bind_eq_some_iff.1 scanned
  exact (Prod.mk.inj (Option.some.inj same)).1 ▸ hasDistinctKeys_integerOf? within

@[simp] theorem yields_decimalInteger : Yields HasDistinctKeys decimalInteger := by
  intro text item rest scanned
  obtain ⟨⟨digits, behind⟩, -, scanned⟩ := Option.bind_eq_some_iff.1 scanned
  obtain ⟨value, within, same⟩ := Option.bind_eq_some_iff.1 scanned
  exact (Prod.mk.inj (Option.some.inj same)).1 ▸ hasDistinctKeys_integerOf? within

@[simp] theorem yields_scanInteger : Yields HasDistinctKeys scanInteger := by
  intro text item rest scanned
  unfold scanInteger at scanned
  split at scanned
  · exact yields_basedInteger 16 scanned
  · exact yields_basedInteger 8 scanned
  · exact yields_basedInteger 2 scanned
  · exact yields_decimalInteger scanned

@[simp] theorem yields_specialFloat : Yields HasDistinctKeys specialFloat := by
  intro text item rest scanned
  unfold specialFloat at scanned
  split at scanned
  next negative word _ =>
    split at scanned
    · obtain ⟨rfl, -⟩ := Prod.mk.inj (Option.some.inj scanned)
      exact .float _
    · obtain ⟨behind, -, same⟩ := Option.map_eq_some_iff.1 scanned
      obtain ⟨rfl, -⟩ := Prod.mk.inj same
      exact .float _

@[simp] theorem yields_decimalFloat : Yields HasDistinctKeys decimalFloat := by
  intro text item rest scanned
  have float {value : TomlFloat} {behind : Text}
      (read : (if value = .infinite false then none else some (Toml.float value, behind)) =
        some (item, rest)) : HasDistinctKeys item := by
    split_ifs at read
    exact (Prod.mk.inj (Option.some.inj read)).1 ▸ .float value
  obtain ⟨⟨whole, behind⟩, -, scanned⟩ := Option.bind_eq_some_iff.1 scanned
  simp only [Option.bind_eq_bind, Option.bind_some, Option.bind_none] at scanned
  split at scanned
  · exact float scanned
  · split at scanned
    · exact float scanned
    · exact float scanned
  · cases scanned

@[simp] theorem yields_scanDatetime : Yields HasDistinctKeys scanDatetime := by
  intro text item rest scanned
  simp only [scanDatetime, Option.bind_eq_bind] at scanned
  split at scanned
  · obtain ⟨rfl, -⟩ := Prod.mk.inj (Option.some.inj scanned)
    exact .datetime _
  · obtain ⟨behind, -, same⟩ := Option.bind_eq_some_iff.1 scanned
    obtain ⟨rfl, -⟩ := Prod.mk.inj (Option.some.inj same)
    exact .datetime _

@[simp] theorem yields_number : Yields HasDistinctKeys number :=
  yields_scanDatetime.orElse
    ((yields_decimalFloat.orElse yields_specialFloat).orElse yields_scanInteger)

section Nested

variable {value : Scan Toml} (h : Yields HasDistinctKeys value)
include h

theorem yields_arrayBody : Yields HasDistinctKeys (arrayBody value) := by
  intro text item rest scanned
  obtain ⟨⟨items, behind⟩, repeated, same⟩ := Option.map_eq_some_iff.1 scanned
  obtain ⟨rfl, -⟩ := Prod.mk.inj same
  refine .array (yields_scanAll (fun text found step => ?_) repeated)
  simp only [itemStep] at step
  split at step
  · obtain rfl := Option.some.inj step
    exact List.forall_mem_nil _
  · obtain ⟨⟨item, behind⟩, read, step⟩ := Option.bind_eq_some_iff.1 step
    split at step
    · obtain rfl := Option.some.inj step
      exact List.forall_mem_singleton.2 (h read)
    · obtain ⟨behind, -, rfl⟩ := Option.map_eq_some_iff.1 step
      exact List.forall_mem_singleton.2 (h read)

theorem yields_keyValue : Yields (fun entry => entry.2.HasDistinctKeys) (keyValue value) := by
  intro text entry rest scanned
  obtain ⟨⟨path, behind⟩, -, scanned⟩ := Option.bind_eq_some_iff.1 scanned
  obtain ⟨marked, -, scanned⟩ := Option.bind_eq_some_iff.1 scanned
  obtain ⟨⟨item, rest'⟩, found, same⟩ := Option.bind_eq_some_iff.1 scanned
  obtain ⟨rfl, -⟩ := Prod.mk.inj (Option.some.inj same)
  exact h found

theorem yields_inlineBody : Yields HasDistinctKeys (inlineBody value) := by
  intro text item rest scanned
  simp only [inlineBody] at scanned
  split at scanned
  · obtain ⟨rfl, -⟩ := Prod.mk.inj (Option.some.inj scanned)
    exact .table List.nodup_nil nofun
  · obtain ⟨⟨entries, behind⟩, repeated, scanned⟩ := Option.bind_eq_some_iff.1 scanned
    obtain ⟨given, built, same⟩ := Option.bind_eq_some_iff.1 scanned
    obtain ⟨rfl, -⟩ := Prod.mk.inj (Option.some.inj same)
    refine hasDistinctKeys_of_inlineEntries? (yields_scanAll ?_ repeated) built
    intro text found step
    obtain ⟨⟨entry, behind⟩, read, step⟩ := Option.bind_eq_some_iff.1 step
    dsimp only at step
    split at step
    · obtain rfl := Option.some.inj step
      exact List.forall_mem_singleton.2 (yields_keyValue h read)
    · obtain ⟨behind, -, rfl⟩ := Option.map_eq_some_iff.1 step
      exact List.forall_mem_singleton.2 (yields_keyValue h read)

end Nested

theorem yields_valueAt {nested? : Option (Scan Toml)}
    (h : ∀ nested ∈ nested?, Yields HasDistinctKeys nested) :
    Yields HasDistinctKeys (valueAt nested?) := by
  have word {letters text rest : Text} {meant item : Toml} (simple : HasDistinctKeys meant)
      (read : (Text.strip? letters text).map (fun rest => (meant, rest)) = some (item, rest)) :
      HasDistinctKeys item := by
    obtain ⟨behind, -, same⟩ := Option.map_eq_some_iff.1 read
    exact (Prod.mk.inj same).1 ▸ simple
  rintro (_ | ⟨c, behind⟩) item rest scanned
  · cases scanned
  · simp only [valueAt] at scanned
    split_ifs at scanned
    · obtain ⟨⟨text, behind⟩, -, same⟩ := Option.map_eq_some_iff.1 scanned
      exact (Prod.mk.inj same).1 ▸ .string _
    · obtain ⟨nested, found, scanned⟩ := Option.bind_eq_some_iff.1 scanned
      exact yields_arrayBody (h nested found) scanned
    · obtain ⟨nested, found, scanned⟩ := Option.bind_eq_some_iff.1 scanned
      exact yields_inlineBody (h nested found) scanned
    · exact word (.boolean true) scanned
    · exact word (.boolean false) scanned
    · exact yields_specialFloat scanned
    · exact yields_number scanned

@[simp] theorem yields_value (depth : Nat) : Yields HasDistinctKeys (value depth) := by
  induction depth with
  | zero => exact yields_valueAt nofun
  | succ depth ih => exact yields_valueAt fun _ found => Option.some.inj found ▸ ih

@[simp] theorem yields_header : Yields HasDistinctValue header := by
  intro text line rest scanned
  simp only [header] at scanned
  split at scanned
  · obtain ⟨⟨path, behind⟩, -, scanned⟩ := Option.bind_eq_some_iff.1 scanned
    obtain ⟨behind', -, same⟩ := Option.bind_eq_some_iff.1 scanned
    exact (Prod.mk.inj (Option.some.inj same)).1 ▸ trivial
  · obtain ⟨behind, -, scanned⟩ := Option.bind_eq_some_iff.1 scanned
    obtain ⟨⟨path, behind'⟩, -, scanned⟩ := Option.bind_eq_some_iff.1 scanned
    obtain ⟨behind'', -, same⟩ := Option.bind_eq_some_iff.1 scanned
    exact (Prod.mk.inj (Option.some.inj same)).1 ▸ trivial

theorem isDistinct_of_lineStep {text : Text} {found : ScanStep TomlLine}
    (step : lineStep text = some found) : ∀ line ∈ found.items, HasDistinctValue line := by
  simp only [lineStep] at step
  split at step
  · obtain rfl := Option.some.inj step
    exact List.forall_mem_nil _
  · split_ifs at step
    · obtain ⟨behind, -, rfl⟩ := Option.map_eq_some_iff.1 step
      exact List.forall_mem_nil _
    · obtain ⟨⟨line, behind⟩, read, step⟩ := Option.bind_eq_some_iff.1 step
      obtain ⟨behind', -, same⟩ := Option.bind_eq_some_iff.1 step
      obtain rfl := Option.some.inj same
      exact List.forall_mem_singleton.2 (yields_header read)
    · obtain ⟨⟨line, behind⟩, read, step⟩ := Option.bind_eq_some_iff.1 step
      obtain ⟨behind', -, same⟩ := Option.bind_eq_some_iff.1 step
      obtain rfl := Option.some.inj same
      obtain ⟨⟨entry, behind''⟩, given, same⟩ := Option.map_eq_some_iff.1 read
      obtain ⟨rfl, -⟩ := Prod.mk.inj same
      exact List.forall_mem_singleton.2 (yields_keyValue (yields_value maxDepth) given)

/-- No table of a document has two entries with one key. -/
theorem hasDistinctKeys_of_parse? {document : Text} {given : List (Text × Toml)}
    (h : parse? document = some given) : HasDistinctKeys (.table given) := by
  obtain ⟨⟨lines, behind⟩, repeated, built⟩ := Option.bind_eq_some_iff.1 h
  exact hasDistinctKeys_of_tableOfLines? (yields_scanAll (@isDistinct_of_lineStep) repeated) built

end Toml
end HttpContract
