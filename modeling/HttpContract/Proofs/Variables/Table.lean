import HttpContract.Proofs.Text.Lines
import HttpContract.Variables.Table
import Mathlib.Tactic.ByContra
import Mathlib.Tactic.SplitIfs

/-! A table gives each name the value that was put last. Its names increase, so a table is known by
the values that it gives. -/
namespace HttpContract
namespace VariableTable

@[simp] theorem lookup_cons_of_ne {name other : Text} (h : other ≠ name) (value : Text)
    (entries : List (Text × Text)) :
    ((name, value) :: entries).lookup other = entries.lookup other := by
  rw [List.lookup_cons, beq_eq_false_iff_ne.2 h]

@[simp] theorem lookup_put (name value other : Text) (entries : List (Text × Text)) :
    (put name value entries).lookup other =
      if other = name then some value else entries.lookup other := by
  induction entries with
  | nil =>
    by_cases h : other = name
    · simp [put, h]
    · rw [put, lookup_cons_of_ne h, if_neg h]
  | cons entry rest ih =>
    obtain ⟨first, kept⟩ := entry
    rw [put]
    by_cases same : name = first
    · subst same
      rw [if_pos rfl]
      by_cases h : other = name
      · simp [h]
      · rw [if_neg h, lookup_cons_of_ne h, lookup_cons_of_ne h]
    · rw [if_neg same]
      split
      · by_cases h : other = name
        · simp [h]
        · rw [if_neg h, lookup_cons_of_ne h]
      · by_cases h : other = first
        · subst h
          simp [Ne.symm same]
        · rw [lookup_cons_of_ne h, lookup_cons_of_ne h, ih]

theorem mem_of_get? {table : VariableTable} {name value : Text}
    (h : table.get? name = some value) : (name, value) ∈ table.entries := by
  obtain ⟨before, after, cut, -⟩ := List.lookup_eq_some_iff.1 h
  exact cut ▸ List.mem_append_right _ List.mem_cons_self

@[simp] theorem get?_insert (table : VariableTable) (name value other : Text) :
    (table.insert name value).get? other =
      if other = name then some value else table.get? other :=
  lookup_put name value other table.entries

@[simp] theorem get?_insertAll (table : VariableTable) (pairs : List (Text × Text)) (name : Text) :
    (table.insertAll pairs).get? name = (pairs.reverse.lookup name).or (table.get? name) := by
  induction pairs generalizing table with
  | nil => simp [insertAll]
  | cons pair pairs ih =>
    have first : table.insertAll (pair :: pairs) =
        (table.insert pair.1 pair.2).insertAll pairs := rfl
    rw [first, ih, get?_insert, List.reverse_cons, List.lookup_append, List.lookup_singleton]
    by_cases h : name = pair.1 <;> simp [h]

@[simp] theorem get?_ofList (pairs : List (Text × Text)) (name : Text) :
    (ofList pairs).get? name = pairs.reverse.lookup name := by
  rw [ofList, get?_insertAll]
  exact Option.or_none

@[simp] theorem insertAll_append (table : VariableTable) (front back : List (Text × Text)) :
    table.insertAll (front ++ back) = (table.insertAll front).insertAll back :=
  List.foldl_append

def IsOrdered (entries : List (Text × Text)) : Prop :=
  entries.Pairwise fun entry later => entry.1 < later.1

theorem lt_of_not_lt {name other : Text} (h : ¬ name < other) (apart : name ≠ other) :
    other < name := by
  by_contra beyond
  exact apart (List.le_antisymm beyond h)

theorem lookup_eq_none_of_ne {name : Text} {entries : List (Text × Text)}
    (h : ∀ entry ∈ entries, entry.1 ≠ name) : entries.lookup name = none := by
  rw [List.lookup_eq_none_iff]
  intro entry he
  exact bne_iff_ne.2 (Ne.symm (h entry he))

theorem lookup_eq_none_of_lt {name : Text} {entries : List (Text × Text)}
    (h : ∀ entry ∈ entries, name < entry.1) : entries.lookup name = none := by
  apply lookup_eq_none_of_ne
  intro entry he same
  have below := h entry he
  rw [same] at below
  exact List.lt_irrefl _ below

theorem exists_mem_of_mem_put {name value : Text} {entries : List (Text × Text)}
    {entry : Text × Text} (h : entry ∈ put name value entries) :
    entry.1 = name ∨ entry ∈ entries := by
  induction entries with
  | nil => simp_all [put]
  | cons other rest ih =>
    rw [put] at h
    split_ifs at h with same before
    · obtain rfl | h := List.mem_cons.1 h
      · exact .inl rfl
      · exact .inr (List.mem_cons_of_mem _ h)
    · obtain rfl | h := List.mem_cons.1 h
      · exact .inl rfl
      · exact .inr h
    · obtain rfl | h := List.mem_cons.1 h
      · exact .inr List.mem_cons_self
      · exact (ih h).imp_right (List.mem_cons_of_mem _)

theorem isOrdered_put (name value : Text) {entries : List (Text × Text)}
    (h : IsOrdered entries) : IsOrdered (put name value entries) := by
  induction entries with
  | nil => exact List.pairwise_singleton _ _
  | cons entry rest ih =>
    obtain ⟨first, ordered⟩ := List.pairwise_cons.1 h
    rw [put]
    split_ifs with same before
    · exact List.pairwise_cons.2 ⟨fun other ho => same ▸ first other ho, ordered⟩
    · refine List.pairwise_cons.2 ⟨fun other ho => ?_, h⟩
      obtain rfl | ho := List.mem_cons.1 ho
      · exact before
      · exact List.lt_trans before (first other ho)
    · refine List.pairwise_cons.2 ⟨fun other ho => ?_, ih ordered⟩
      obtain new | old := exists_mem_of_mem_put ho
      · rw [new]
        exact lt_of_not_lt before same
      · exact first other old

theorem isOrdered_insertAll {table : VariableTable} (h : IsOrdered table.entries)
    (pairs : List (Text × Text)) : IsOrdered (table.insertAll pairs).entries := by
  induction pairs generalizing table with
  | nil => exact h
  | cons pair pairs ih => exact ih (isOrdered_put pair.1 pair.2 h)

@[simp] theorem isOrdered_ofList (pairs : List (Text × Text)) : IsOrdered (ofList pairs).entries :=
  isOrdered_insertAll List.Pairwise.nil pairs

theorem lookup_eq_none_of_before {name : Text} {entry : Text × Text}
    {rest : List (Text × Text)} (h : IsOrdered (entry :: rest)) (before : name < entry.1) :
    (entry :: rest).lookup name = none := by
  apply lookup_eq_none_of_lt
  intro later hl
  obtain rfl | hl := List.mem_cons.1 hl
  · exact before
  · exact List.lt_trans before ((List.pairwise_cons.1 h).1 later hl)

theorem entries_ext {entries others : List (Text × Text)} (h : IsOrdered entries)
    (ho : IsOrdered others) (same : ∀ name, entries.lookup name = others.lookup name) :
    entries = others := by
  induction entries generalizing others with
  | nil =>
    cases others with
    | nil => rfl
    | cons other rest =>
      have found := same other.1
      rw [List.lookup_cons_self] at found
      cases found
  | cons entry rest ih =>
    cases others with
    | nil =>
      have found := same entry.1
      rw [List.lookup_cons_self] at found
      cases found
    | cons other rest' =>
      obtain ⟨first, ordered⟩ := List.pairwise_cons.1 h
      obtain ⟨first', ordered'⟩ := List.pairwise_cons.1 ho
      -- The lesser of the two first names would be found on one side only.
      have names : entry.1 = other.1 := by
        by_contra apart
        by_cases before : entry.1 < other.1
        · have found := same entry.1
          rw [List.lookup_cons_self, lookup_eq_none_of_before ho before] at found
          cases found
        · have found := same other.1
          rw [List.lookup_cons_self,
            lookup_eq_none_of_before h (lt_of_not_lt before apart)] at found
          cases found
      have values : entry.2 = other.2 := by
        have found := same entry.1
        rw [List.lookup_cons_self, names, List.lookup_cons_self] at found
        exact Option.some.inj found
      have equal : entry = other := Prod.ext names values
      subst equal
      refine congrArg (entry :: ·) (ih ordered ordered' fun name => ?_)
      by_cases own : name = entry.1
      · rw [own, lookup_eq_none_of_lt first, lookup_eq_none_of_lt first']
      · have found := same name
        rwa [lookup_cons_of_ne own, lookup_cons_of_ne own] at found

theorem ext_get? {table other : VariableTable} (h : IsOrdered table.entries)
    (ho : IsOrdered other.entries) (same : ∀ name, table.get? name = other.get? name) :
    table = other := by
  have entries : table.entries = other.entries := entries_ext h ho same
  cases table
  cases other
  exact congrArg VariableTable.mk entries

theorem mem_entries_iff {table : VariableTable} (h : IsOrdered table.entries)
    {name value : Text} : (name, value) ∈ table.entries ↔ table.get? name = some value := by
  refine ⟨fun listed => ?_, mem_of_get?⟩
  obtain ⟨before, after, cut⟩ := List.append_of_mem listed
  refine List.lookup_eq_some_iff.2 ⟨before, after, cut, fun entry earlier => ?_⟩
  rw [cut] at h
  have less : entry.1 < name := (List.pairwise_append.1 h).2.2 entry earlier _ List.mem_cons_self
  rw [bne_iff_ne]
  rintro rfl
  exact List.lt_irrefl _ less

theorem lookup_reverse {entries : List (Text × Text)} (h : IsOrdered entries) (name : Text) :
    entries.reverse.lookup name = entries.lookup name := by
  induction entries with
  | nil => rfl
  | cons entry rest ih =>
    obtain ⟨first, ordered⟩ := List.pairwise_cons.1 h
    rw [List.reverse_cons, List.lookup_append, ih ordered, List.lookup_singleton]
    by_cases own : name = entry.1
    · rw [own, lookup_eq_none_of_lt first, List.lookup_cons_self]
      simp
    · rw [lookup_cons_of_ne own]
      simp [own]

/-- Inserting the entries of a second table is inserting what that table was made from. -/
@[simp] theorem insertAll_entries_ofList {table : VariableTable} (h : IsOrdered table.entries)
    (pairs : List (Text × Text)) :
    table.insertAll (ofList pairs).entries = table.insertAll pairs := by
  apply ext_get? (isOrdered_insertAll h _) (isOrdered_insertAll h _)
  intro name
  have given : (ofList pairs).entries.lookup name = pairs.reverse.lookup name :=
    get?_ofList pairs name
  rw [get?_insertAll, get?_insertAll, lookup_reverse (isOrdered_ofList pairs), given]

/-- A pair may be inserted later, behind pairs with other names. -/
theorem ofList_move {name value : Text} {middle : List (Text × Text)}
    (h : ∀ pair ∈ middle, pair.1 ≠ name) (front back : List (Text × Text)) :
    ofList (front ++ (name, value) :: middle ++ back) =
      ofList (front ++ middle ++ (name, value) :: back) := by
  apply ext_get? (isOrdered_ofList _) (isOrdered_ofList _)
  intro other
  rw [get?_ofList, get?_ofList]
  simp only [List.reverse_append, List.reverse_cons, List.lookup_append, List.lookup_singleton]
  by_cases own : other = name
  · have absent : middle.reverse.lookup name = none :=
      lookup_eq_none_of_ne fun pair hp => h pair (List.mem_reverse.1 hp)
    simp [own, absent]
  · simp [own]

def HoldsPhrases (table : VariableTable) : Prop :=
  ∀ name value, table.get? name = some value → Text.IsPhrase value

theorem holdsPhrases_ofList {pairs : List (Text × Text)}
    (h : ∀ pair ∈ pairs, Text.IsPhrase pair.2) : (ofList pairs).HoldsPhrases := by
  intro name value found
  rw [get?_ofList, List.lookup_eq_some_iff] at found
  obtain ⟨later, before, cut, -⟩ := found
  have listed : (name, value) ∈ pairs.reverse := cut ▸ List.mem_append_right _ List.mem_cons_self
  exact h _ (List.mem_reverse.1 listed)

end VariableTable
end HttpContract
