import HttpContract.Headers.List
import HttpContract.Proofs.Text.Basic

/-! Names in a list differ in more than the case of ASCII letters. Headers with such names are kept
as they were put, what all names or all values that are put have in common, the listed ones have,
and of the values that are put for one name the last one counts. -/
namespace HttpContract
namespace HeaderList

@[simp] theorem put_of_absent {name : Text} {entries : List (Text × Text)}
    (h : ∀ entry ∈ entries, Text.sameAscii entry.1 name = false) (value : Text) :
    put name value entries = entries ++ [(name, value)] := by
  induction entries with
  | nil => rfl
  | cons entry rest ih =>
    have other := h entry (by simp)
    have later := ih fun entry he => h entry (by simp [he])
    simp [put, other, later]

theorem insertAll_of_distinct {headers : HeaderList} {pairs : List (Text × Text)}
    (h : (headers.entries ++ pairs).Pairwise fun a b => Text.sameAscii a.1 b.1 = false) :
    headers.insertAll pairs = ⟨headers.entries ++ pairs⟩ := by
  induction pairs generalizing headers with
  | nil => simp [insertAll]
  | cons pair pairs ih =>
    have first : headers.insertAll (pair :: pairs) =
        (headers.insert pair.1 pair.2).insertAll pairs := rfl
    have absent : ∀ entry ∈ headers.entries, Text.sameAscii entry.1 pair.1 = false :=
      fun entry he => (List.pairwise_append.1 h).2.2 entry he pair (by simp)
    have put : (headers.insert pair.1 pair.2).entries = headers.entries ++ [pair] :=
      put_of_absent absent pair.2
    rw [first, ih, put]
    · simp
    · rw [put]
      simpa using h

theorem ofList_of_distinct {pairs : List (Text × Text)}
    (h : pairs.Pairwise fun a b => Text.sameAscii a.1 b.1 = false) : ofList pairs = ⟨pairs⟩ :=
  insertAll_of_distinct (by simpa [empty] using h)

theorem map_fst_put (name value : Text) (entries : List (Text × Text)) :
    (put name value entries).map Prod.fst = entries.map Prod.fst ++
      if entries.any fun entry => Text.sameAscii entry.1 name then [] else [name] := by
  induction entries with
  | nil => rfl
  | cons entry rest ih =>
    obtain ⟨other, kept⟩ := entry
    rw [put]
    cases same : Text.sameAscii other name with
    | true => simp [same]
    | false =>
      rw [if_neg (by simp), List.map_cons, ih, List.map_cons, List.any_cons, same, Bool.false_or,
        List.cons_append]

theorem forall_mem_put {P : Text → Prop} {Q : Text → Prop} {name value : Text}
    {entries : List (Text × Text)} (h : ∀ entry ∈ entries, P entry.1 ∧ Q entry.2) (hn : P name)
    (hv : Q value) : ∀ entry ∈ put name value entries, P entry.1 ∧ Q entry.2 := by
  induction entries with
  | nil => simp [put, hn, hv]
  | cons entry rest ih =>
    obtain ⟨other, kept⟩ := entry
    obtain ⟨first, others⟩ := List.forall_mem_cons.1 h
    rw [put]
    split
    · exact List.forall_mem_cons.2 ⟨⟨first.1, hv⟩, others⟩
    · exact List.forall_mem_cons.2 ⟨first, ih others⟩

/-- No two names are equal up to the case of ASCII letters. -/
def IsDistinct (headers : HeaderList) : Prop :=
  (headers.entries.map Prod.fst).Pairwise fun name other => Text.sameAscii name other = false

theorem isDistinct_insert {headers : HeaderList} (h : headers.IsDistinct) (name value : Text) :
    (headers.insert name value).IsDistinct := by
  rw [IsDistinct, insert, map_fst_put]
  split
  · rwa [List.append_nil]
  next absent =>
    refine List.pairwise_append.2
      ⟨h, List.pairwise_singleton _ _, fun other listed last found => ?_⟩
    obtain rfl := List.mem_singleton.1 found
    obtain ⟨entry, he, rfl⟩ := List.mem_map.1 listed
    simp only [List.any_eq_true, not_exists, not_and, Bool.not_eq_true] at absent
    exact absent entry he

theorem isDistinct_insertAll {headers : HeaderList} (h : headers.IsDistinct)
    (pairs : List (Text × Text)) : (headers.insertAll pairs).IsDistinct := by
  induction pairs generalizing headers with
  | nil => exact h
  | cons pair pairs ih => exact ih (isDistinct_insert h pair.1 pair.2)

@[simp] theorem isDistinct_empty : empty.IsDistinct := List.Pairwise.nil

@[simp] theorem isDistinct_ofList (pairs : List (Text × Text)) : (ofList pairs).IsDistinct :=
  isDistinct_insertAll isDistinct_empty pairs

theorem IsDistinct.nodup_keys {headers : HeaderList} (h : headers.IsDistinct) :
    (headers.entries.map fun entry => Text.lowerAscii entry.1).Nodup := by
  rw [IsDistinct, List.pairwise_map] at h
  exact List.pairwise_map.2 (h.imp Text.sameAscii_eq_false_iff.1)

theorem forall_mem_insertAll {P : Text → Prop} {Q : Text → Prop} {headers : HeaderList}
    {pairs : List (Text × Text)} (h : ∀ entry ∈ headers.entries, P entry.1 ∧ Q entry.2)
    (hp : ∀ pair ∈ pairs, P pair.1 ∧ Q pair.2) :
    ∀ entry ∈ (headers.insertAll pairs).entries, P entry.1 ∧ Q entry.2 := by
  induction pairs generalizing headers with
  | nil => exact h
  | cons pair pairs ih =>
    obtain ⟨first, others⟩ := List.forall_mem_cons.1 hp
    exact ih (forall_mem_put h first.1 first.2) others

theorem forall_mem_ofList {P : Text → Prop} {Q : Text → Prop} {pairs : List (Text × Text)}
    (h : ∀ pair ∈ pairs, P pair.1 ∧ Q pair.2) :
    ∀ entry ∈ (ofList pairs).entries, P entry.1 ∧ Q entry.2 :=
  forall_mem_insertAll (by simp [empty]) h

@[simp] theorem find?_put (name value other : Text) (entries : List (Text × Text)) :
    ((put name value entries).find? fun entry => Text.sameAscii entry.1 other).map Prod.snd =
      if Text.sameAscii name other then some value
      else (entries.find? fun entry => Text.sameAscii entry.1 other).map Prod.snd := by
  induction entries with
  | nil => cases h : Text.sameAscii name other <;> simp [put, h]
  | cons entry rest ih =>
    obtain ⟨first, kept⟩ := entry
    by_cases same : Text.sameAscii first name = true
    · have alike : Text.sameAscii first other = Text.sameAscii name other := by
        rw [Text.sameAscii, Text.sameAscii, Text.sameAscii_iff.1 same]
      cases h : Text.sameAscii name other <;> simp [put, same, alike, h]
    · rw [put, if_neg same]
      by_cases own : Text.sameAscii first other = true
      · -- A name that the first one is not equal to is not the one that is looked for.
        have apart : Text.sameAscii name other = false := by
          rw [Text.sameAscii_eq_false_iff, ← Text.sameAscii_iff.1 own]
          exact fun h => same (Text.sameAscii_iff.2 h.symm)
        simp [own, apart]
      · rw [Bool.not_eq_true] at own
        simpa [own] using ih

@[simp] theorem get?_insert (headers : HeaderList) (name value other : Text) :
    (headers.insert name value).get? other =
      if Text.sameAscii name other then some value else headers.get? other :=
  find?_put name value other headers.entries

theorem get?_insertAll (headers : HeaderList) (pairs : List (Text × Text)) (name : Text) :
    (headers.insertAll pairs).get? name =
      ((pairs.reverse.find? fun pair => Text.sameAscii pair.1 name).map Prod.snd).or
        (headers.get? name) := by
  induction pairs generalizing headers with
  | nil => simp [insertAll]
  | cons pair pairs ih =>
    have first : headers.insertAll (pair :: pairs) =
        (headers.insert pair.1 pair.2).insertAll pairs := rfl
    rw [first, ih, get?_insert, List.reverse_cons, List.find?_append]
    cases pairs.reverse.find? fun pair => Text.sameAscii pair.1 name with
    | some last => rfl
    | none => cases h : Text.sameAscii pair.1 name <;> simp [h]

def IsLast (pairs : List (Text × Text)) (name value : Text) : Prop :=
  ∃ front spelling back, pairs = front ++ (spelling, value) :: back ∧
    Text.sameAscii spelling name = true ∧ ∀ later ∈ back, Text.sameAscii later.1 name = false

theorem get?_ofList (pairs : List (Text × Text)) (name : Text) : (ofList pairs).get? name =
    (pairs.reverse.find? fun pair => Text.sameAscii pair.1 name).map Prod.snd := by
  rw [ofList, get?_insertAll]
  exact Option.or_none

theorem get?_ofList_eq_some_iff {pairs : List (Text × Text)} {name value : Text} :
    (ofList pairs).get? name = some value ↔ IsLast pairs name value := by
  rw [get?_ofList]
  constructor
  · intro found
    obtain ⟨⟨spelling, _⟩, last, rfl⟩ := Option.map_eq_some_iff.1 found
    obtain ⟨same, back, front, cut, others⟩ := List.find?_eq_some_iff_append.1 last
    refine ⟨front.reverse, spelling, back.reverse, ?_, same, by simpa using others⟩
    rw [← pairs.reverse_reverse, cut]
    simp
  · rintro ⟨front, spelling, back, rfl, same, others⟩
    refine Option.map_eq_some_iff.2 ⟨(spelling, value), ?_, rfl⟩
    exact List.find?_eq_some_iff_append.2
      ⟨same, back.reverse, front.reverse, by simp, by simpa using others⟩

@[simp] theorem IsDistinct.get?_eq_some_iff {headers : HeaderList} (h : headers.IsDistinct)
    {name value : Text} : headers.get? name = some value ↔
      ∃ spelling, (spelling, value) ∈ headers.entries ∧ Text.sameAscii spelling name = true := by
  constructor
  · intro found
    obtain ⟨⟨spelling, _⟩, entry, rfl⟩ := Option.map_eq_some_iff.1 found
    have same := List.find?_some entry
    exact ⟨spelling, List.mem_of_find?_eq_some entry, same⟩
  · rintro ⟨spelling, listed, same⟩
    obtain ⟨front, back, cut⟩ := List.append_of_mem listed
    refine Option.map_eq_some_iff.2 ⟨(spelling, value), ?_, rfl⟩
    refine List.find?_eq_some_iff_append.2 ⟨same, front, back, cut, fun entry he => ?_⟩
    rw [IsDistinct, cut, List.map_append, List.pairwise_append] at h
    have apart := h.2.2 entry.1 (List.mem_map_of_mem he) spelling (by simp)
    rw [Text.sameAscii_eq_false_iff] at apart
    rw [Bool.not_eq_true', Text.sameAscii_eq_false_iff, ← Text.sameAscii_iff.1 same]
    exact apart

end HeaderList
end HttpContract
