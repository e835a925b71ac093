import HttpContract.Proofs.Headers.List
import Mathlib.Data.List.Nodup

/-! A list of headers as a map that keeps its order. Its names are those that were put, up to the
case of ASCII letters, in the order and the spelling in which they were put first, and each one has
the value that was put last. -/
namespace HttpContract

theorem Text.sameAscii_comm (text other : Text) : sameAscii text other = sameAscii other text :=
  Bool.beq_comm

namespace HeaderList

@[simp] theorem ofList_concat (pairs : List (Text × Text)) (name value : Text) :
    ofList (pairs ++ [(name, value)]) = (ofList pairs).insert name value :=
  List.foldl_concat ..

/-! Names. -/

theorem map_fst_ofList (pairs : List (Text × Text)) : (ofList pairs).entries.map Prod.fst =
    (pairs.map Prod.fst).eraseDupsBy Text.sameAscii := by
  induction pairs using List.reverseRecOn with
  | nil => rfl
  | append_singleton pairs pair ih =>
    rw [ofList_concat, insert, map_fst_put, ih, List.map_append, List.map_singleton,
      Text.eraseDupsBy_concat, ← ih, List.any_map]
    simp only [Function.comp_def, Text.sameAscii_comm pair.1]

def spelling? (headers : HeaderList) (name : Text) : Option Text :=
  (headers.entries.map Prod.fst).find? fun spelling => Text.sameAscii spelling name

theorem spelling?_insert (headers : HeaderList) (name value other : Text) :
    (headers.insert name value).spelling? other =
      (headers.spelling? other).or (if Text.sameAscii name other then some name else none) := by
  rw [spelling?, insert, map_fst_put, List.find?_append, ← spelling?]
  split
  next known =>
    cases same : Text.sameAscii name other with
    | false => rfl
    | true =>
      obtain ⟨entry, listed, alike⟩ := List.any_eq_true.1 known
      have found : (headers.spelling? other).isSome = true := by
        refine List.find?_isSome.2 ⟨entry.1, List.mem_map_of_mem listed, ?_⟩
        rw [Text.sameAscii_iff] at same alike ⊢
        exact alike.trans same
      obtain ⟨spelling, found⟩ := Option.isSome_iff_exists.1 found
      rw [found, Option.some_or, Option.some_or]
  next => rw [List.find?_singleton]

theorem spelling?_ofList (pairs : List (Text × Text)) (name : Text) :
    (ofList pairs).spelling? name =
      (pairs.find? fun pair => Text.sameAscii pair.1 name).map Prod.fst := by
  induction pairs using List.reverseRecOn with
  | nil => rfl
  | append_singleton pairs pair ih =>
    rw [ofList_concat, spelling?_insert, ih, List.find?_append, Option.map_or, List.find?_singleton]
    split <;> rfl

theorem IsDistinct.mem_entries_iff {headers : HeaderList} (h : headers.IsDistinct)
    {name value : Text} : (name, value) ∈ headers.entries ↔
      headers.spelling? name = some name ∧ headers.get? name = some value := by
  have self : Text.sameAscii name name = true := Text.sameAscii_iff.2 rfl
  have one {spelling also kept : Text} (listed : (spelling, kept) ∈ headers.entries)
      (same : Text.sameAscii spelling name = true) (own : (name, also) ∈ headers.entries) :
      (spelling, kept) = (name, also) :=
    List.inj_on_of_nodup_map h.nodup_keys listed own (Text.sameAscii_iff.1 same)
  rw [h.get?_eq_some_iff]
  constructor
  · intro listed
    have found : (headers.spelling? name).isSome = true :=
      List.find?_isSome.2 ⟨name, List.mem_map_of_mem listed, self⟩
    obtain ⟨spelling, found⟩ := Option.isSome_iff_exists.1 found
    have same : Text.sameAscii spelling name = true := by simpa using List.find?_some found
    obtain ⟨⟨_, kept⟩, also, rfl⟩ := List.mem_map.1 (List.mem_of_find?_eq_some found)
    refine ⟨?_, name, listed, self⟩
    rw [found, (Prod.mk.inj (one also same listed)).1]
  · rintro ⟨found, spelling, listed, same⟩
    obtain ⟨⟨_, kept⟩, own, rfl⟩ := List.mem_map.1 (List.mem_of_find?_eq_some found)
    exact one listed same own ▸ listed

theorem IsDistinct.nodup {headers : HeaderList} (h : headers.IsDistinct) :
    headers.entries.Nodup := List.Nodup.of_map _ h.nodup_keys

/-! Insertions. -/

theorem getElem?_put_iff {name value : Text} {entries : List (Text × Text)} {entry : Text × Text}
    (other : Text.sameAscii entry.1 name = false) (place : Nat) :
    (put name value entries)[place]? = some entry ↔ entries[place]? = some entry := by
  have apart (spelling value : Text) (same : Text.sameAscii spelling name = true) :
      (spelling, value) ≠ entry := by
    rintro rfl
    rw [same] at other
    cases other
  induction entries generalizing place with
  | nil =>
    cases place with
    | zero => simp [put, apart name value (Text.sameAscii_iff.2 rfl)]
    | succ place => simp [put]
  | cons first rest ih =>
    obtain ⟨spelling, kept⟩ := first
    rw [put]
    split
    next same =>
      cases place with
      | zero => simp [apart spelling _ same]
      | succ place => rfl
    next =>
      cases place with
      | zero => rfl
      | succ place => exact ih place

/-- The same insertions in another order, where those under names that are equal up to case keep
their order, give the same entries. -/
theorem perm_entries_ofList {pairs other : List (Text × Text)}
    (h : ∀ name, pairs.filter (fun pair => Text.sameAscii pair.1 name) =
      other.filter fun pair => Text.sameAscii pair.1 name) :
    (ofList pairs).entries.Perm (ofList other).entries := by
  refine (List.perm_ext_iff_of_nodup (isDistinct_ofList pairs).nodup
    (isDistinct_ofList other).nodup).2 fun (name, value) => ?_
  rw [(isDistinct_ofList pairs).mem_entries_iff, (isDistinct_ofList other).mem_entries_iff,
    get?_ofList, get?_ofList, ← List.getLast?_filter, ← List.getLast?_filter,
    spelling?_ofList, spelling?_ofList, ← List.head?_filter, ← List.head?_filter, h name]

/-- A list of headers is an ordered map in which the last value wins. Its names are those that were
put, each class of names that are equal up to the case of ASCII letters once, in the order and the
spelling of the first insertion; the value is that of the last insertion of the class, and it is
found under any spelling. Each insertion leaves the entries of other names as they are and where
they are. Insertions under names that differ in more than case may change places: the entries are
the same. -/
theorem ofList_lastWins (pairs : List (Text × Text)) :
    let headers := ofList pairs
    headers.entries.map Prod.fst = (pairs.map Prod.fst).eraseDupsBy Text.sameAscii ∧
    (∀ entry ∈ headers.entries, IsLast pairs entry.1 entry.2) ∧
    headers.IsDistinct ∧
    (∀ name value, headers.get? name = some value ↔ IsLast pairs name value) ∧
    (∀ name value, let after := headers.insert name value
      after = ofList (pairs ++ [(name, value)]) ∧
      ∀ (entry : Text × Text) (place : Nat), Text.sameAscii entry.1 name = false →
        (after.entries[place]? = some entry ↔ headers.entries[place]? = some entry)) ∧
    ∀ other : List (Text × Text),
      (∀ name, pairs.filter (fun pair => Text.sameAscii pair.1 name) =
        other.filter fun pair => Text.sameAscii pair.1 name) →
      headers.entries.Perm (ofList other).entries := by
  intro headers
  have distinct : headers.IsDistinct := isDistinct_ofList pairs
  refine ⟨map_fst_ofList pairs, fun entry listed => ?_, distinct,
    fun _ _ => get?_ofList_eq_some_iff,
    fun name value => ⟨(ofList_concat pairs name value).symm,
      fun _ place apart => getElem?_put_iff apart place⟩,
    fun _ => perm_entries_ofList⟩
  exact get?_ofList_eq_some_iff.1 (distinct.mem_entries_iff.1 listed).2

/-- Two spellings in ASCII are one name, and two with an accent are two names. -/
theorem ofList_lastWins_respelled :
    let pairs : List (Text × Text) :=
      [("Accept", "text/plain"), ("X-Né", "1"), ("ACCEPT", "*/*"), ("X-NÉ", "2")]
    let other : List (Text × Text) :=
      [("X-NÉ", "2"), ("Accept", "text/plain"), ("ACCEPT", "*/*"), ("X-Né", "1")]
    let entries : List (Text × Text) := [("Accept", "*/*"), ("X-Né", "1"), ("X-NÉ", "2")]
    (ofList pairs).entries = entries ∧ (ofList pairs).entries.Perm (ofList other).entries := by
  intro pairs other entries
  refine ⟨by decide, (ofList_lastWins pairs).2.2.2.2.2 other fun name => ?_⟩
  have apart (a b : Text) (h : Text.lowerAscii a ≠ Text.lowerAscii b)
      (same : Text.sameAscii a name = true) : Text.sameAscii b name = false := by
    rw [Text.sameAscii_eq_false_iff, ← Text.sameAscii_iff.1 same]
    exact h.symm
  have respelled : Text.sameAscii "ACCEPT" name = Text.sameAscii "Accept" name := rfl
  have first := apart "Accept" "X-Né" (by decide)
  have second := apart "Accept" "X-NÉ" (by decide)
  have third := apart "X-Né" "X-NÉ" (by decide)
  simp only [pairs, other, List.filter_cons, List.filter_nil, respelled]
  cases one : Text.sameAscii "Accept" name with
  | true => simp only [first one, second one, Bool.false_eq_true, if_false]
  | false =>
    cases two : Text.sameAscii "X-Né" name with
    | true => simp only [third two, Bool.false_eq_true, if_false]
    | false => simp only [Bool.false_eq_true, if_false]

end HeaderList
end HttpContract
