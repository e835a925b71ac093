import HttpContract.FileTree.Basic
import HttpContract.Proofs.Except
import HttpContract.Proofs.Text.Lines
import Mathlib.Tactic.SplitIfs

/-! Files and directories by their places: what a path leads to, and that writing a file leads no
other path astray. -/
namespace HttpContract
namespace FileTree

variable {tree after : FileTree} {place : Place} {path : Text}

@[simp] theorem lookup_nil (tree : FileTree) : tree.lookup [] = some .directory := if_pos rfl

@[simp] theorem lookup_putEntry (place other : Place) (entry : FileEntry)
    (entries : List (Place × FileEntry)) : (putEntry place entry entries).lookup other =
      if other = place then some entry else entries.lookup other := by
  induction entries with
  | nil =>
    by_cases same : other = place <;> simp [putEntry, List.lookup_cons, beq_false_of_ne, same]
  | cons pair rest ih =>
    obtain ⟨taken, kept⟩ := pair
    by_cases found : place = taken
    · subst found
      by_cases same : other = place <;>
        simp [putEntry, List.lookup_cons, beq_false_of_ne, same]
    · rw [putEntry, if_neg found, List.lookup_cons, List.lookup_cons, ih]
      by_cases here : other = taken
      · have apart : ¬ taken = place := fun same => found same.symm
        simp [here, apart]
      · simp [here, beq_false_of_ne]

/-- The root stays what it is. -/
theorem lookup_put (h : place ≠ []) (entry : FileEntry) (other : Place) :
    (tree.put place entry).lookup other =
      if other = place then some entry else tree.lookup other := by
  unfold lookup put
  by_cases root : other = []
  · have apart : [] ≠ place := h.symm
    simp [root, apart]
  · rw [if_neg root, if_neg root, lookup_putEntry]

structure KeepsDirectories (tree after : FileTree) : Prop where
  workingDirectory : after.workingDirectory = tree.workingDirectory
  directory : ∀ place, tree.lookup place = some .directory → after.lookup place = some .directory

theorem KeepsDirectories.trans {middle : FileTree} (h : tree.KeepsDirectories middle)
    (h' : middle.KeepsDirectories after) : tree.KeepsDirectories after :=
  ⟨h'.workingDirectory.trans h.workingDirectory, fun place there =>
    h'.directory place (h.directory place there)⟩

def enter (tree : FileTree) (place : Place) (part : Text) : Except FileFault Place :=
  match tree.lookup place with
  | none => .error .notFound
  | some (.file _) => .error .notDirectory
  | some .directory =>
    if part = ['.'] then .ok place
    else if part = ['.', '.'] then .ok place.dropLast
    else if (Utf8.encode part).length > maxName then .error .nameTooLong
    else .ok (place ++ [part])

@[simp] theorem walk_cons (tree : FileTree) (place : Place) (part : Text) (parts : List Text) :
    tree.walk place (part :: parts) =
      (tree.enter place part).bind fun next => tree.walk next parts := by
  unfold enter
  rw [walk]
  cases tree.lookup place with
  | none => rfl
  | some entry =>
    cases entry with
    | file bytes => rfl
    | directory =>
      dsimp only
      split_ifs <;> rfl

@[simp] theorem walk_append (tree : FileTree) (place : Place) (front parts : List Text) :
    tree.walk place (front ++ parts) =
      (tree.walk place front).bind fun middle => tree.walk middle parts := by
  induction front generalizing place with
  | nil => rfl
  | cons part front ih =>
    rw [List.cons_append, walk_cons, walk_cons]
    cases tree.enter place part with
    | error fault => rfl
    | ok next => exact ih next

theorem KeepsDirectories.enter (kept : tree.KeepsDirectories after) {part : Text} {goal : Place}
    (h : tree.enter place part = .ok goal) : after.enter place part = .ok goal := by
  unfold FileTree.enter at h ⊢
  cases there : tree.lookup place with
  | none => simp [there] at h
  | some entry =>
    cases entry with
    | file bytes => simp [there] at h
    | directory =>
      rw [there] at h
      rw [kept.directory place there]
      exact h

/-- A way that leads somewhere leads there as long as its directories stay. -/
theorem KeepsDirectories.walk (kept : tree.KeepsDirectories after) {parts : List Text}
    {goal : Place} (h : tree.walk place parts = .ok goal) : after.walk place parts = .ok goal := by
  induction parts generalizing place with
  | nil => exact h
  | cons part parts ih =>
    rw [walk_cons] at h ⊢
    obtain ⟨next, entered, h⟩ := bind_eq_ok_iff.1 h
    exact bind_eq_ok_iff.2 ⟨next, kept.enter entered, ih h⟩

theorem KeepsDirectories.placeOf (kept : tree.KeepsDirectories after)
    (h : tree.placeOf path = .ok place) : after.placeOf path = .ok place := by
  have start : after.startOf path = tree.startOf path := by
    rw [startOf, startOf, kept.workingDirectory]
  obtain ⟨_, checked, h⟩ := bind_eq_ok_iff.1 h
  rw [← start] at h
  exact bind_eq_ok_iff.2 ⟨_, checked, kept.walk h⟩

theorem find_eq_ok_iff {entry : FileEntry} : tree.find path = .ok entry ↔
    ∃ place, tree.placeOf path = .ok place ∧ tree.lookup place = some entry := by
  unfold find
  rw [bind_eq_ok_iff]
  refine exists_congr fun place => and_congr_right fun _ => ?_
  cases tree.lookup place <;> simp

def Holds (tree : FileTree) (path text : Text) : Prop :=
  ∃ bytes, tree.find path = .ok (.file bytes) ∧ Utf8.decode? bytes = some text

@[simp]
theorem read_eq_ok_iff {text : Text} : tree.read path = .ok text ↔ tree.Holds path text := by
  unfold read
  rw [bind_eq_ok_iff]
  constructor
  · rintro ⟨entry, found, h⟩
    cases entry with
    | directory => cases h
    | file bytes =>
      refine ⟨bytes, found, ?_⟩
      dsimp only at h
      cases decoded : Utf8.decode? bytes with
      | none => simp [decoded] at h
      | some text' => simpa [decoded] using h
  · rintro ⟨bytes, found, decoded⟩
    exact ⟨_, found, by simp [decoded]⟩

def IsWritable (tree : FileTree) (path : Text) : Prop :=
  ∃ place, tree.placeOf path = .ok place ∧ tree.lookup place ≠ some .directory

theorem write_eq_ok_iff {bytes : Utf8.Bytes} : tree.write path bytes = .ok after ↔
    ∃ place, tree.placeOf path = .ok place ∧ tree.lookup place ≠ some .directory ∧
      after = tree.put place (.file bytes) := by
  unfold write
  rw [bind_eq_ok_iff]
  refine exists_congr fun place => and_congr_right fun _ => ?_
  cases tree.lookup place with
  | none => simp [eq_comm]
  | some entry => cases entry <;> simp [eq_comm]

theorem isWritable_iff {bytes : Utf8.Bytes} :
    tree.IsWritable path ↔ ∃ after, tree.write path bytes = .ok after := by
  simp only [write_eq_ok_iff, IsWritable]
  constructor
  · rintro ⟨place, led, free⟩
    exact ⟨_, place, led, free, rfl⟩
  · rintro ⟨_, place, led, free, -⟩
    exact ⟨place, led, free⟩

theorem isWritable_of_find {bytes : Utf8.Bytes} (h : tree.find path = .ok (.file bytes)) :
    tree.IsWritable path := by
  obtain ⟨place, led, there⟩ := find_eq_ok_iff.1 h
  exact ⟨place, led, by simp [there]⟩

section

variable {bytes : Utf8.Bytes} (h : tree.write path bytes = .ok after)

include h

/-- A file takes the place of no directory. -/
theorem lookup_write_eq_directory_iff (other : Place) :
    after.lookup other = some .directory ↔ tree.lookup other = some .directory := by
  obtain ⟨place, -, free, rfl⟩ := write_eq_ok_iff.1 h
  have below : place ≠ [] := fun root => free (root ▸ lookup_nil tree)
  rw [lookup_put below]
  split
  next same => exact iff_of_false nofun (same ▸ free)
  next => rfl

theorem keepsDirectories_write : tree.KeepsDirectories after where
  workingDirectory := by
    obtain ⟨place, -, -, rfl⟩ := write_eq_ok_iff.1 h
    rfl
  directory other := (lookup_write_eq_directory_iff h other).2

theorem keepsDirectories_of_write : after.KeepsDirectories tree where
  workingDirectory := (keepsDirectories_write h).workingDirectory.symm
  directory other := (lookup_write_eq_directory_iff h other).1

theorem find_write : after.find path = .ok (.file bytes) := by
  have kept := keepsDirectories_write h
  obtain ⟨place, led, free, rfl⟩ := write_eq_ok_iff.1 h
  have below : place ≠ [] := fun root => free (root ▸ lookup_nil tree)
  refine find_eq_ok_iff.2 ⟨place, kept.placeOf led, ?_⟩
  rw [lookup_put below, if_pos rfl]

theorem isWritable_write_iff {other : Text} : after.IsWritable other ↔ tree.IsWritable other := by
  constructor
  · rintro ⟨place, led, free⟩
    exact ⟨place, (keepsDirectories_of_write h).placeOf led,
      (lookup_write_eq_directory_iff h place).not.1 free⟩
  · rintro ⟨place, led, free⟩
    exact ⟨place, (keepsDirectories_write h).placeOf led,
      (lookup_write_eq_directory_iff h place).not.2 free⟩

theorem lookup_write_other {other : Place} (apart : tree.placeOf path ≠ .ok other) :
    after.lookup other = tree.lookup other := by
  obtain ⟨place, led, free, rfl⟩ := write_eq_ok_iff.1 h
  have below : place ≠ [] := fun root => free (root ▸ lookup_nil tree)
  rw [lookup_put below, if_neg]
  rintro rfl
  exact apart led

theorem find_write_other {other : Text} {entry : FileEntry} (found : tree.find other = .ok entry)
    (apart : tree.placeOf other ≠ tree.placeOf path) : after.find other = .ok entry := by
  obtain ⟨place, led, there⟩ := find_eq_ok_iff.1 found
  refine find_eq_ok_iff.2 ⟨place, (keepsDirectories_write h).placeOf led, ?_⟩
  rw [lookup_write_other h (led ▸ apart.symm), there]

end

structure IsName (name : Text) : Prop where
  ne_nil : name ≠ []
  clear : '/' ∉ name
  not_stay : name ≠ ['.']
  not_up : name ≠ ['.', '.']

@[simp] theorem partsOf_joinPath {name : Text} (h : IsName name) (directory : Text) :
    partsOf (joinPath directory name) = partsOf directory ++ [name] := by
  have single : (Text.splitAt '/' name).filter (fun part => !part.isEmpty) = [name] := by
    rw [Text.splitAt_eq_singleton h.clear]
    simp [h.ne_nil]
  unfold joinPath partsOf
  split
  next bare =>
    obtain rfl | ends := bare
    · simpa [Text.splitAt] using single
    · obtain ⟨front, rfl⟩ := List.getLast?_eq_some_iff.1 ends
      rw [List.append_assoc, List.singleton_append, Text.splitAt_append_cons,
        Text.splitAt_append_cons, List.filter_append, single, List.filter_append]
      simp [Text.splitAt]
  next => rw [List.append_assoc, List.singleton_append, Text.splitAt_append_cons,
    List.filter_append, single]

@[simp] theorem getLast?_joinPath {name : Text} (h : IsName name) (directory : Text) :
    (joinPath directory name).getLast? = name.getLast? := by
  obtain ⟨front, last, rfl⟩ := (List.eq_nil_or_concat name).resolve_left h.ne_nil
  unfold joinPath
  split <;> simp [List.getLast?_append, List.getLast?_cons]

theorem eq_concat_of_enter {name : Text} (h : IsName name) {next : Place}
    (entered : tree.enter place name = .ok next) : next = place ++ [name] := by
  unfold enter at entered
  cases there : tree.lookup place with
  | none => simp [there] at entered
  | some entry =>
    cases entry with
    | file bytes => simp [there] at entered
    | directory =>
      rw [there] at entered
      dsimp only at entered
      rw [if_neg h.not_stay, if_neg h.not_up] at entered
      split at entered
      · cases entered
      · exact (Except.ok.inj entered).symm

/-- The path of a name in a directory leads to a place with that name. -/
theorem getLast?_of_placeOf_joinPath {name directory : Text} (h : IsName name)
    (led : tree.placeOf (joinPath directory name) = .ok place) : place.getLast? = some name := by
  have closed : (joinPath directory name).getLast? ≠ some '/' := by
    rw [getLast?_joinPath h]
    exact fun slash => h.clear (List.mem_of_getLast? slash)
  obtain ⟨_, -, led⟩ := bind_eq_ok_iff.1 led
  dsimp only at led
  rw [if_neg closed, List.append_nil, partsOf_joinPath h, walk_append] at led
  obtain ⟨parent, -, led⟩ := bind_eq_ok_iff.1 led
  rw [walk_cons] at led
  obtain ⟨next, entered, same⟩ := bind_eq_ok_iff.1 led
  obtain rfl := Except.ok.inj same
  rw [eq_concat_of_enter h entered, List.getLast?_concat]

end FileTree
end HttpContract
