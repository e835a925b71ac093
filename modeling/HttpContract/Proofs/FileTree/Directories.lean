import HttpContract.FileTree.Directories
import HttpContract.Proofs.FileTree.Basic

/-! What making a directory changes in a tree: missing directories on the way to it may be there
afterwards, also if it cannot be made in the end, and nothing else has changed. -/
namespace HttpContract
namespace FileTree

variable {tree middle after : FileTree} {start place : Place} {parts front : List Text}

def IsOnWay (tree : FileTree) (start : Place) (parts : List Text) (place : Place) : Prop :=
  ∃ front, front <+: parts ∧ tree.walk start front = .ok place

theorem IsOnWay.kept (h : tree.IsOnWay start parts place) (kept : tree.KeepsDirectories after) :
    after.IsOnWay start parts place := by
  obtain ⟨front, before, led⟩ := h
  exact ⟨front, before, kept.walk led⟩

theorem IsOnWay.of_prefix (h : tree.IsOnWay start front place) (before : front <+: parts) :
    tree.IsOnWay start parts place := by
  obtain ⟨less, within, led⟩ := h
  exact ⟨less, within.trans before, led⟩

/-- Nothing has changed but that directories are there which were missing on the way. -/
structure AddsOnWay (tree after : FileTree) (start : Place) (parts : List Text) : Prop where
  workingDirectory : after.workingDirectory = tree.workingDirectory
  lookup : ∀ place, after.lookup place = tree.lookup place ∨
    (tree.lookup place = none ∧ after.lookup place = some .directory ∧
      after.IsOnWay start parts place)

namespace AddsOnWay

theorem refl (tree : FileTree) (start : Place) (parts : List Text) :
    tree.AddsOnWay tree start parts := ⟨rfl, fun _ => .inl rfl⟩

theorem keepsDirectories (h : tree.AddsOnWay after start parts) : tree.KeepsDirectories after where
  workingDirectory := h.workingDirectory
  directory place there := by
    obtain same | ⟨missing, -⟩ := h.lookup place
    · rw [same, there]
    · rw [there] at missing
      cases missing

theorem trans (h : tree.AddsOnWay middle start parts) (h' : middle.AddsOnWay after start parts) :
    tree.AddsOnWay after start parts where
  workingDirectory := h'.workingDirectory.trans h.workingDirectory
  lookup place := by
    obtain same' | ⟨missing', made', onWay'⟩ := h'.lookup place
    · rw [same']
      exact (h.lookup place).imp_right fun ⟨missing, made, onWay⟩ =>
        ⟨missing, made, onWay.kept h'.keepsDirectories⟩
    · obtain same | ⟨-, made, -⟩ := h.lookup place
      · exact .inr ⟨same ▸ missing', made', onWay'⟩
      · rw [made] at missing'
        cases missing'

theorem of_prefix (h : tree.AddsOnWay after start front) (before : front <+: parts) :
    tree.AddsOnWay after start parts where
  workingDirectory := h.workingDirectory
  lookup place := (h.lookup place).imp_right fun ⟨missing, made, onWay⟩ =>
    ⟨missing, made, onWay.of_prefix before⟩

end AddsOnWay

theorem walk_concat_stay_eq_ok_iff : tree.walk start (parts ++ [['.']]) = .ok place ↔
    tree.walk start parts = .ok place ∧ tree.lookup place = some .directory := by
  have stay (here : Place) : tree.walk here [['.']] = .ok place ↔
      here = place ∧ tree.lookup place = some .directory := by
    rw [walk]
    split
    next missing =>
      constructor
      · intro led
        cases led
      · rintro ⟨rfl, there⟩
        cases missing.symm.trans there
    next file =>
      constructor
      · intro led
        cases led
      · rintro ⟨rfl, there⟩
        cases file.symm.trans there
    next there =>
      rw [if_pos rfl, walk, Except.ok.injEq]
      exact ⟨fun same => ⟨same, same ▸ there⟩, And.left⟩
  rw [walk_append]
  constructor
  · intro led
    obtain ⟨here, before, last⟩ := bind_eq_ok_iff.1 led
    obtain ⟨rfl, there⟩ := (stay here).1 last
    exact ⟨before, there⟩
  · rintro ⟨before, there⟩
    exact bind_eq_ok_iff.2 ⟨place, before, (stay place).2 ⟨rfl, there⟩⟩

theorem enter_name {part : Text} (there : tree.lookup place = some .directory)
    (name : ¬ (part = ['.'] ∨ part = ['.', '.'])) (short : ¬ (Utf8.encode part).length > maxName) :
    tree.enter place part = .ok (place ++ [part]) := by
  obtain ⟨not_stay, not_up⟩ := not_or.1 name
  rw [enter, there]
  dsimp only
  rw [if_neg not_stay, if_neg not_up, if_neg short]

theorem lookup_put_of_missing (missing : tree.lookup place = none) (entry : FileEntry)
    (other : Place) : (tree.put place entry).lookup other =
      if other = place then some entry else tree.lookup other := by
  refine lookup_put ?_ entry other
  rintro rfl
  rw [lookup_nil] at missing
  cases missing

theorem keepsDirectories_put (missing : tree.lookup place = none) :
    tree.KeepsDirectories (tree.put place .directory) where
  workingDirectory := rfl
  directory other there := by
    rw [lookup_put_of_missing missing]
    split
    · rfl
    · exact there

theorem addsOnWay_put (missing : tree.lookup place = none)
    (onWay : (tree.put place .directory).IsOnWay start parts place) :
    tree.AddsOnWay (tree.put place .directory) start parts where
  workingDirectory := rfl
  lookup other := by
    rw [lookup_put_of_missing missing]
    split
    next same =>
      subst same
      exact .inr ⟨missing, rfl, onWay⟩
    next => exact .inl rfl

theorem addsOnWay_makeAt {part : Text} (h : tree.makeAt start (part :: parts) = .ok after) :
    tree.AddsOnWay after start (part :: parts).reverse := by
  obtain ⟨parent, led, h⟩ := bind_eq_ok_iff.1 h
  obtain ⟨led, there⟩ := walk_concat_stay_eq_ok_iff.1 led
  split_ifs at h with name long taken
  obtain rfl := Except.ok.inj h
  have missing : tree.lookup (parent ++ [part]) = none := Option.not_isSome_iff_eq_none.1 taken
  have kept := keepsDirectories_put missing
  refine addsOnWay_put missing ⟨_, List.prefix_rfl, ?_⟩
  rw [List.reverse_cons, walk_append, kept.walk led]
  change FileTree.walk _ parent [part] = _
  rw [walk_cons, enter_name (kept.directory parent there) name long]
  rfl

theorem AddsOnWay.of_parentParts {part : Text}
    (h : tree.AddsOnWay after start (parentParts (part :: parts)).reverse) :
    tree.AddsOnWay after start (part :: parts).reverse := by
  have suffix : parentParts (part :: parts) <:+ part :: parts :=
    (List.dropWhile_suffix _).trans ((List.drop_suffix ..).trans (List.dropWhile_suffix _))
  exact h.of_prefix (List.reverse_prefix.2 suffix)

/-- What was made before a fault stays. -/
theorem addsOnWay_makeAllAt (tree : FileTree) (start : Place) (parts : List Text) :
    tree.AddsOnWay (tree.makeAllAt start parts).1 start parts.reverse := by
  fun_induction makeAllAt tree start parts with
  | case1 => exact .refl ..
  | case2 part parts made done => exact addsOnWay_makeAt done
  | case3 part parts _ made fault parents ih =>
    rw [parents] at ih
    exact ih.of_parentParts
  | case4 part parts _ made parents all done ih =>
    rw [parents] at ih
    exact ih.of_parentParts.trans (addsOnWay_makeAt done)
  | case5 part parts accept _ made parents fault _ ih =>
    rw [parents] at ih
    have left : (accept made fault).1 = made := by
      dsimp only [accept]
      split <;> rfl
    rw [left]
    exact ih.of_parentParts
  | case6 part parts accept fault _ _ =>
    have left : (accept tree fault).1 = tree := by
      dsimp only [accept]
      split <;> rfl
    rw [left]
    exact .refl ..

theorem addsOnWay_makeAll (tree : FileTree) (path : Text) :
    tree.AddsOnWay (tree.makeAll path).1 (tree.startOf path) (partsOf path) := by
  unfold makeAll
  split
  · exact .refl ..
  · split
    · exact .refl ..
    · have added := addsOnWay_makeAllAt tree (tree.startOf path) (partsOf path).reverse
      rwa [List.reverse_reverse] at added

end FileTree
end HttpContract
