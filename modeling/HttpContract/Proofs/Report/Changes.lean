import HttpContract.Proofs.FileTree.Directories
import HttpContract.Proofs.Report.Delivery

/-! What writing the reports changes in a tree, whether or not it gets to its end: the files of the
reports that were written, and directories that were missing on the way to theirs. -/
namespace HttpContract
namespace ReportFiles

variable {tree made middle after : FileTree} {directory : Text} {results : List TestResult}
variable {time : Timestamp} {formats : List ReportFormat} {format : ReportFormat}

/-- The reports of the formats are in their files. Elsewhere nothing has changed, unless a directory
was missing on the way to theirs. -/
structure Changes (tree after : FileTree) (directory : Text) (results : List TestResult)
    (time : Timestamp) (formats : List ReportFormat) : Prop where
  kept : tree.KeepsDirectories after
  delivered : ∀ format ∈ formats, IsDelivered after directory results time format
  lookup : ∀ place, (∀ format ∈ formats, after.placeOf (pathOf directory format) ≠ .ok place) →
    after.lookup place = tree.lookup place ∨
      (tree.lookup place = none ∧ after.lookup place = some .directory ∧
        after.IsOnWay (after.startOf directory) (FileTree.partsOf directory) place)

namespace Changes

@[simp] theorem refl (tree : FileTree) (directory : Text) (results : List TestResult)
    (time : Timestamp) : Changes tree tree directory results time [] :=
  ⟨⟨rfl, fun _ there => there⟩, nofun, fun _ _ => .inl rfl⟩

theorem of_made (h : Changes (tree.makeAll directory).1 after directory results time formats) :
    Changes tree after directory results time formats := by
  have added := tree.addsOnWay_makeAll directory
  refine ⟨added.keepsDirectories.trans h.kept, h.delivered, fun place apart => ?_⟩
  have start : after.startOf directory = tree.startOf directory := by
    rw [FileTree.startOf, FileTree.startOf, h.kept.workingDirectory, added.workingDirectory]
  obtain same' | ⟨missing', there, onWay'⟩ := h.lookup place apart
  · rw [same', start]
    obtain same | ⟨missing, there, onWay⟩ := added.lookup place
    · exact .inl same
    · exact .inr ⟨missing, there, onWay.kept h.kept⟩
  · obtain same | ⟨-, there', -⟩ := added.lookup place
    · exact .inr ⟨same ▸ missing', there, onWay'⟩
    · rw [there'] at missing'
      cases missing'

theorem cons {content : Text} (rendered : render? format results time = some content)
    (written : tree.write (pathOf directory format) (Utf8.encode content) = .ok middle)
    (absent : format ∉ formats) (h : Changes middle after directory results time formats) :
    Changes tree after directory results time (format :: formats) := by
  have kept := (FileTree.keepsDirectories_write written).trans h.kept
  refine ⟨kept, List.forall_mem_cons.2 ⟨?_, h.delivered⟩, fun place apart => ?_⟩
  · obtain ⟨place, led, there⟩ := FileTree.find_eq_ok_iff.1 (FileTree.find_write written)
    have led' := h.kept.placeOf led
    have apart : ∀ other ∈ formats, after.placeOf (pathOf directory other) ≠ .ok place :=
      fun other member otherLed => absent (eq_of_placeOf_pathOf led' otherLed ▸ member)
    refine ⟨content, rendered, FileTree.find_eq_ok_iff.2 ⟨place, led', ?_⟩⟩
    obtain same | ⟨missing, -⟩ := h.lookup place apart
    · rw [same, there]
    · rw [there] at missing
      cases missing
  · obtain ⟨here, others⟩ := List.forall_mem_cons.1 apart
    rw [← FileTree.lookup_write_other written fun led => here (kept.placeOf led)]
    exact h.lookup place others

end Changes

/-- How writing distinct reports ends: with all of them, or at the first one that cannot be
written. -/
inductive EndsWriting (tree : FileTree) (directory : Text) (results : List TestResult)
    (time : Timestamp) (formats : List ReportFormat) : Delivery → Prop
  | done {after : FileTree} (changes : Changes tree after directory results time formats) :
      EndsWriting tree directory results time formats
        (after, .ok (formats.map (pathOf directory)))
  | blocked {after : FileTree} {before rest : List ReportFormat} {format : ReportFormat}
      {content : Text} {fault : FileFault} (cut : formats = before ++ format :: rest)
      (changes : Changes tree after directory results time before)
      (rendered : render? format results time = some content)
      (failed : after.write (pathOf directory format) (Utf8.encode content) = .error fault) :
      EndsWriting tree directory results time formats
        (after, .error (.unwritableReport (pathOf directory format) fault))

theorem EndsWriting.of_made {delivery : Delivery}
    (h : EndsWriting (tree.makeAll directory).1 directory results time formats delivery) :
    EndsWriting tree directory results time formats delivery := by
  cases h with
  | done changes => exact .done changes.of_made
  | blocked cut changes rendered failed => exact .blocked cut changes.of_made rendered failed

theorem exists_writeEach (fit : Summary.TimesFit results) (nodup : formats.Nodup)
    (tree : FileTree) (directory : Text) (time : Timestamp) :
    ∃ delivery, writeEach directory results time formats tree = some delivery ∧
      EndsWriting tree directory results time formats delivery := by
  induction formats generalizing tree with
  | nil => exact ⟨_, rfl, .done (.refl ..)⟩
  | cons format formats ih =>
    obtain ⟨absent, nodup⟩ := List.nodup_cons.1 nodup
    obtain ⟨content, rendered⟩ := exists_render? fit format time
    cases written : tree.write (pathOf directory format) (Utf8.encode content) with
    | error fault =>
      refine ⟨(tree, .error (.unwritableReport (pathOf directory format) fault)), ?_,
        .blocked (List.nil_append _).symm (.refl ..) rendered written⟩
      simp [writeEach, rendered, written]
    | ok middle =>
      obtain ⟨⟨after, outcome⟩, rest, ends⟩ := ih nodup middle
      refine ⟨_, writeEach_cons rendered written rest, ?_⟩
      cases ends with
      | done changes => exact .done (changes.cons rendered written absent)
      | blocked cut changes rendered' failed =>
        subst cut
        have absent' := fun member => absent (List.mem_append_left _ member)
        exact .blocked rfl (changes.cons rendered written absent') rendered' failed

/-- Writing touches the reports that are asked for, each of them once, and nothing else but missing
directories on the way to theirs. It ends at the first path that fails, which is that of the
directory or of a report; the reports before it are there. -/
theorem write_changes {results : List TestResult} (fit : Summary.TimesFit results)
    (tree : FileTree) (directory : Text) (formats : List ReportFormat) (time : Timestamp) :
    ∃ after outcome, write tree directory results formats time = some (after, outcome) ∧
      (EndsWriting tree directory results time formats.eraseDups (after, outcome) ∨
        ∃ fault, (tree.makeAll directory).2 = .error fault ∧
          outcome = .error (.unwritableReport directory fault) ∧
          Changes tree after directory results time []) := by
  cases unmade : (tree.makeAll directory).2 with
  | error fault =>
    exact ⟨_, _, write_of_unmade unmade, .inr ⟨fault, rfl, rfl, (Changes.refl ..).of_made⟩⟩
  | ok =>
    have nodup := Text.nodup_distinct formats
    rw [Text.distinct_eq_eraseDups] at nodup
    rw [write_of_made unmade, Text.distinct_eq_eraseDups]
    obtain ⟨⟨after, outcome⟩, written, ends⟩ :=
      exists_writeEach fit nodup (tree.makeAll directory).1 directory time
    exact ⟨after, outcome, written, .inl ends.of_made⟩

/-- A directory stands where the second report belongs, and the way leads through a missing one. -/
theorem write_changes_blocked :
    let tree : FileTree :=
      { entries := [(["out"], .directory), (["out", "test-results.json"], .directory)] }
    let formats : List ReportFormat := [.text, .text, .json, .html]
    let time : Timestamp := { unix := 0 }
    Summary.TimesFit [] ∧ ∃ after outcome,
      write tree "new/../out" [] formats time = some (after, outcome) ∧
      (EndsWriting tree "new/../out" [] time formats.eraseDups (after, outcome) ∨
        ∃ fault, (tree.makeAll "new/../out").2 = .error fault ∧
          outcome = .error (.unwritableReport "new/../out" fault) ∧
          Changes tree after "new/../out" [] time []) ∧
      after.files = ["out/summary.txt".toList] ∧ after.lookup ["new"] = some .directory := by
  intro tree formats time
  have fit : Summary.TimesFit [] := Nat.zero_le _
  obtain ⟨after, outcome, written, ends⟩ := write_changes fit tree "new/../out" formats time
  have left : (write tree "new/../out" [] formats time).map
      (fun delivery => (delivery.1.files, delivery.1.lookup ["new"])) =
        some (["out/summary.txt".toList], some .directory) := by decide +kernel
  rw [written] at left
  obtain ⟨files, made⟩ := Prod.mk.inj (Option.some.inj left)
  exact ⟨fit, after, outcome, written, ends, files, made⟩

end ReportFiles
end HttpContract
