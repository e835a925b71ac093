import HttpContract.Proofs.FileTree.Basic
import HttpContract.Proofs.Run.Summary
import HttpContract.Report.Files

/-! What writing the reports leaves behind: every report that is asked for, or the fault of a path
where none can be written. -/
namespace HttpContract

namespace ReportFormat

@[simp] theorem isName_fileName (format : ReportFormat) : FileTree.IsName format.fileName := by
  cases format <;> exact ⟨by decide, by decide, by decide, by decide⟩

theorem fileName_injective {format other : ReportFormat}
    (h : format.fileName = other.fileName) : format = other := by
  revert h
  cases format <;> cases other <;> decide

end ReportFormat

namespace ReportFiles

variable {tree after : FileTree} {directory : Text} {results : List TestResult} {time : Timestamp}
variable {formats : List ReportFormat} {format : ReportFormat}

@[simp] theorem render?_isSome_iff : (render? format results time).isSome = true ↔
    Summary.TimesFit results := by
  rw [← Summary.ofResults?_isSome_iff]
  cases format <;> simp only [render?, HtmlReport.render?, JsonReport.render?,
    PlainReport.render?, Option.isSome_map]

theorem exists_render? (fit : Summary.TimesFit results) (format : ReportFormat)
    (time : Timestamp) : ∃ content, render? format results time = some content :=
  Option.isSome_iff_exists.1 (render?_isSome_iff.2 fit)

def IsDelivered (tree : FileTree) (directory : Text) (results : List TestResult)
    (time : Timestamp) (format : ReportFormat) : Prop :=
  ∃ content, render? format results time = some content ∧
    tree.find (pathOf directory format) = .ok (.file (Utf8.encode content))

/-- The reports of other formats stand elsewhere. -/
theorem eq_of_placeOf_pathOf {other : ReportFormat} {place : Place}
    (led : tree.placeOf (pathOf directory format) = .ok place)
    (otherLed : tree.placeOf (pathOf directory other) = .ok place) : format = other := by
  have name := FileTree.getLast?_of_placeOf_joinPath format.isName_fileName led
  have otherName := FileTree.getLast?_of_placeOf_joinPath other.isName_fileName otherLed
  exact ReportFormat.fileName_injective (Option.some.inj (name.symm.trans otherName))

theorem IsDelivered.write {other : ReportFormat} {bytes : Utf8.Bytes}
    (h : IsDelivered tree directory results time format) (apart : format ≠ other)
    (written : tree.write (pathOf directory other) bytes = .ok after) :
    IsDelivered after directory results time format := by
  obtain ⟨content, rendered, found⟩ := h
  obtain ⟨place, led, -⟩ := FileTree.find_eq_ok_iff.1 found
  exact ⟨content, rendered, FileTree.find_write_other written found fun same =>
    apart (eq_of_placeOf_pathOf led (same ▸ led))⟩

theorem writeEach_cons {content : Text} (rendered : render? format results time = some content)
    (written : tree.write (pathOf directory format) (Utf8.encode content) = .ok after)
    {left : FileTree} {outcome : Except RunError (List Text)}
    (rest : writeEach directory results time formats after = some (left, outcome)) :
    writeEach directory results time (format :: formats) tree =
      some (left, outcome.map (pathOf directory format :: ·)) := by
  simp [writeEach, rendered, written, rest]

theorem writeEach_of_writable (fit : Summary.TimesFit results) (nodup : formats.Nodup)
    (writable : ∀ format ∈ formats, tree.IsWritable (pathOf directory format)) :
    ∃ after, writeEach directory results time formats tree =
        some (after, .ok (formats.map (pathOf directory))) ∧
      (∀ format ∈ formats, IsDelivered after directory results time format) ∧
      ∀ format ∉ formats, IsDelivered tree directory results time format →
        IsDelivered after directory results time format := by
  induction formats generalizing tree with
  | nil => exact ⟨tree, rfl, nofun, fun _ _ kept => kept⟩
  | cons format formats ih =>
    obtain ⟨other, nodup⟩ := List.nodup_cons.1 nodup
    obtain ⟨content, rendered⟩ := exists_render? fit format time
    obtain ⟨middle, written⟩ := FileTree.isWritable_iff.1 (writable format List.mem_cons_self)
    obtain ⟨after, rest, delivered, kept⟩ := ih nodup fun later member =>
      (FileTree.isWritable_write_iff written).2 (writable later (List.mem_cons_of_mem _ member))
    refine ⟨after, writeEach_cons rendered written rest, fun later member => ?_,
      fun later absent before => ?_⟩
    · obtain rfl | member := List.mem_cons.1 member
      · exact kept later other ⟨content, rendered, FileTree.find_write written⟩
      · exact delivered later member
    · obtain ⟨apart, absent⟩ := not_or.1 (List.mem_cons.not.1 absent)
      exact kept later absent (before.write apart written)

theorem writeEach_of_not_writable (fit : Summary.TimesFit results)
    (blocked : ¬ ∀ format ∈ formats, tree.IsWritable (pathOf directory format)) :
    ∃ after error, writeEach directory results time formats tree = some (after, .error error) ∧
      ¬ ∀ format ∈ formats, IsDelivered after directory results time format := by
  induction formats generalizing tree with
  | nil => exact absurd nofun blocked
  | cons format formats ih =>
    obtain ⟨content, rendered⟩ := exists_render? fit format time
    cases written : tree.write (pathOf directory format) (Utf8.encode content) with
    | error fault =>
      refine ⟨tree, .unwritableReport (pathOf directory format) fault, ?_, fun delivered => ?_⟩
      · simp [writeEach, rendered, written]
      · obtain ⟨_, -, found⟩ := delivered format List.mem_cons_self
        obtain ⟨after, instead⟩ := FileTree.isWritable_iff.1 (FileTree.isWritable_of_find found)
        rw [written] at instead
        cases instead
    | ok middle =>
      have later : ¬ ∀ format ∈ formats, middle.IsWritable (pathOf directory format) := by
        intro writable
        refine blocked fun other member => ?_
        obtain rfl | member := List.mem_cons.1 member
        · exact FileTree.isWritable_iff.2 ⟨middle, written⟩
        · exact (FileTree.isWritable_write_iff written).1 (writable other member)
      obtain ⟨after, error, rest, missing⟩ := ih later
      exact ⟨after, error, writeEach_cons rendered written rest, fun delivered =>
        missing fun later member => delivered later (List.mem_cons_of_mem _ member)⟩

theorem writeEach_eq_error {error : RunError}
    (h : writeEach directory results time formats tree = some (after, .error error)) :
    ∃ path fault, error = .unwritableReport path fault := by
  induction formats generalizing tree after with
  | nil => cases h
  | cons format formats ih =>
    obtain ⟨content, -, h⟩ := Option.bind_eq_some_iff.1 h
    dsimp only at h
    split at h
    next fault _ =>
      obtain ⟨-, same⟩ := Prod.mk.inj (Option.some.inj h)
      exact ⟨_, fault, (Except.error.inj same).symm⟩
    next middle _ =>
      obtain ⟨⟨left, outcome⟩, rest, same⟩ := Option.bind_eq_some_iff.1 h
      obtain ⟨rfl, failed⟩ := Prod.mk.inj (Option.some.inj same)
      cases outcome with
      | ok paths => cases failed
      | error error' =>
        obtain rfl := Except.error.inj failed
        exact ih rest

/-- The directory of the reports can be made, and all of them can be written there. -/
structure CanWrite (tree : FileTree) (directory : Text) (formats : List ReportFormat) : Prop where
  made : (tree.makeAll directory).2 = .ok ()
  writable : ∀ format ∈ formats,
    (tree.makeAll directory).1.IsWritable (pathOf directory format)

theorem write_of_made (made : (tree.makeAll directory).2 = .ok ()) :
    write tree directory results formats time =
      writeEach directory results time (Text.distinct formats) (tree.makeAll directory).1 := by
  unfold write
  split
  next same => rw [same] at made; cases made
  next same => rw [same]

theorem write_of_unmade {fault : FileFault} (unmade : (tree.makeAll directory).2 = .error fault) :
    write tree directory results formats time =
      some ((tree.makeAll directory).1, .error (.unwritableReport directory fault)) := by
  unfold write
  split
  next same =>
    rw [same] at unmade ⊢
    rw [← Except.error.inj unmade]
  next same => rw [same] at unmade; cases unmade

theorem write_eq_error {error : RunError}
    (h : write tree directory results formats time = some (after, .error error)) :
    ∃ path fault, error = .unwritableReport path fault := by
  cases made : (tree.makeAll directory).2 with
  | error fault =>
    rw [write_of_unmade made] at h
    obtain ⟨-, same⟩ := Prod.mk.inj (Option.some.inj h)
    exact ⟨directory, fault, (Except.error.inj same).symm⟩
  | ok =>
    rw [write_of_made made] at h
    exact writeEach_eq_error h

theorem write_of_canWrite (fit : Summary.TimesFit results) (h : CanWrite tree directory formats)
    (time : Timestamp) : ∃ after, write tree directory results formats time =
        some (after, .ok ((Text.distinct formats).map (pathOf directory))) ∧
      ∀ format ∈ formats, IsDelivered after directory results time format := by
  rw [write_of_made h.made]
  have writable : ∀ format ∈ Text.distinct formats,
      (tree.makeAll directory).1.IsWritable (pathOf directory format) := fun format member =>
    h.writable format (Text.mem_distinct.1 member)
  obtain ⟨after, written, delivered, -⟩ :=
    writeEach_of_writable fit (Text.nodup_distinct formats) writable
  exact ⟨after, written, fun format member => delivered format (Text.mem_distinct.2 member)⟩

theorem write_of_not_canWrite (fit : Summary.TimesFit results)
    (blocked : ¬ CanWrite tree directory formats) (time : Timestamp) :
    ∃ after error, write tree directory results formats time = some (after, .error error) ∧
      ¬ ((tree.makeAll directory).2 = .ok () ∧
        ∀ format ∈ formats, IsDelivered after directory results time format) := by
  cases made : (tree.makeAll directory).2 with
  | error fault => exact ⟨_, _, write_of_unmade made, nofun⟩
  | ok =>
    rw [write_of_made made]
    have later : ¬ ∀ format ∈ Text.distinct formats,
        (tree.makeAll directory).1.IsWritable (pathOf directory format) := fun writable =>
      blocked ⟨made, fun format member => writable format (Text.mem_distinct.2 member)⟩
    obtain ⟨after, error, written, missing⟩ := writeEach_of_not_writable fit later
    exact ⟨after, error, written, fun delivered => missing fun format member =>
      delivered.2 format (Text.mem_distinct.1 member)⟩

end ReportFiles
end HttpContract
