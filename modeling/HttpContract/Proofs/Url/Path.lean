import HttpContract.Proofs.Text.Basic
import HttpContract.Url.Path

/-! Paths while they are built: what makes double dots meaningless, and what cannot. -/
namespace HttpContract
namespace UrlPath

@[simp] theorem isDoubleDot_nil : isDoubleDot [] = false := by decide

namespace Draft

variable {draft next : Draft} {isFile isLast : Bool} {piece : Piece} {cause : UrlError}

@[simp] theorem held_closeDrive :
    draft.closeDrive.held = if draft.finished = [] then [] else draft.held := by
  unfold closeDrive
  split_ifs <;> simp_all

/-- Double dots have no meaning if something is held behind a finished segment. -/
@[simp] theorem add_eq_error_iff : draft.add isFile isLast piece = .error cause ↔
    cause = .dotsBehindDrive ∧ draft.finished ≠ [] ∧ draft.held ≠ [] ∧
      isDoubleDot piece.text = true := by
  constructor
  · intro h
    have dots : isDoubleDot piece.text = true := by
      by_contra other
      simp only [add, other, if_false] at h
      split_ifs at h
    have some_text : piece.text ≠ [] := fun empty => by simp [empty] at dots
    simp only [add, some_text, dots, if_false, if_true] at h
    generalize closed : draft.closeDrive = ready at h
    split_ifs at h
    next held =>
      rw [← closed, held_closeDrive] at held
      exact ⟨(Except.error.inj h).symm, by simp_all⟩
  · rintro ⟨rfl, finished, held, dots⟩
    have some_text : piece.text ≠ [] := fun empty => by simp [empty] at dots
    have ready : draft.closeDrive = draft := by simp [closeDrive, finished]
    simp [add, some_text, ready, isEmpty, finished, held, dots]

theorem held_add (h : draft.add isFile isLast piece = .ok next) : next.held = [] := by
  simp only [add] at h
  generalize (if piece.text = [] then draft else draft.closeDrive) = ready at h
  split_ifs at h <;> obtain rfl := Except.ok.inj h <;> first | rfl | assumption

/-- Only the first piece can have no meaning. -/
@[simp]
theorem addAll_eq_error_iff {pieces : List Piece} : draft.addAll isFile pieces = .error cause ↔
    cause = .dotsBehindDrive ∧ draft.finished ≠ [] ∧ draft.held ≠ [] ∧
      ∃ piece ∈ pieces.head?, isDoubleDot piece.text = true := by
  induction pieces generalizing draft with
  | nil => simp [addAll]
  | cons piece pieces ih =>
    cases added : draft.add isFile pieces.isEmpty piece with
    | error other =>
      have stops : draft.addAll isFile (piece :: pieces) = .error other := by
        rw [addAll, added]
        rfl
      obtain ⟨rfl, finished, held, dots⟩ := add_eq_error_iff.1 added
      rw [stops, Except.error.injEq]
      exact ⟨fun same => ⟨same.symm, finished, held, piece, rfl, dots⟩, fun h => h.1.symm⟩
    | ok next =>
      have goes : draft.addAll isFile (piece :: pieces) = next.addAll isFile pieces := by
        rw [addAll, added]
        rfl
      rw [goes, ih]
      constructor
      · rintro ⟨-, -, held, -⟩
        exact absurd (held_add added) held
      · rintro ⟨rfl, finished, held, first, same, dots⟩
        obtain rfl := Option.some.inj same
        have stops : draft.add isFile pieces.isEmpty piece = .error .dotsBehindDrive :=
          add_eq_error_iff.2 ⟨rfl, finished, held, dots⟩
        rw [added] at stops
        cases stops

end Draft
/-- A path whose last segment is a drive with something before it. -/
def EndsInDrive (segments : List Text) : Prop :=
  ∃ before drive, segments = before ++ [drive] ∧ before ≠ [] ∧ isNormalDrive drive = true

theorem endsInDrive_iff {segments : List Text} : EndsInDrive segments ↔
    (Draft.ofBase true segments).finished ≠ [] ∧
      (Draft.ofBase true segments).held ≠ [] := by
  cases segments using List.reverseRecOn with
  | nil => simp [EndsInDrive, Draft.ofBase]
  | append_singleton before last =>
    have held : (if isNormalDrive last = true then last else []) ≠ [] ↔
        isNormalDrive last = true := by
      split
      next drive =>
        refine iff_of_true ?_ drive
        rintro rfl
        cases drive
      next other => simp [other]
    simp only [Draft.ofBase, List.reverse_append, List.reverse_singleton,
      List.singleton_append, Bool.true_and, held]
    constructor
    · rintro ⟨front, drive, same, some_front, normal⟩
      obtain ⟨rfl, rfl⟩ := List.append_singleton_inj.1 same
      exact ⟨by simpa using some_front, normal⟩
    · rintro ⟨some_front, normal⟩
      exact ⟨before, last, rfl, by simpa using some_front, normal⟩

/-- A text without the characters that do not count is cut where the text is. -/
theorem filter_takeWhile {p : Char → Bool} (h : ∀ c, counts c = false → p c = true)
    (text : Text) : (text.takeWhile p).filter counts =
      (text.filter counts).takeWhile p := by
  induction text with
  | nil => rfl
  | cons c text ih =>
    cases counted : counts c with
    | true => cases hp : p c <;> simp [counted, hp, ih]
    | false => simp [counted, h c counted, ih]

theorem toNat_of_isAlpha {c : Char} (h : c.isAlpha = true) : 65 ≤ c.toNat ∧ c.toNat ≤ 122 := by
  change (decide (65 ≤ c.val ∧ c.val ≤ 90) || (decide (97 ≤ c.val) && decide (c.val ≤ 122))) =
    true at h
  simp only [Bool.or_eq_true, Bool.and_eq_true, decide_eq_true_eq, UInt32.le_iff_toNat_le] at h
  change 65 ≤ c.val.toNat ∧ c.val.toNat ≤ 122
  obtain upper | lower := h
  · exact ⟨upper.1, upper.2.trans (by decide)⟩
  · exact ⟨le_trans (by decide) lower.1, lower.2⟩

theorem toNat_le_toLower (c : Char) : c.toNat ≤ c.toLower.toNat := by
  unfold Char.toLower
  split
  next upper =>
    have bound := UInt32.le_iff_toNat_le.1 upper.2
    change c.val.toNat ≤ (c.val + 32).toNat
    rw [UInt32.toNat_add]
    simp only [Char.reduceVal, UInt32.reduceToNat] at bound ⊢
    omega
  next => exact le_rfl

theorem pathSet_of_isAlpha {c : Char} (h : c.isAlpha = true) :
    ¬ c.toNat ≥ 0x80 ∧ Percent.pathSet c = false := by
  have bounds := toNat_of_isAlpha h
  refine ⟨by omega, Bool.eq_false_iff.2 fun set => ?_⟩
  simp only [Percent.pathSet, Percent.fragmentSet, Percent.controls, Bool.or_eq_true,
    decide_eq_true_eq, beq_iff_eq, List.mem_cons, List.not_mem_nil, or_false] at set
  obtain ((low | del) | mark) | mark := set
  · omega
  · omega
  · rcases mark with rfl | rfl | rfl | rfl | rfl <;> cases h
  · rcases mark with rfl | rfl | rfl | rfl <;> cases h

/-- A drive starts with a letter, which stays as it is. -/
theorem isDoubleDot_encode_drive {piece : Text} (h : isDrive piece = true) :
    isDoubleDot (Percent.encode Percent.pathSet piece) = false := by
  unfold isDrive at h
  split at h
  case h_2 => cases h
  next letter mark =>
    rw [Bool.and_eq_true] at h
    have kept : Percent.encode Percent.pathSet [letter, mark] =
        letter :: Percent.encode Percent.pathSet [mark] := by
      simp [Percent.encode, pathSet_of_isAlpha h.1]
    have other (c : Char) (hc : c.toNat < 65) : letter.toLower ≠ c := by
      rintro rfl
      have first := (toNat_of_isAlpha h.1).1
      have lower := toNat_le_toLower letter
      omega
    rw [kept, Bool.eq_false_iff]
    intro dots
    simp [isDoubleDot, dotSpellings, Text.lowerAscii,
      other '.' (by decide), other '%' (by decide)] at dots

end UrlPath
end HttpContract
