import HttpContract.Proofs.Text.Lines
import HttpContract.Proofs.Url.Path
import HttpContract.Transport.Request

/-! When a target breaks a run off: double dots right behind the drive of a file. -/
namespace HttpContract

/-- A reading that double dots do not break off. -/
def Settles {α : Type} (reading : Except UrlError α) : Prop := reading ≠ .error .dotsBehindDrive

section

variable {α β : Type} {reading : Except UrlError α}

@[simp] theorem settles_ok (a : α) : Settles (.ok a : Except UrlError α) := nofun

@[simp] theorem settles_error_iff {cause : UrlError} :
    Settles (.error cause : Except UrlError α) ↔ cause ≠ .dotsBehindDrive := by simp [Settles]

theorem Settles.bind {next : α → Except UrlError β} (h : Settles reading)
    (hn : ∀ a, Settles (next a)) : Settles (reading >>= next) := by
  cases reading with
  | error cause => exact settles_error_iff.2 (settles_error_iff.1 h)
  | ok a => exact hn a

/-- A check that ends the reading for a reason of its own. -/
theorem Settles.unless {p : Prop} [Decidable p] {cause : UrlError} {next : Unit → Except UrlError α}
    (h : Settles (next ())) (hc : cause ≠ .dotsBehindDrive) :
    Settles (if p then throw cause >>= next else next ()) := by
  split
  · exact settles_error_iff.2 hc
  · exact h

theorem Settles.map {f : α → β} (h : Settles reading) : Settles (f <$> reading) := by
  cases reading with
  | error cause => exact settles_error_iff.2 (settles_error_iff.1 h)
  | ok a => exact settles_ok _

end

theorem UrlPath.settles_ofText {special : Bool} {draft : Draft} (h : draft.held = [])
    (text : Text) : Settles (ofText special draft text) := by
  refine Settles.map fun broken => ?_
  exact (Draft.addAll_eq_error_iff.1 broken).2.2.1 h

namespace Host

@[simp] theorem settles_bracketed? (inside : Text) : Settles (bracketed? inside) := by
  simp only [bracketed?]
  split <;> [split; skip] <;> simp

@[simp] theorem settles_special [DomainNames] (text : Text) : Settles (special text) := by
  simp only [special]
  split
  · exact settles_bracketed? _
  · split
    · simp
    · split_ifs
      · simp
      · simp
      · split <;> simp
      · simp

@[simp] theorem settles_opaqueHost (text : Text) : Settles (opaqueHost text) := by
  simp only [opaqueHost]
  split
  · exact settles_bracketed? _
  · split <;> simp

end Host

namespace Url

@[simp] theorem settles_port? (scheme written : Text) : Settles (port? scheme written) := by
  simp only [port?]
  split_ifs
  · simp
  · split
    · simp
    · split_ifs <;> simp

section

variable [DomainNames]

@[simp] theorem settles_ofAuthority (scheme rest : Text) : Settles (ofAuthority scheme rest) := by
  unfold ofAuthority
  extract_lets special
  split
  extract_lets written behind
  split
  extract_lets withHost
  refine .unless ?_ (by decide)
  unfold withHost
  split
  split
  extract_lets portDigits pathText behindHost readHost
  refine .unless ?_ (by decide)
  have settled (host : Host) : Settles (behindHost host) := by
    refine .bind (settles_port? _ _) fun port => ?_
    extract_lets finish readPath
    have finished (segments : List Text) : Settles (finish segments) := settles_ok _
    refine .unless ?_ (by decide)
    unfold readPath
    clear_value pathText
    split
    · exact .bind (settles_ok _) finished
    · split
      · exact .bind (UrlPath.settles_ofText rfl _) finished
      · exact .bind (UrlPath.settles_ofText rfl _) finished
  unfold readHost
  split
  · exact .bind (Host.settles_special _) settled
  · exact .bind (Host.settles_opaqueHost _) settled

@[simp]
theorem settles_ofPlainScheme (scheme rest : Text) : Settles (ofPlainScheme scheme rest) := by
  unfold ofPlainScheme
  split
  · exact settles_ofAuthority _ _
  · split
    extract_lets finish
    have finished (path : UrlPath) : Settles (finish path) := settles_ok _
    split
    · exact .bind (.map (UrlPath.settles_ofText rfl _)) finished
    · exact .bind (settles_ok _) finished

@[simp] theorem settles_ofRelative (base : Url) (segments : List Text) (text : Text) :
    Settles (ofRelative base segments text) := by
  unfold ofRelative
  extract_lets special
  split
  extract_lets withPath
  have settled (draft : UrlPath.Draft) (h : draft.held = []) (path : Text) :
      Settles (withPath draft path) :=
    .bind (UrlPath.settles_ofText h _) fun _ => settles_ok _
  split
  · exact settles_ok _
  · split
    · split
      · split
        · exact settles_ofAuthority _ _
        · exact settled _ rfl _
      · exact settled _ rfl _
    · refine settled _ ?_ _
      unfold UrlPath.Draft.ofBase
      split <;> rfl

end

/-- A character that neither ends the path nor stands in what follows it. -/
def isPathChar (c : Char) : Bool := c != '?' && c != '#'

@[simp] theorem splitTail_fst (special : Bool) (text : Text) :
    (splitTail special text).1 = text.takeWhile isPathChar := by
  have both : text.takeWhile isPathChar = (text.takeWhile (· != '#')).takeWhile (· != '?') := by
    rw [List.takeWhile_takeWhile]
    refine congrArg (List.takeWhile · text) (funext fun c => ?_)
    rw [Bool.eq_iff_iff]
    simp [isPathChar]
  rw [both, Text.takeWhile_eq_splitFirst? '?', Text.takeWhile_eq_splitFirst? '#']
  unfold splitTail
  cases hash : Text.splitFirst? '#' text with
  | none => cases mark : Text.splitFirst? '?' text <;> simp [mark]
  | some parts => cases mark : Text.splitFirst? '?' parts.1 <;> simp [mark]

def firstPiece (text : Text) : Text := (text.takeWhile isPathChar).takeWhile (!isSlash ·)

theorem takeWhile_slashed (text : Text) :
    (text.map fun c => if c = '\\' then '/' else c).takeWhile (· != '/') =
      text.takeWhile (!isSlash ·) := by
  induction text with
  | nil => rfl
  | cons c text ih =>
    by_cases back : c = '\\'
    · simp [back, isSlash]
    · by_cases slash : c = '/' <;> simp [back, slash, isSlash, ih]

section

variable {base : Option Url} {written text : Text} (same : written.filter UrlPath.counts = text)

include same

/-- What is read first of a reference that is no path of its own. -/
theorem exists_firstPiece : ∃ piece : UrlPath.Piece,
    (UrlPath.Piece.listOf true (written.takeWhile isPathChar)).head? = some piece ∧
      piece.text = Percent.encode Percent.pathSet (firstPiece text) := by
  refine ⟨_, by rw [UrlPath.Piece.listOf, List.head?_map, Text.head?_splitAt]; rfl, ?_⟩
  have uncounted (c : Char) (h : UrlPath.counts c = false) :
      isPathChar c = true ∧ (!isSlash c) = true := by
    simp only [UrlPath.counts, Bool.not_eq_false', Bool.or_eq_true, beq_iff_eq] at h
    obtain (rfl | rfl) | rfl := h <;> decide
  rw [firstPiece, ← same, ← UrlPath.filter_takeWhile fun c h => (uncounted c h).1,
    ← UrlPath.filter_takeWhile fun c h => (uncounted c h).2]
  simp only [UrlPath.Piece.ofWritten, if_true, takeWhile_slashed]

variable [DomainNames]

theorem settles_ofFile (h : UrlPath.EndsInDrive ((base.bind segments?).getD []) →
      UrlPath.isDoubleDot (Percent.encode Percent.pathSet (firstPiece text)) = false) :
    Settles (ofFile base written text) := by
  unfold ofFile
  split
  extract_lets baseSegments baseHost noHost built file read startsWithDrive
  have builds (draft : UrlPath.Draft) (hd : draft.finished = [] ∨ draft.held = []) (path : Text) :
      Settles (built draft path) := fun broken => by
    obtain ⟨-, finished, held, -⟩ := UrlPath.Draft.addAll_eq_error_iff.1 broken
    exact hd.elim finished held
  have reads (host : Host) (draft : UrlPath.Draft) (hd : draft.finished = [] ∨ draft.held = [])
      (path : Text) : Settles (read host draft path) := .map (builds draft hd path)
  split
  · split
    · exact reads _ _ (.inl rfl) _
    · exact settles_ok _
  · split
    · split
      · exact reads _ _ (.inl rfl) _
      · -- The base lends its path here, and with it perhaps a drive.
        refine .map fun broken => ?_
        obtain ⟨-, finished, held, piece, first, dots⟩ :=
          UrlPath.Draft.addAll_eq_error_iff.1 broken
        obtain ⟨piece', first', text'⟩ := exists_firstPiece same
        rw [Nat.sub_self, dropCounted] at first
        obtain rfl : piece' = piece := Option.some.inj (first'.symm.trans first)
        rw [text', h (UrlPath.endsInDrive_iff.2 ⟨finished, held⟩)] at dots
        cases dots
    · split
      · extract_lets behind hostText rest readHost
        split
        · exact reads _ _ (.inl rfl) _
        · have readsHost (host : Host) : Settles (readHost host) := by
            unfold readHost
            split
            · exact reads _ _ (.inl rfl) _
            · exact .bind (builds _ (.inl rfl) _) fun _ => settles_ok _
          split
          · exact .bind (settles_ok _) readsHost
          · exact .bind (Host.settles_special _) readsHost
      · split
        · exact reads _ _ (.inl rfl) _
        · split
          · exact reads _ _ (.inl rfl) _
          · exact reads _ _ (.inl rfl) _

theorem ofFile_eq_dots (drive : UrlPath.EndsInDrive ((base.bind segments?).getD []))
    (dots : UrlPath.isDoubleDot (Percent.encode Percent.pathSet (firstPiece text)) = true) :
    ofFile base written text = .error .dotsBehindDrive := by
  obtain ⟨finished, held⟩ := UrlPath.endsInDrive_iff.1 drive
  obtain ⟨piece, first, text'⟩ := exists_firstPiece same
  unfold ofFile
  split
  next before query fragment tail =>
  have path : before = text.takeWhile isPathChar := by rw [← splitTail_fst true, tail]
  extract_lets baseSegments baseHost noHost built file read startsWithDrive
  have piece_eq : firstPiece text = before.takeWhile (!isSlash ·) := by rw [path]; rfl
  split
  next =>
    rw [piece_eq] at dots
    cases dots
  next c rest =>
    have clear : (!isSlash c) = true := by
      by_contra slash
      have none : (c :: rest).takeWhile (!isSlash ·) = [] := List.takeWhile_cons_of_neg slash
      rw [piece_eq, none] at dots
      cases dots
    have apart : ¬ startsWithDrive (c :: rest) = true := fun other => by
      rw [piece_eq, UrlPath.isDoubleDot_encode_drive other] at dots
      cases dots
    have broken : built (.ofBase true baseSegments) (c :: rest) = .error .dotsBehindDrive := by
      refine UrlPath.Draft.addAll_eq_error_iff.2 ⟨rfl, finished, held, piece, ?_, text' ▸ dots⟩
      rw [Nat.sub_self, dropCounted]
      exact first
    rw [if_pos clear, if_neg apart]
    exact congrArg (file baseHost <$> ·) broken

theorem ofFile_eq_dots_iff : ofFile base written text = .error .dotsBehindDrive ↔
    UrlPath.EndsInDrive ((base.bind segments?).getD []) ∧
      UrlPath.isDoubleDot (Percent.encode Percent.pathSet (firstPiece text)) = true := by
  refine ⟨fun broken => ?_, fun h => ofFile_eq_dots same h.1 h.2⟩
  by_contra other
  refine settles_ofFile same (fun drive => ?_) broken
  exact Bool.eq_false_iff.2 fun dots => other ⟨drive, dots⟩

end

@[simp] theorem filter_dropCounted (number : Nat) (written : Text) :
    (dropCounted number written).filter UrlPath.counts =
      (written.filter UrlPath.counts).drop number := by
  fun_induction dropCounted number written with
  | case1 => rfl
  | case2 => rfl
  | case3 number c text counted ih => simp [counted, ih]
  | case4 number c text other ih => simp [other, ih]

theorem scheme?_suffix {text scheme rest : Text} (h : scheme? text = some (scheme, rest)) :
    text.drop (text.length - rest.length) = rest := by
  unfold scheme? at h
  split at h
  · cases h
  · split at h
    · cases h
    · split at h
      · cases h
      next written behind cut =>
        split at h
        · obtain ⟨-, rfl⟩ := Prod.mk.inj (Option.some.inj h)
          have front : written ++ ':' :: behind = written ++ [':'] ++ behind := by simp
          rw [(Text.splitFirst?_eq_some_iff.1 cut).1, front, List.length_append, Nat.add_sub_cancel,
            List.drop_left]
        · cases h

/-- What is read relative to a base that is a file, if anything is. -/
def fileReference? (target : Text) : Option Text :=
  let text := (trimEdges target).filter UrlPath.counts
  match scheme? text with
  | none => some text
  | some (scheme, rest) => if scheme = "file" then some rest else none

/-- The base is a file whose path ends in a drive behind something else, and the target starts with
double dots. -/
structure ClimbsFromDrive (base : Url) (target : Text) : Prop where
  file : base.scheme = "file"
  drive : UrlPath.EndsInDrive (base.segments?.getD [])
  dots : ∃ reference ∈ fileReference? target,
    UrlPath.isDoubleDot (Percent.encode Percent.pathSet (firstPiece reference)) = true

theorem climbsFromDrive_iff {base : Url} {target reference : Text}
    (h : fileReference? target = some reference) : ClimbsFromDrive base target ↔
      base.scheme = "file" ∧ UrlPath.EndsInDrive (base.segments?.getD []) ∧
        UrlPath.isDoubleDot (Percent.encode Percent.pathSet (firstPiece reference)) = true := by
  constructor
  · rintro ⟨file, drive, _, found, dots⟩
    obtain rfl := Option.some.inj (h.symm.trans found)
    exact ⟨file, drive, dots⟩
  · rintro ⟨file, drive, dots⟩
    exact ⟨file, drive, reference, h, dots⟩

/-- The only targets that break a run off. -/
@[simp] theorem join_eq_dots_iff [DomainNames] {base : Url} {target : Text} :
    base.join target = .error .dotsBehindDrive ↔ ClimbsFromDrive base target := by
  have reference : fileReference? target = match scheme? ((trimEdges target).filter UrlPath.counts)
    with
    | none => some ((trimEdges target).filter UrlPath.counts)
    | some (scheme, rest) => if scheme = "file" then some rest else none := rfl
  unfold join parse
  extract_lets written text
  cases named : scheme? text with
  | some parts =>
    obtain ⟨scheme, rest⟩ := parts
    rw [named] at reference
    dsimp only at reference ⊢
    split
    next isFile =>
      rw [if_pos isFile] at reference
      have counted : (dropCounted (text.length - rest.length) written).filter UrlPath.counts =
          rest := by rw [filter_dropCounted, scheme?_suffix named]
      rw [climbsFromDrive_iff reference, ofFile_eq_dots_iff counted, isFile]
      by_cases file : base.scheme = "file"
      · simp only [Option.filter, file, beq_self_eq_true, if_true, Option.bind_some, true_and]
      · have apart : (some base).filter (fun base => base.scheme == ("file" : Text)) = none :=
          if_neg fun same => file (beq_iff_eq.1 same)
        rw [apart]
        refine iff_of_false (fun h => ?_) fun h => file h.1
        obtain ⟨⟨before, drive, same, -⟩, -⟩ := h
        cases before <;> cases same
    next other =>
      rw [if_neg other] at reference
      refine iff_of_false ?_ fun climbs => ?_
      · change Settles _
        split
        · split
          · split
            · exact settles_ofRelative _ _ _
            · exact settles_ofAuthority _ _
          · exact settles_ofAuthority _ _
        · exact settles_ofPlainScheme _ _
      · obtain ⟨_, found, -⟩ := climbs.dots
        rw [reference] at found
        cases found
  | none =>
    rw [named] at reference
    dsimp only at reference ⊢
    rw [climbsFromDrive_iff reference]
    split
    next hash =>
      refine iff_of_false (settles_ok _) fun ⟨_, _, dots⟩ => ?_
      have none : firstPiece text = [] := by rw [hash]; rfl
      rw [none] at dots
      cases dots
    next path _ =>
      refine iff_of_false (settles_error_iff.2 (by decide)) fun ⟨_, drive, _⟩ => ?_
      rw [path] at drive
      obtain ⟨before, drive, same, -⟩ := drive
      cases before <;> cases same
    next segments path _ =>
      split
      next file => rw [ofFile_eq_dots_iff rfl, and_iff_right file]; rfl
      next other => exact iff_of_false (settles_ofRelative _ _ _) fun h => other h.1

end Url
end HttpContract
