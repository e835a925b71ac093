import HttpContract.Proofs.Text.Basic
import Mathlib.Data.List.Forall2

/-! Patterns of text, as search expressions describe them, and the search for them that tries one
way after the other. A search finds all ways to match, so that something is found exactly if the
text has the pattern; only which way comes first depends on the order of the attempts. -/
namespace HttpContract

/-- A word, one character of a class or more of them, one of two patterns, or both in a row. -/
inductive Pattern where
  | word (text : Text)
  | run (accepts : Char → Bool)
  | either (first second : Pattern)
  | both (first second : Pattern)

namespace Pattern

def Matches : Pattern → Text → Prop
  | word text, piece => piece = text
  | run accepts, piece => piece ≠ [] ∧ ∀ c ∈ piece, accepts c = true
  | either first second, piece => first.Matches piece ∨ second.Matches piece
  | both first second, piece =>
    ∃ front back, piece = front ++ back ∧ first.Matches front ∧ second.Matches back

/-- The runs at the start of a text, each with what follows it; the longest comes first. -/
def runs (accepts : Char → Bool) : Text → List (Text × Text)
  | [] => []
  | c :: text =>
    if accepts c then
      (runs accepts text).map (fun (piece, rest) => (c :: piece, rest)) ++ [([c], text)]
    else []

/-- The ways to match a pattern with the start of a text, in the order of the attempts: long runs
before short ones, and the first of two patterns before the second. -/
def ways : Pattern → Text → List (Text × Text)
  | word start, text => (Text.strip? start text).toList.map fun rest => (start, rest)
  | run accepts, text => runs accepts text
  | either first second, text => first.ways text ++ second.ways text
  | both first second, text => (first.ways text).flatMap fun (front, behind) =>
      (second.ways behind).map fun (back, rest) => (front ++ back, rest)

/-- The ways to cut a whole text into pieces that have the patterns one by one. -/
def cuts : List Pattern → Text → List (List Text)
  | [], text => if text = [] then [[]] else []
  | pattern :: patterns, text => (pattern.ways text).flatMap fun (piece, rest) =>
      (cuts patterns rest).map fun pieces => piece :: pieces

/-- What stands before the leftmost place from which on a text has the patterns up to its end. -/
def cutEnd (patterns : List Pattern) : Text → Text
  | [] => []
  | c :: text => if cuts patterns (c :: text) = [] then c :: cutEnd patterns text else []

@[simp] theorem mem_runs_iff {accepts : Char → Bool} {text piece rest : Text} :
    (piece, rest) ∈ runs accepts text ↔
      text = piece ++ rest ∧ piece ≠ [] ∧ ∀ c ∈ piece, accepts c = true := by
  induction text generalizing piece rest with
  | nil => cases piece <;> simp [runs]
  | cons c text ih =>
    by_cases h : accepts c = true
    · simp only [runs, h, if_true, List.mem_append, List.mem_map, List.mem_singleton, Prod.exists,
        Prod.mk.injEq, ih]
      constructor
      · rintro (⟨_, _, ⟨rfl, _, more⟩, rfl, rfl⟩ | ⟨rfl, rfl⟩)
        · simpa [h] using more
        · simp [h]
      · rintro ⟨cut, shown, all⟩
        cases piece with
        | nil => exact absurd rfl shown
        | cons first piece =>
          obtain ⟨rfl, rfl⟩ := List.cons.inj cut
          -- The shortest run is this character; every other one goes on with a run behind it.
          by_cases last : piece = []
          · simp [last]
          · exact .inl ⟨piece, rest, ⟨rfl, last, fun d hd => all d (by simp [hd])⟩, rfl, rfl⟩
    · have none_read : runs accepts (c :: text) = [] := by simp [runs, h]
      rw [none_read]
      cases piece with
      | nil => simp
      | cons first piece =>
        simp only [List.not_mem_nil, false_iff, List.cons_append, List.cons.injEq, not_and]
        rintro ⟨rfl, -⟩ - all
        exact h (all c (by simp))

@[simp] theorem mem_ways_iff {pattern : Pattern} {text piece rest : Text} :
    (piece, rest) ∈ pattern.ways text ↔ text = piece ++ rest ∧ pattern.Matches piece := by
  induction pattern generalizing text piece rest with
  | word start =>
    simp only [ways, Matches, List.mem_map, Option.mem_toList, Text.strip?_eq_some_iff,
      Prod.mk.injEq]
    constructor
    · rintro ⟨_, rfl, rfl, rfl⟩
      exact ⟨rfl, rfl⟩
    · rintro ⟨rfl, rfl⟩
      exact ⟨rest, rfl, rfl, rfl⟩
  | run accepts => exact mem_runs_iff
  | either first second ihf ihs =>
    simp only [ways, Matches, List.mem_append, ihf, ihs, and_or_left]
  | both first second ihf ihs =>
    simp only [ways, Matches, List.mem_flatMap, List.mem_map, Prod.exists, Prod.mk.injEq, ihf, ihs]
    constructor
    · rintro ⟨front, behind, ⟨rfl, hf⟩, back, _, ⟨rfl, hs⟩, rfl, rfl⟩
      exact ⟨by simp, front, back, rfl, hf, hs⟩
    · rintro ⟨rfl, front, back, rfl, hf, hs⟩
      exact ⟨front, back ++ rest, ⟨by simp, hf⟩, back, rest, ⟨rfl, hs⟩, rfl, rfl⟩

/-- A long run is tried before a short one. -/
example : (both (run Char.isDigit) (either (word "a") (word ""))).ways "12ab" =
    ([("12a", "b"), ("12", "ab"), ("1", "2ab")] : List (Text × Text)) := by decide

@[simp] theorem mem_cuts_iff {patterns : List Pattern} {text : Text} {pieces : List Text} :
    pieces ∈ cuts patterns text ↔ text = pieces.flatten ∧ List.Forall₂ Matches patterns pieces := by
  induction patterns generalizing text pieces with
  | nil =>
    rw [List.forall₂_nil_left_iff, cuts]
    by_cases h : text = []
    · simp only [h, if_true, List.mem_singleton]
      exact ⟨fun none_cut => ⟨by simp [none_cut], none_cut⟩, fun hp => hp.2⟩
    · simp only [h, if_false, List.not_mem_nil, false_iff, not_and]
      rintro cut rfl
      exact h cut
  | cons pattern patterns ih =>
    simp only [cuts, List.mem_flatMap, List.mem_map, Prod.exists, mem_ways_iff, ih]
    constructor
    · rintro ⟨piece, rest, ⟨rfl, hp⟩, pieces, ⟨rfl, more⟩, rfl⟩
      exact ⟨rfl, .cons hp more⟩
    · rintro ⟨rfl, _ | ⟨hp, more⟩⟩
      exact ⟨_, _, ⟨rfl, hp⟩, _, ⟨rfl, more⟩, rfl⟩

section

variable {patterns : List Pattern}

theorem cutEnd_eq_self {text : Text} (h : ∀ back, back <:+ text → cuts patterns back = []) :
    cutEnd patterns text = text := by
  induction text with
  | nil => rfl
  | cons c text ih =>
    have later := ih fun back hb => h back (hb.trans (List.suffix_cons c text))
    rw [cutEnd, if_pos (h _ List.suffix_rfl), later]

theorem cutEnd_append {front back : Text} (some_back : back ≠ []) (found : cuts patterns back ≠ [])
    (leftmost : ∀ more, more ≠ [] → more <:+ front → cuts patterns (more ++ back) = []) :
    cutEnd patterns (front ++ back) = front := by
  induction front with
  | nil =>
    obtain ⟨c, back, rfl⟩ := List.exists_cons_of_ne_nil some_back
    rw [List.nil_append, cutEnd, if_neg found]
  | cons c front ih =>
    have later := ih fun more hm hs => leftmost more hm (hs.trans (List.suffix_cons c front))
    have missed := leftmost (c :: front) (List.cons_ne_nil _ _) List.suffix_rfl
    rw [List.cons_append] at missed ⊢
    rw [cutEnd, if_pos missed, later]

end

end Pattern
end HttpContract
