import HttpContract.Proofs.Text.Basic
import HttpContract.Unicode.LowerCase

/-! Lower-casing up to the form of the sigma: it takes every character by itself, whatever stands
around it, and does not see the case of ASCII letters. -/
namespace HttpContract
namespace Unicode

def mergeSigma (c : Char) : Char := if c = 'ς' then 'σ' else c

/-- The lower-case form that a character has in every context. -/
def lowerPlain (c : Char) : Text := (lowerChar c).map mergeSigma

@[simp] theorem map_mergeSigma_lowerAfter (before text : List Char) :
    (lowerAfter before text).map mergeSigma = text.flatMap lowerPlain := by
  induction text generalizing before with
  | nil => rfl
  | cons c text ih =>
    rw [lowerAfter, List.map_append, ih, List.flatMap_cons]
    congr 1
    split
    next sigma =>
      subst sigma
      split <;> decide
    next => rfl

@[simp] theorem map_mergeSigma_lower (text : Text) :
    (lower text).map mergeSigma = text.flatMap lowerPlain := map_mergeSigma_lowerAfter [] text

@[simp] theorem lowerPlain_toLower (c : Char) : lowerPlain c.toLower = lowerPlain c := by
  have letters : Text.upperLetters.all fun c => lowerPlain c.toLower = lowerPlain c := by decide
  by_cases h : c ∈ Text.upperLetters
  · exact of_decide_eq_true (List.all_eq_true.1 letters c h)
  · rw [Text.toLower_eq_self h]

@[simp] theorem map_mergeSigma_lower_lowerAscii (text : Text) :
    (lower (Text.lowerAscii text)).map mergeSigma = (lower text).map mergeSigma := by
  simp only [map_mergeSigma_lower, Text.lowerAscii, List.flatMap_map, lowerPlain_toLower]

@[simp] theorem map_mergeSigma_eq_self {text : Text} (h : ∀ c ∈ text, mergeSigma c ≠ 'σ') :
    text.map mergeSigma = text := by
  have fixed : ∀ c ∈ text, mergeSigma c = c := by
    intro c hc
    have other := h c hc
    unfold mergeSigma at other ⊢
    split at other
    · exact absurd rfl other
    next final => rw [if_neg final]
  rw [List.map_congr_left fixed, List.map_id']

/-- No lower-case sigma is in the text. -/
def IsPlain (text : Text) : Prop := ∀ c ∈ text, c ≠ 'σ' ∧ c ≠ 'ς'

theorem infix_map_mergeSigma_iff {part text : Text} (h : IsPlain part) :
    part <:+: text.map mergeSigma ↔ part <:+: text := by
  constructor
  · intro found
    obtain ⟨piece, inside, rfl⟩ := List.infix_map_iff.1 found
    have same : piece.map mergeSigma = piece :=
      map_mergeSigma_eq_self fun c hc => (h _ (List.mem_map_of_mem hc)).1
    rwa [same]
  · intro found
    have same : part.map mergeSigma = part := map_mergeSigma_eq_self fun c hc => by
      rw [mergeSigma, if_neg (h c hc).2]
      exact (h c hc).1
    exact same ▸ found.map mergeSigma

theorem infix_lower_iff {part : Text} (h : IsPlain part) (text : Text) :
    part <:+: lower text ↔ part <:+: text.flatMap lowerPlain := by
  rw [← map_mergeSigma_lower, infix_map_mergeSigma_iff h]

theorem infix_lower_append {part text : Text} (h : IsPlain part) (before behind : Text)
    (found : part <:+: lower text) : part <:+: lower (before ++ text ++ behind) := by
  rw [infix_lower_iff h] at found ⊢
  rw [List.flatMap_append, List.flatMap_append]
  exact found.trans ⟨_, _, rfl⟩

theorem infix_lower_of_lowerAscii_eq {part text other : Text} (h : IsPlain part)
    (same : Text.lowerAscii text = Text.lowerAscii other) :
    part <:+: lower text ↔ part <:+: lower other := by
  rw [← infix_map_mergeSigma_iff h, ← map_mergeSigma_lower_lowerAscii, same,
    map_mergeSigma_lower_lowerAscii, infix_map_mergeSigma_iff h]

end Unicode
end HttpContract
