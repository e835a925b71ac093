import HttpContract.Proofs.Report.Markup

/-! What escaping writes: texts in which no bracket and no quote stands and each ampersand begins a
character reference. All texts of this kind are written by it, each for one text. -/
namespace HttpContract
namespace Markup

def marks : Text := ['&', '<', '>', '"', '\'']

def references : List Text := ["&amp;", "&lt;", "&gt;", "&quot;", "&#39;"]

/-- No mark but ampersands, and each ampersand begins a reference. -/
structure IsEscaped (written : Text) : Prop where
  ampersand : ∀ c ∈ written, c ∈ marks → c = '&'
  reference : ∀ behind, '&' :: behind <:+ written →
    ∃ reference ∈ references, reference <+: '&' :: behind

@[simp] theorem isEscaped_nil : IsEscaped [] := ⟨by simp, by simp⟩

theorem IsEscaped.of_suffix {written rest : Text} (h : IsEscaped written)
    (behind : rest <:+ written) : IsEscaped rest where
  ampersand c hc := h.ampersand c (behind.subset hc)
  reference _ hs := h.reference _ (hs.trans behind)

theorem isEscaped_cons_iff {c : Char} {rest : Text} : IsEscaped (c :: rest) ↔
    (c ∈ marks → c = '&' ∧ ∃ reference ∈ references, reference <+: c :: rest) ∧
      IsEscaped rest := by
  constructor
  · intro h
    refine ⟨fun mark => ?_, h.of_suffix (List.suffix_cons c rest)⟩
    obtain rfl := h.ampersand c (by simp) mark
    exact ⟨rfl, h.reference rest List.suffix_rfl⟩
  · rintro ⟨first, h⟩
    refine ⟨fun d hd mark => ?_, fun behind hs => ?_⟩
    · obtain rfl | hd := List.mem_cons.1 hd
      · exact (first mark).1
      · exact h.ampersand d hd mark
    · obtain own | hs := List.suffix_cons_iff.1 hs
      · obtain ⟨rfl, rfl⟩ := List.cons.inj own
        exact (first (by decide)).2
      · exact h.reference behind hs

theorem isEscaped_append {front rest : Text} (clear : ∀ c ∈ front, c ∉ marks)
    (h : IsEscaped rest) : IsEscaped (front ++ rest) := by
  induction front with
  | nil => exact h
  | cons c front ih =>
    rw [List.cons_append, isEscaped_cons_iff]
    exact ⟨fun mark => absurd mark (clear c (by simp)), ih fun d hd => clear d (by simp [hd])⟩

theorem escapeChar_cases (c : Char) :
    c ∈ marks ∧ escapeChar c ∈ references ∨ c ∉ marks ∧ escapeChar c = [c] := by
  unfold escapeChar
  split
  case h_6 => exact .inr ⟨by simp_all [marks], rfl⟩
  all_goals exact .inl (by decide)

theorem references_eq : references = marks.map escapeChar := by decide

/-- Behind its ampersand a reference has no marks. -/
theorem eq_cons_of_mem_references {reference : Text} (h : reference ∈ references) :
    reference = '&' :: reference.tail ∧ ∀ c ∈ reference.tail, c ∉ marks := by
  simp only [references, List.mem_cons, List.not_mem_nil, or_false] at h
  obtain rfl | rfl | rfl | rfl | rfl := h
  all_goals exact ⟨rfl, by simp [marks]⟩

@[simp] theorem length_escapeChar_pos (c : Char) : 0 < (escapeChar c).length := by
  obtain ⟨-, listed⟩ | ⟨-, own⟩ := escapeChar_cases c
  · rw [(eq_cons_of_mem_references listed).1]
    simp
  · simp [own]

theorem isEscaped_escapeChar (c : Char) {rest : Text} (h : IsEscaped rest) :
    IsEscaped (escapeChar c ++ rest) := by
  obtain ⟨-, listed⟩ | ⟨plain, own⟩ := escapeChar_cases c
  · obtain ⟨spelled, clear⟩ := eq_cons_of_mem_references listed
    have begins : escapeChar c <+: '&' :: ((escapeChar c).tail ++ rest) :=
      ⟨rest, by rw [← List.cons_append, ← spelled]⟩
    rw [spelled, List.cons_append, isEscaped_cons_iff]
    exact ⟨fun _ => ⟨rfl, _, listed, begins⟩, isEscaped_append clear h⟩
  · rw [own]
    exact isEscaped_append (by simpa using plain) h

@[simp] theorem isEscaped_escape (text : Text) : IsEscaped (escape text) := by
  induction text with
  | nil => exact isEscaped_nil
  | cons c text ih =>
    rw [escape_cons]
    exact isEscaped_escapeChar c ih

/-- An escaped text begins with what is written for one character. -/
theorem IsEscaped.exists_escapeChar {c : Char} {rest : Text} (h : IsEscaped (c :: rest)) :
    ∃ d behind, c :: rest = escapeChar d ++ behind ∧ IsEscaped behind := by
  obtain ⟨first, escaped⟩ := isEscaped_cons_iff.1 h
  by_cases mark : c ∈ marks
  · obtain ⟨-, reference, listed, behind, begins⟩ := first mark
    rw [references_eq] at listed
    obtain ⟨d, -, rfl⟩ := List.mem_map.1 listed
    exact ⟨d, behind, begins.symm, h.of_suffix ⟨_, begins⟩⟩
  · obtain ⟨other, -⟩ | ⟨-, own⟩ := escapeChar_cases c
    · exact absurd other mark
    · exact ⟨c, rest, by rw [own, List.singleton_append], escaped⟩

/-- An escaped text is written again as it is, once it has been read. -/
theorem escape_unescape {written : Text} (h : IsEscaped written) :
    escape (unescape written) = written := by
  match written with
  | [] => rfl
  | c :: rest =>
    obtain ⟨d, behind, cut, escaped⟩ := h.exists_escapeChar
    have shorter : behind.length < (c :: rest).length := by
      have shown := length_escapeChar_pos d
      rw [cut, List.length_append]
      omega
    rw [cut, unescape_escapeChar, escape_cons, escape_unescape escaped]
termination_by written.length
decreasing_by exact shorter

@[simp] theorem length_le_escape (text : Text) : text.length ≤ (escape text).length := by
  induction text with
  | nil => exact Nat.le_refl 0
  | cons c text ih =>
    have shown := length_escapeChar_pos c
    rw [escape_cons, List.length_append, List.length_cons]
    omega

/-- A text with a mark grows, since a reference has more than one character. -/
@[simp] theorem escape_eq_self_iff {text : Text} : escape text = text ↔ ∀ c ∈ text, c ∉ marks := by
  constructor
  · intro same c hc mark
    have longer : ∀ reference ∈ references, 1 < reference.length := by decide
    obtain ⟨-, listed⟩ | ⟨plain, -⟩ := escapeChar_cases c
    · obtain ⟨front, back, rfl⟩ := List.append_of_mem hc
      have grown := longer _ listed
      have front_kept := length_le_escape front
      have back_kept := length_le_escape back
      have total := congrArg List.length same
      rw [escape_append, escape_cons] at total
      simp only [List.length_append, List.length_cons] at total
      omega
    · exact plain mark
  · intro clear
    induction text with
    | nil => rfl
    | cons c text ih =>
      obtain ⟨mark, -⟩ | ⟨-, own⟩ := escapeChar_cases c
      · exact absurd mark (clear c (by simp))
      · rw [escape_cons, own, ih fun d hd => clear d (by simp [hd])]
        rfl

/-- Escaping leaves no bracket and no quote, and no ampersand that does not begin a reference. Read
from left to right the references give the text back, and of all the texts that are escaped in this
way only one is read as it. So texts that differ are written differently, those among them that look
escaped too. A text is escaped piece by piece, and it stays as it is exactly if it has no marks. -/
theorem escape_reversible (text : Text) :
    IsEscaped (escape text) ∧
    unescape (escape text) = text ∧
    (∀ written, IsEscaped written → unescape written = text → written = escape text) ∧
    (∀ other, escape other = escape text → other = text) ∧
    (∀ other, escape (text ++ other) = escape text ++ escape other) ∧
    (escape text = text ↔ ∀ c ∈ text, c ∉ marks) := by
  refine ⟨isEscaped_escape text, unescape_escape text, ?_, fun other same => ?_,
    escape_append text, escape_eq_self_iff⟩
  · rintro written escaped rfl
    exact (escape_unescape escaped).symm
  · rw [← unescape_escape other, same, unescape_escape]

/-- A text that looks escaped is not taken for what it looks like. -/
example : escape "&lt;" = ("&amp;lt;" : Text) ∧ escape "<" = ("&lt;" : Text) ∧
    unescape (escape "&lt;") = ("&lt;" : Text) := by decide

end Markup
end HttpContract
