import HttpContract.Proofs.Variables.Reference

/-! Where references stand in a text. No two of them share a character, so the scan from the left
meets every one of them, and interpolation replaces all of them at once. -/
namespace HttpContract

namespace TemplatePart

def IsName (name : Text) : Prop := name ≠ [] ∧ ∀ c ∈ name, isBrace c = false

/-- A reference to `name` stands in the text behind `start` characters. -/
def Occurs (text : Text) (start : Nat) (name : Text) : Prop :=
  IsName name ∧ source (.reference name) <+: text.drop start

/-- Behind the parts that add up to `start` characters stands a reference to `name`. -/
def IsPlaced (parts : List TemplatePart) (start : Nat) (name : Text) : Prop :=
  ∃ front back, parts = front ++ .reference name :: back ∧ (front.flatMap source).length = start

@[simp] theorem reference?_source_append {name : Text} (h : IsName name) (rest : Text) :
    reference? (source (.reference name) ++ rest) = some (name, rest) := by
  have inside : ∀ c ∈ name, (!isBrace c) = true := fun c hc => by simp [h.2 c hc]
  have closing : isBrace '\x7d' = true := rfl
  simp [source, reference?, List.takeWhile_append_of_pos inside,
    List.dropWhile_append_of_pos inside, closing, h.1]

theorem occurs_zero_iff {text name : Text} :
    Occurs text 0 name ↔ ∃ rest, reference? text = some (name, rest) := by
  constructor
  · rintro ⟨named, rest, rfl⟩
    exact ⟨rest, reference?_source_append named rest⟩
  · rintro ⟨rest, read⟩
    obtain ⟨rfl, named⟩ := reference?_eq_some read
    exact ⟨named, List.prefix_append _ _⟩

@[simp] theorem occurs_append_iff (front text : Text) (start : Nat) (name : Text) :
    Occurs (front ++ text) (front.length + start) name ↔ Occurs text start name := by
  rw [Occurs, Occurs, List.drop_length_add_append]

theorem Occurs.length_le {front text name : Text} {start : Nat}
    (h : Occurs (front ++ text) start name) (clear : '\x7b' ∉ front) : front.length ≤ start := by
  by_contra inside
  obtain ⟨rest, same⟩ := h.2
  have first : (front ++ text)[start]? = some '\x7b' := by
    rw [← List.head?_drop, ← same]
    rfl
  rw [List.getElem?_append_left (by omega)] at first
  exact clear (List.mem_of_getElem? first)

/-- Behind the start of a reference the next one starts where it ends, or later. -/
theorem occurs_source_append {name other rest : Text} {start : Nat} (named : IsName name)
    (h : Occurs (source (.reference name) ++ rest) start other) :
    start = 0 ∧ other = name ∨ (source (.reference name)).length ≤ start := by
  rcases start with _ | _ | start
  · left
    obtain ⟨_, read⟩ := occurs_zero_iff.1 h
    rw [reference?_source_append named] at read
    exact ⟨rfl, (Prod.mk.inj (Option.some.inj read)).1.symm⟩
  · -- The second brace is followed by the name, and a reference starts with two braces.
    obtain ⟨c, more, rfl⟩ := List.exists_cons_of_ne_nil named.1
    obtain ⟨behind, same⟩ := h.2
    have brace : c = '\x7b' := by
      simp [source] at same
      exact same.1.symm
    have plain := named.2 c (by simp)
    rw [brace] at plain
    cases plain
  · right
    have moved : source (.reference name) ++ rest =
        ['\x7b', '\x7b'] ++ (name ++ ['\x7d', '\x7d'] ++ rest) := by simp [source]
    have clear : '\x7b' ∉ name ++ ['\x7d', '\x7d'] := by
      intro inside
      rcases List.mem_append.1 inside with inside | inside
      · exact absurd (named.2 _ inside) (by decide)
      · exact absurd inside (by decide)
    rw [moved, show start + 1 + 1 = ['\x7b', '\x7b'].length + start by simp; omega,
      occurs_append_iff] at h
    have behind := h.length_le clear
    simp only [source, List.length_append, List.length_cons, List.length_nil] at behind ⊢
    omega

/-- Of two references in a text the first one ends before the second one starts. -/
theorem Occurs.disjoint {text name also : Text} {start other : Nat} (h : Occurs text start name)
    (ho : Occurs text other also) (before : start ≤ other) :
    start = other ∧ name = also ∨ start + (source (.reference name)).length ≤ other := by
  obtain ⟨named, rest, same⟩ := h
  obtain ⟨gap, rfl⟩ := Nat.exists_eq_add_of_le before
  have behind : Occurs (source (.reference name) ++ rest) gap also := by
    rw [same]
    exact ⟨ho.1, by simpa only [List.drop_drop] using ho.2⟩
  rcases occurs_source_append named behind with ⟨rfl, rfl⟩ | apart
  · exact .inl ⟨rfl, rfl⟩
  · exact .inr (by omega)

theorem isPlaced_cons_iff {part : TemplatePart} {parts : List TemplatePart} {start : Nat}
    {name : Text} : IsPlaced (part :: parts) start name ↔
      part = .reference name ∧ start = 0 ∨
        ∃ later, start = part.source.length + later ∧ IsPlaced parts later name := by
  constructor
  · rintro ⟨front, back, same, rfl⟩
    cases front with
    | nil => exact .inl ⟨(List.cons.inj same).1, rfl⟩
    | cons first front =>
      obtain ⟨rfl, rfl⟩ := List.cons.inj same
      exact .inr ⟨(front.flatMap source).length, by simp, front, back, rfl, rfl⟩
  · rintro (⟨rfl, rfl⟩ | ⟨later, rfl, front, back, rfl, rfl⟩)
    · exact ⟨[], parts, rfl, rfl⟩
    · exact ⟨part :: front, back, rfl, by simp⟩

/-- The parts that a text is cut into hold the references of the text, all of them. -/
theorem occurs_iff_isPlaced {text name : Text} {start : Nat} :
    Occurs text start name ↔ IsPlaced (ofText text) start name := by
  fun_induction ofText text generalizing start with
  | case1 text first rest read _ ih =>
    obtain ⟨same, named⟩ := reference?_eq_some read
    rw [isPlaced_cons_iff, same]
    constructor
    · intro h
      rcases occurs_source_append named h with ⟨rfl, rfl⟩ | behind
      · exact .inl ⟨rfl, rfl⟩
      · obtain ⟨later, rfl⟩ := Nat.exists_eq_add_of_le behind
        rw [occurs_append_iff] at h
        exact .inr ⟨later, rfl, ih.1 h⟩
    · rintro (⟨first_eq, rfl⟩ | ⟨later, rfl, placed⟩)
      · obtain rfl := TemplatePart.reference.inj first_eq
        exact ⟨named, List.prefix_append _ _⟩
      · exact (occurs_append_iff ..).2 (ih.2 placed)
  | case2 => simp [Occurs, IsPlaced, source]
  | case3 c rest unread ih =>
    rw [isPlaced_cons_iff]
    constructor
    · intro h
      cases start with
      | zero =>
        obtain ⟨_, read⟩ := occurs_zero_iff.1 h
        rw [unread] at read
        cases read
      | succ start =>
        exact .inr ⟨start, Nat.add_comm .., ih.1 h⟩
    · rintro (⟨other, -⟩ | ⟨later, rfl, placed⟩)
      · cases other
      · exact (occurs_append_iff [c] rest later name).2 (ih.2 placed)

theorem isPlaced_of_mem {parts : List TemplatePart} {name : Text} (h : .reference name ∈ parts) :
    ∃ start, IsPlaced parts start name := by
  obtain ⟨front, back, cut⟩ := List.append_of_mem h
  exact ⟨_, front, back, cut, rfl⟩

theorem IsPlaced.mem {parts : List TemplatePart} {start : Nat} {name : Text}
    (h : IsPlaced parts start name) : .reference name ∈ parts := by
  obtain ⟨front, back, rfl, -⟩ := h
  simp

theorem isName_of_mem_ofText {text name : Text} (h : .reference name ∈ ofText text) :
    IsName name := by
  obtain ⟨start, placed⟩ := isPlaced_of_mem h
  exact (occurs_iff_isPlaced.2 placed).1

theorem IsPlaced.lt {front back : List TemplatePart} {name later : Text} {other : Nat}
    (h : IsPlaced (front ++ .reference name :: back) other later)
    (absent : .reference later ∉ front) (apart : later ≠ name) :
    (front.flatMap source).length < other := by
  induction front generalizing other with
  | nil =>
    rcases isPlaced_cons_iff.1 h with ⟨same, -⟩ | ⟨rest, rfl, -⟩
    · exact absurd (TemplatePart.reference.inj same).symm apart
    · have shown := List.length_pos_iff.2 (source_ne_nil (.reference name))
      simp only [List.flatMap_nil, List.length_nil]
      omega
  | cons part front ih =>
    rcases isPlaced_cons_iff.1 h with ⟨same, -⟩ | ⟨rest, rfl, placed⟩
    · exact absurd (same ▸ List.mem_cons_self) absent
    · have behind := ih placed fun inside => absent (List.mem_cons_of_mem _ inside)
      simp only [List.flatMap_cons, List.length_append]
      omega

@[simp] theorem missing?_eq_some_iff {table : VariableTable} {part : TemplatePart} {name : Text} :
    part.missing? table = some name ↔ part = .reference name ∧ table.get? name = none := by
  cases part with
  | plain c => simp [missing?]
  | reference other =>
    rw [missing?, Option.ite_none_right_eq_some]
    constructor
    · rintro ⟨unknown, same⟩
      obtain rfl := Option.some.inj same
      exact ⟨rfl, by simpa using unknown⟩
    · rintro ⟨same, unknown⟩
      obtain rfl := TemplatePart.reference.inj same
      exact ⟨by simp [unknown], rfl⟩

end TemplatePart

namespace VariableTable

open TemplatePart

theorem mem_unresolved_iff {table : VariableTable} {text name : Text} :
    name ∈ (table.interpolate text).unresolved ↔
      table.get? name = none ∧ ∃ start, Occurs text start name := by
  rw [interpolate, Text.mem_distinct, List.mem_filterMap]
  constructor
  · rintro ⟨part, listed, missing⟩
    obtain ⟨rfl, unknown⟩ := missing?_eq_some_iff.1 missing
    obtain ⟨start, placed⟩ := isPlaced_of_mem listed
    exact ⟨unknown, start, occurs_iff_isPlaced.2 placed⟩
  · rintro ⟨unknown, start, h⟩
    exact ⟨_, (occurs_iff_isPlaced.1 h).mem, missing?_eq_some_iff.2 ⟨rfl, unknown⟩⟩

/-- Unresolved names are told in the order in which they first occur. -/
theorem pairwise_unresolved (table : VariableTable) (text : Text) :
    (table.interpolate text).unresolved.Pairwise fun name later =>
      ∃ start, Occurs text start name ∧ ∀ other, Occurs text other later → start < other := by
  refine (Text.pairwise_distinct _).imp_of_mem ?_
  rintro name later - listed ⟨apart, front, back, cut, absent⟩
  have unknown : table.get? later = none := (mem_unresolved_iff.1 listed).1
  obtain ⟨parts, others, same, rfl, behind⟩ := List.filterMap_eq_append_iff.1 cut
  obtain ⟨kept, part, rest, rfl, none_missing, missing, -⟩ := List.filterMap_eq_cons_iff.1 behind
  obtain ⟨rfl, -⟩ := missing?_eq_some_iff.1 missing
  rw [← List.append_assoc] at same
  refine ⟨((parts ++ kept).flatMap source).length,
    occurs_iff_isPlaced.2 ⟨parts ++ kept, rest, same, rfl⟩, fun other h => ?_⟩
  have placed := occurs_iff_isPlaced.1 h
  rw [same] at placed
  refine placed.lt (fun inside => ?_) apart
  have told := missing?_eq_some_iff.2 ⟨rfl, unknown⟩
  rcases List.mem_append.1 inside with inside | inside
  · exact absent (List.mem_filterMap.2 ⟨_, inside, told⟩)
  · rw [none_missing _ inside] at told
    cases told

/-- Interpolation replaces all references of a text at once. They do not overlap; each gives way to
the value of its name, which is not read again, or stays where there is none; all other characters
stay as they are. Each name without a value is told once, in the order of first occurrence. -/
theorem interpolate_replaces_all (table : VariableTable) (text : Text) :
    (∀ start name other also, Occurs text start name → Occurs text other also →
      start = other ∧ name = also ∨ start + (source (.reference name)).length ≤ other ∨
        other + (source (.reference also)).length ≤ start) ∧
    (∃ parts : List TemplatePart, parts.flatMap source = text ∧
      (∀ start name, Occurs text start name ↔ IsPlaced parts start name) ∧
      (table.interpolate text).text = parts.flatMap fun
        | .plain c => [c]
        | .reference name =>
          (table.get? name).getD (['\x7b', '\x7b'] ++ name ++ ['\x7d', '\x7d'])) ∧
    (table.interpolate text).unresolved.Nodup ∧
    (∀ name, name ∈ (table.interpolate text).unresolved ↔
      table.get? name = none ∧ ∃ start, Occurs text start name) ∧
    (table.interpolate text).unresolved.Pairwise fun name later =>
      ∃ start, Occurs text start name ∧ ∀ other, Occurs text other later → start < other := by
  refine ⟨fun start name other also h ho => ?_, ⟨ofText text, flatMap_source_ofText text,
    fun _ _ => occurs_iff_isPlaced, ?_⟩, Text.nodup_distinct _, fun _ => mem_unresolved_iff,
    pairwise_unresolved table text⟩
  · rcases Nat.le_total start other with before | before
    · exact (h.disjoint ho before).imp_right .inl
    · rcases ho.disjoint h before with ⟨rfl, rfl⟩ | apart
      · exact .inl ⟨rfl, rfl⟩
      · exact .inr (.inr apart)
  · rw [interpolate]
    refine congrArg (List.flatMap · _) (funext fun part => ?_)
    cases part <;> rfl

end VariableTable
end HttpContract
