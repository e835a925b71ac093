import HttpContract.Proofs.Definitions.Naming
import HttpContract.Proofs.Unicode.LowerCase
import Mathlib.Data.List.Find

/-! The status that a name promises: that of the first rule in the table that the name meets. More
text before or behind a name can only lead to an earlier rule, and the case of ASCII letters makes
no difference. -/
namespace HttpContract
namespace Naming

open Unicode

def StatusRule.IsMet (rule : StatusRule) (name : Text) : Prop :=
  ∃ needle ∈ rule.needles, needle <:+: lower name

/-- The rule stands behind `front` in the table, and it is the first one that the name meets. -/
structure IsChosen (name : Text) (front : List StatusRule) (rule : StatusRule) : Prop where
  listed : front ++ [rule] <+: statusRules
  met : rule.IsMet name
  first : ∀ earlier ∈ front, ¬ earlier.IsMet name

/-- The code of the chosen rule, or 200 if the name meets no rule. -/
def Promises (name : Text) (code : StatusCode) : Prop :=
  (∃ front rule, IsChosen name front rule ∧ rule.status = code) ∨
    (∀ rule ∈ statusRules, ¬ rule.IsMet name) ∧ code = 200

/-- The codes in the order of the rules, the default at the end. -/
def priorities : List StatusCode := [400, 404, 401, 200]

variable {name other : Text} {front : List StatusRule} {rule : StatusRule}

theorem isMet_iff : (rule.needles.any fun needle => Text.contains needle (lower name)) = true ↔
    rule.IsMet name := by
  simp only [List.any_eq_true, Text.contains_iff, StatusRule.IsMet]

theorem isPlain_needles {needle : Text} (listed : rule ∈ statusRules) (hn : needle ∈ rule.needles) :
    IsPlain needle := by
  have plain : statusRules.all fun rule => rule.needles.all fun needle => needle.all fun c =>
    c ≠ 'σ' ∧ c ≠ 'ς' := by decide
  have here := List.all_eq_true.1 (List.all_eq_true.1 plain rule listed) needle hn
  exact fun c hc => of_decide_eq_true (List.all_eq_true.1 here c hc)

theorem isMet_append (listed : rule ∈ statusRules) (before behind : Text)
    (met : rule.IsMet name) : rule.IsMet (before ++ name ++ behind) := by
  obtain ⟨needle, hn, found⟩ := met
  exact ⟨needle, hn, infix_lower_append (isPlain_needles listed hn) _ _ found⟩

theorem isMet_congr (listed : rule ∈ statusRules)
    (same : Text.lowerAscii name = Text.lowerAscii other) : rule.IsMet name ↔ rule.IsMet other :=
  exists_congr fun _ => and_congr_right fun hn =>
    infix_lower_of_lowerAscii_eq (isPlain_needles listed hn) same

theorem exists_promises (name : Text) : ∃ code, inferStatus name = [code] ∧ Promises name code := by
  refine ⟨_, rfl, ?_⟩
  cases found : statusRules.find? fun rule => rule.needles.any fun needle =>
    Text.contains needle (lower name) with
  | none =>
    rw [List.find?_eq_none] at found
    exact .inr ⟨fun rule listed met => found rule listed (isMet_iff.2 met), rfl⟩
  | some rule =>
    obtain ⟨met, front, back, cut, others⟩ := List.find?_eq_some_iff_append.1 found
    refine .inl ⟨front, rule, ⟨⟨back, ?_⟩, isMet_iff.1 met, fun earlier hf metEarlier => ?_⟩, rfl⟩
    · rw [cut, List.append_assoc, List.singleton_append]
    · have unmet := others earlier hf
      rw [isMet_iff.2 metEarlier] at unmet
      cases unmet

theorem IsChosen.mem (chosen : IsChosen name front rule) : rule ∈ statusRules :=
  chosen.listed.subset (by simp)

/-- A rule that is met keeps those behind it from being chosen. -/
theorem IsChosen.prefix_of_isMet {earlier : List StatusRule} {first : StatusRule}
    (chosen : IsChosen name front rule) (chosen' : IsChosen other earlier first)
    (met : rule.IsMet other) : earlier <+: front := by
  have here : front <+: statusRules := (List.prefix_append ..).trans chosen.listed
  have there : earlier <+: statusRules := (List.prefix_append ..).trans chosen'.listed
  refine List.prefix_of_prefix_length_le there here (Nat.le_of_not_lt fun longer => ?_)
  have within : front ++ [rule] <+: earlier :=
    List.prefix_of_prefix_length_le chosen.listed there (by rwa [List.length_append])
  exact chosen'.first rule (within.subset (by simp)) met

theorem IsChosen.idxOf_status (chosen : IsChosen name front rule) :
    priorities.idxOf rule.status = front.length := by
  obtain ⟨back, cut⟩ := chosen.listed
  have codes : priorities = front.map StatusRule.status ++ (rule.status ::
      (back.map StatusRule.status ++ [200])) := by
    calc priorities = statusRules.map StatusRule.status ++ [200] := rfl
      _ = _ := by rw [← cut]; simp
  have distinct : priorities.Nodup := by decide
  have absent : rule.status ∉ front.map StatusRule.status := by
    rw [codes, List.nodup_append] at distinct
    exact fun listed => distinct.2.2 _ listed _ List.mem_cons_self rfl
  rw [codes, List.idxOf_append_of_notMem absent, List.idxOf_cons_self, List.length_map,
    Nat.add_zero]

theorem inferStatus_congr (same : Text.lowerAscii name = Text.lowerAscii other) :
    inferStatus name = inferStatus other := by
  have alike : (statusRules.find? fun rule => rule.needles.any fun needle =>
      Text.contains needle (lower name)) = statusRules.find? fun rule =>
        rule.needles.any fun needle => Text.contains needle (lower other) := by
    refine List.find?_congr fun rule listed => ?_
    rw [Bool.eq_iff_iff, isMet_iff, isMet_iff]
    exact isMet_congr listed same
  simp only [inferStatus, alike]

theorem Promises.idxOf_le {code later : StatusCode} (h : Promises name code)
    (h' : Promises other later)
    (more : ∀ rule ∈ statusRules, rule.IsMet name → rule.IsMet other) :
    priorities.idxOf later ≤ priorities.idxOf code := by
  obtain ⟨front, rule, chosen, rfl⟩ | ⟨-, rfl⟩ := h
  · have met : rule.IsMet other := more rule chosen.mem chosen.met
    obtain ⟨earlier, first, chosen', rfl⟩ | ⟨unmet, -⟩ := h'
    · rw [chosen.idxOf_status, chosen'.idxOf_status]
      exact (chosen.prefix_of_isMet chosen' met).length_le
    · exact absurd met (unmet rule chosen.mem)
  · obtain ⟨earlier, first, chosen', rfl⟩ | ⟨-, rfl⟩ := h'
    · rw [chosen'.idxOf_status]
      exact ((List.prefix_append ..).trans chosen'.listed).length_le
    · exact Nat.le_refl _

/-- A name promises one code, that of the first rule that its lower-case form meets, or 200. It is
the same for all spellings in upper and lower ASCII letters. If text is put before and behind the
name, the same rule is chosen or an earlier one. -/
theorem inferStatus_priority (name : Text) :
    (∃ code, inferStatus name = [code] ∧ Promises name code) ∧
    (∀ other, Text.lowerAscii other = Text.lowerAscii name →
      inferStatus other = inferStatus name) ∧
    (∀ before behind front rule, IsChosen name front rule →
      ∃ earlier first, earlier <+: front ∧ IsChosen (before ++ name ++ behind) earlier first) ∧
    ∀ before behind code later, inferStatus name = [code] →
      inferStatus (before ++ name ++ behind) = [later] →
      priorities.idxOf later ≤ priorities.idxOf code := by
  refine ⟨exists_promises name, fun other same => inferStatus_congr same,
    fun before behind front rule chosen => ?_, fun before behind code later short long => ?_⟩
  · have met := isMet_append chosen.mem before behind chosen.met
    obtain ⟨_, -, ⟨earlier, first, chosen', -⟩ | ⟨unmet, -⟩⟩ :=
      exists_promises (before ++ name ++ behind)
    · exact ⟨earlier, first, chosen.prefix_of_isMet chosen' met, chosen'⟩
    · exact absurd met (unmet rule chosen.mem)
  · obtain ⟨_, inferred, promised⟩ := exists_promises name
    obtain ⟨_, inferred', promised'⟩ := exists_promises (before ++ name ++ behind)
    obtain rfl := List.singleton_injective (inferred.symm.trans short)
    obtain rfl := List.singleton_injective (inferred'.symm.trans long)
    exact promised.idxOf_le promised' fun rule listed => isMet_append listed before behind

/-- A needle behind a name lets an earlier rule in, and a sigma that ended a word no longer does. -/
theorem inferStatus_priority_extended :
    let name : Text := "NOT FOUND ΟΔΟΣ"
    let longer : Text := "" ++ name ++ "Α İNVALID Invalid"
    inferStatus "Not Found ΟΔΟΣ" = inferStatus name ∧
    IsChosen name [⟨["invalid", "400"], 400⟩] ⟨["not found", "404"], 404⟩ ∧
    (∃ earlier first, earlier <+: [⟨["invalid", "400"], 400⟩] ∧ IsChosen longer earlier first) ∧
    priorities.idxOf 400 ≤ priorities.idxOf 404 := by
  intro name longer
  obtain ⟨-, spelled, embedded, priority⟩ := inferStatus_priority name
  have chosen : IsChosen name [⟨["invalid", "400"], 400⟩] ⟨["not found", "404"], 404⟩ := by
    refine ⟨⟨_, rfl⟩, isMet_iff.1 (by decide), fun earlier listed => ?_⟩
    obtain rfl := List.mem_singleton.1 listed
    exact isMet_iff.not.1 (by decide +kernel)
  exact ⟨spelled _ (by decide), chosen, embedded _ _ _ _ chosen,
    priority "" "Α İNVALID Invalid" 404 400 (by decide +kernel) (by decide +kernel)⟩

end Naming
end HttpContract
