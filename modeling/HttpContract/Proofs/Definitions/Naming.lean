import HttpContract.Definitions.Naming
import HttpContract.Proofs.Text.Basic

/-! What a name is made of after cleaning, and what status a name can promise. -/
namespace HttpContract
namespace Naming

theorem mem_sanitize {name : Text} {c : Char} (h : c ∈ sanitize name) :
    Unicode.isAlphanumeric c = true ∨ c = '_' := by
  obtain ⟨d, kept, rfl⟩ := List.mem_map.1 h
  have allowed := (List.mem_filter.1 kept).2
  simp only [Bool.or_eq_true, beq_iff_eq] at allowed ⊢
  split_ifs with gap
  · exact .inr rfl
  · obtain ⟨hyphen, blank⟩ := not_or.1 gap
    tauto

theorem status_of_mem_statusRules : ∀ rule ∈ statusRules, rule.status ∈ [400, 404, 401] := by decide

theorem exists_inferStatus (name : Text) :
    ∃ code ∈ [200, 400, 401, 404], inferStatus name = [code] := by
  refine ⟨_, ?_, rfl⟩
  cases found : statusRules.find? fun rule => rule.needles.any fun needle =>
    Text.contains needle (Unicode.lower name) with
  | none => decide
  | some rule =>
    have listed := status_of_mem_statusRules rule (List.mem_of_find?_eq_some found)
    simp only [Option.map_some, Option.getD_some, List.mem_cons, List.not_mem_nil, or_false]
      at listed ⊢
    tauto

theorem ofHeading?_of_mark {heading : Text} (h : Text.trim heading = Block.mark) :
    ofHeading? heading = none := by
  rw [ofHeading?, h]
  decide

end Naming
end HttpContract
