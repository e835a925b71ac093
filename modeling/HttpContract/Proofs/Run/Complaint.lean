import HttpContract.Proofs.Run.Verdict
import HttpContract.Proofs.Text.Decimal
import HttpContract.Proofs.Text.Lines

/-! What can be read off the message about an unexpected status: every code that is expected, in
order, and the actual one. -/
namespace HttpContract

namespace Text

abbrev comma : Text := ", "

/-- A listing falls at its commas into its items, each but the first one with a blank before it. -/
theorem splitAt_join_comma {item : Text} {items : List Text} (here : ',' ∉ item)
    (later : ∀ other ∈ items, ',' ∉ other) :
    splitAt ',' (join comma (item :: items)) = item :: items.map (' ' :: ·) := by
  rw [join_cons]
  induction items generalizing item with
  | nil => simpa using splitAt_eq_singleton here
  | cons next items ih =>
    obtain ⟨there, later⟩ := List.forall_mem_cons.1 later
    have behind : ',' ∉ ' ' :: next := by simpa using there
    calc splitAt ',' (item ++ (next :: items).flatMap (comma ++ ·))
      _ = splitAt ',' (item ++ ',' :: ((' ' :: next) ++ items.flatMap (comma ++ ·))) := rfl
      _ = item :: splitAt ',' ((' ' :: next) ++ items.flatMap (comma ++ ·)) := by
        rw [splitAt_append_cons, splitAt_eq_singleton here, List.singleton_append]
      _ = item :: (next :: items).map (' ' :: ·) := by rw [ih behind later, List.map_cons]

/-- Numbers can be read off their listing, also if there are none. -/
theorem join_decimal_injective {codes others : List Nat}
    (h : join comma (codes.map decimal) = join comma (others.map decimal)) : codes = others := by
  have clear : ∀ codes : List Nat, ∀ item ∈ codes.map decimal, ',' ∉ item := by
    intro codes item listed
    obtain ⟨code, -, rfl⟩ := List.mem_map.1 listed
    exact not_mem_decimal (by decide) code
  cases codes with
  | nil =>
    cases others with
    | nil => rfl
    | cons other others =>
      rw [List.map_cons, join_cons] at h
      exact absurd (List.append_eq_nil_iff.1 h.symm).1 (decimal_ne_nil other)
  | cons code codes =>
    cases others with
    | nil =>
      rw [List.map_cons, join_cons] at h
      exact absurd (List.append_eq_nil_iff.1 h).1 (decimal_ne_nil code)
    | cons other others =>
      have items := congrArg (splitAt ',') h
      rw [List.map_cons, List.map_cons,
        splitAt_join_comma (not_mem_decimal (by decide) code) (clear codes),
        splitAt_join_comma (not_mem_decimal (by decide) other) (clear others),
        List.map_map, List.map_map] at items
      obtain ⟨first, rest⟩ := List.cons.inj items
      have spaced : Function.Injective ((' ' :: ·) ∘ decimal) := fun _ _ same =>
        decimal_injective (List.cons.inj same).2
      rw [decimal_injective first, spaced.list_map rest]

/-- A listing ends before the first mark behind it, if no item holds that mark. -/
theorem listing_injective {start middle rest : Text} {mark : Char} (clear : mark ∉ start)
    (no_comma : mark ∉ comma) (no_digit : mark.isDigit = false) (begins : middle = mark :: rest)
    {codes others : List Nat} {last other : Nat}
    (h : start ++ join comma (codes.map decimal) ++ (comma ++ middle) ++ decimal last =
      start ++ join comma (others.map decimal) ++ (comma ++ middle) ++ decimal other) :
    codes = others ∧ last = other := by
  subst begins
  have cut : ∀ (codes : List Nat) (last : Nat),
      splitFirst? mark (start ++ join comma (codes.map decimal) ++ (comma ++ mark :: rest) ++
          decimal last) =
        some (start ++ join comma (codes.map decimal) ++ comma, rest ++ decimal last) := by
    intro codes last
    refine splitFirst?_eq_some_iff.2 ⟨by simp, ?_⟩
    rw [List.mem_append, List.mem_append]
    rintro ((inside | inside) | inside)
    · exact clear inside
    · obtain between | ⟨item, listed, inside⟩ := mem_join inside
      · exact no_comma between
      · obtain ⟨code, -, rfl⟩ := List.mem_map.1 listed
        exact not_mem_decimal no_digit code inside
    · exact no_comma inside
  have pieces := congrArg (splitFirst? mark) h
  rw [cut, cut] at pieces
  obtain ⟨before, after⟩ := Prod.mk.inj (Option.some.inj pieces)
  rw [List.append_left_inj, List.append_right_inj] at before
  exact ⟨join_decimal_injective before, decimal_injective (List.append_cancel_left after)⟩

end Text

/-- The message names every expected code and the actual one. -/
theorem Complaint.unexpectedStatus_injective {expected others : List StatusCode}
    {actual other : StatusCode} (h : message (.unexpectedStatus expected actual) =
      message (.unexpectedStatus others other)) : expected = others ∧ actual = other := by
  have start : 'b' ∉ "Expected status codes: ".toList := by decide
  have middle : "but got: ".toList = 'b' :: "ut got: ".toList := rfl
  exact Text.listing_injective start (by decide) (by decide) middle h

namespace Verdict

@[simp] theorem message_ofStatus_eq_none_iff {expected : List StatusCode} {actual : StatusCode} :
    (ofStatus expected actual).map Complaint.message = none ↔ actual ∈ expected :=
  Option.map_eq_none_iff.trans ofStatus_eq_none_iff

/-- Two statuses that are not expected have the same message only if they are the same, and so are
all the codes that were expected, in their order. Of a status that is expected there is none. -/
theorem message_ofStatus (expected others : List StatusCode) (actual other : StatusCode) :
    ((ofStatus expected actual).map Complaint.message = none ↔ actual ∈ expected) ∧
    ((ofStatus expected actual).map Complaint.message =
        (ofStatus others other).map Complaint.message ↔
      (actual ∈ expected ∧ other ∈ others) ∨ (expected = others ∧ actual = other)) := by
  refine ⟨message_ofStatus_eq_none_iff, fun same => ?_, ?_⟩
  · by_cases met : actual ∈ expected
    · rw [message_ofStatus_eq_none_iff.2 met, eq_comm, message_ofStatus_eq_none_iff] at same
      exact .inl ⟨met, same⟩
    · have unmet : other ∉ others := by
        rwa [← message_ofStatus_eq_none_iff, ← same, message_ofStatus_eq_none_iff]
      rw [ofStatus, if_neg met, ofStatus, if_neg unmet] at same
      exact .inr (Complaint.unexpectedStatus_injective (Option.some.inj same))
  · rintro (⟨met, otherMet⟩ | ⟨rfl, rfl⟩)
    · rw [message_ofStatus_eq_none_iff.2 met, message_ofStatus_eq_none_iff.2 otherMet]
    · rfl

example : (ofStatus [200, 201] 404).map Complaint.message =
    some "Expected status codes: 200, 201, but got: 404".toList := by decide +kernel

end Verdict
end HttpContract
