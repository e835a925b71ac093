import Mathlib.Data.List.Forall2

/-! Computations that come to a value: each of their steps does. -/
namespace HttpContract

variable {ε α β : Type}

theorem bind_eq_ok_iff {x : Except ε α} {f : α → Except ε β} {b : β} :
    x >>= f = .ok b ↔ ∃ a, x = .ok a ∧ f a = .ok b := by
  cases x with
  | error e => exact ⟨nofun, fun ⟨_, h, _⟩ => nomatch h⟩
  | ok a => exact ⟨fun h => ⟨a, rfl, h⟩, fun ⟨_, same, h⟩ => Except.ok.inj same ▸ h⟩

theorem map_eq_ok_iff {x : Except ε α} {f : α → β} {b : β} :
    x.map f = .ok b ↔ ∃ a, x = .ok a ∧ f a = b := by
  cases x with
  | error e => exact ⟨nofun, fun ⟨_, h, _⟩ => nomatch h⟩
  | ok a =>
    exact ⟨fun h => ⟨a, rfl, Except.ok.inj h⟩, fun ⟨_, same, h⟩ => Except.ok.inj same ▸ h ▸ rfl⟩

@[simp] theorem mapError_eq_ok_iff {ε' : Type} {x : Except ε α} {f : ε → ε'} {a : α} :
    x.mapError f = .ok a ↔ x = .ok a := by
  cases x with
  | error e => exact iff_of_false nofun nofun
  | ok b => exact ⟨fun same => Except.ok.inj same ▸ rfl, fun same => Except.ok.inj same ▸ rfl⟩

theorem mapError_eq_error_iff {ε' : Type} {x : Except ε α} {f : ε → ε'} {e' : ε'} :
    x.mapError f = .error e' ↔ ∃ e, x = .error e ∧ f e = e' := by
  cases x with
  | error e =>
    exact ⟨fun h => ⟨e, rfl, Except.error.inj h⟩,
      fun ⟨_, same, h⟩ => Except.error.inj same ▸ h ▸ rfl⟩
  | ok a => exact ⟨nofun, fun ⟨_, h, _⟩ => nomatch h⟩

@[simp]
theorem toOption_eq_some_iff {x : Except ε α} {a : α} : x.toOption = some a ↔ x = .ok a := by
  cases x with
  | error e => exact iff_of_false nofun nofun
  | ok b => exact ⟨fun same => Option.some.inj same ▸ rfl, fun same => Except.ok.inj same ▸ rfl⟩

theorem mapM_eq_ok_iff {f : α → Except ε β} {items : List α} {values : List β} :
    items.mapM f = .ok values ↔
      List.Forall₂ (fun item value => f item = .ok value) items values := by
  induction items generalizing values with
  | nil =>
    rw [List.forall₂_nil_left_iff]
    exact ⟨fun same => (Except.ok.inj same).symm, fun same => same ▸ rfl⟩
  | cons item items ih =>
    rw [List.mapM_cons, bind_eq_ok_iff, List.forall₂_cons_left_iff]
    refine exists_congr fun value => ?_
    rw [bind_eq_ok_iff]
    constructor
    · rintro ⟨first, values', rest, same⟩
      exact ⟨values', first, ih.1 rest, (Except.ok.inj same).symm⟩
    · rintro ⟨values', first, rest, rfl⟩
      exact ⟨first, values', ih.2 rest, rfl⟩

@[simp] theorem filterMap_takeWhile_ok (values : List α) :
    ((values.map (Except.ok : α → Except ε α)).takeWhile Except.isOk).filterMap
      Except.toOption = values := by
  induction values with
  | nil => rfl
  | cons value values ih =>
    rw [List.map_cons, List.takeWhile_cons_of_pos rfl, List.filterMap_cons]
    exact congrArg (value :: ·) ih

@[simp] theorem mapM_id_eq_ok_iff {attempts : List (Except ε α)} {values : List α} :
    attempts.mapM id = .ok values ↔ attempts = values.map .ok := by
  rw [mapM_eq_ok_iff, ← List.forall₂_eq_eq_eq, List.forall₂_map_right_iff]
  rfl

theorem exists_eq_map_ok_iff {attempts : List (Except ε α)} :
    (∃ values : List α, attempts = values.map .ok) ↔
    ∀ attempt ∈ attempts, ∃ value, attempt = .ok value := by
  constructor
  · rintro ⟨values, rfl⟩ attempt member
    obtain ⟨value, -, rfl⟩ := List.mem_map.1 member
    exact ⟨value, rfl⟩
  · intro all
    induction attempts with
    | nil => exact ⟨[], rfl⟩
    | cons attempt attempts ih =>
      obtain ⟨value, rfl⟩ := all attempt List.mem_cons_self
      obtain ⟨values, rfl⟩ := ih fun other member => all other (List.mem_cons_of_mem _ member)
      exact ⟨value :: values, rfl⟩

end HttpContract
