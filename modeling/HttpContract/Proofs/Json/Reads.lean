import HttpContract.Json.Parse
import HttpContract.Proofs.Except
import Mathlib.Logic.Basic
import Mathlib.Tactic.SplitIfs

/-! What the readers of arrays, objects and values read, each in terms of the readers of its
parts. -/
namespace HttpContract
namespace Json

/-- A reader gives a value and leaves a rest. -/
def Reads {α : Type} (reader : Reader α) (text : Text) (a : α) (rest : Text) : Prop :=
  ∃ reading, reader text = .ok reading ∧ reading.value = a ∧ reading.rest = rest

theorem reads_of_eq {α : Type} {reader : Reader α} {text : Text} {reading : Reading α text}
    (h : reader text = .ok reading) : Reads reader text reading.value reading.rest :=
  ⟨reading, h, rfl, rfl⟩

theorem Reads.shorter {α : Type} {reader : Reader α} {text rest : Text} {a : α}
    (h : Reads reader text a rest) : rest.length < text.length := by
  obtain ⟨reading, -, -, rfl⟩ := h
  exact reading.shorter

/-- What follows an element up to the closing bracket: further elements, each behind a comma. -/
inductive Listed {α : Type} (close : Char) (element : Text → α → Text → Prop) :
    Text → List α → Text → Prop
  | stop {text rest : Text} (start : skip text = close :: rest) :
      Listed close element text [] rest
  | more {text behind tail middle rest : Text} {c : Char} {first : α} {others : List α}
      (comma : skip text = ',' :: behind) (start : skip behind = c :: tail) (isOpen : c ≠ close)
      (head : element (c :: tail) first middle)
      (further : Listed close element middle others rest) :
      Listed close element text (first :: others) rest

inductive Enclosed {α : Type} (close : Char) (element : Text → α → Text → Prop) :
    Text → List α → Text → Prop
  | empty {text rest : Text} (start : skip text = close :: rest) :
      Enclosed close element text [] rest
  | filled {text tail middle rest : Text} {c : Char} {first : α} {others : List α}
      (start : skip text = c :: tail) (isOpen : c ≠ close) (head : element (c :: tail) first middle)
      (further : Listed close element middle others rest) :
      Enclosed close element text (first :: others) rest

section

variable {α : Type} {bracket : Bracket} {element : Reader α} {text rest : Text} {items : List α}

theorem reads_moreElements_iff : Reads (moreElements bracket element) text items rest ↔
    Listed bracket.close (Reads element) text items rest := by
  constructor
  · rintro ⟨reading, h, rfl, rfl⟩
    fun_induction moreElements bracket element text with
    | case1 | case3 | case4 | case6 => cases h
    | case2 text behind start =>
      obtain rfl := Except.ok.inj h
      exact .stop start
    | case5 text behind d next start isOpen comma _ _ ih =>
      obtain ⟨first, inner, h⟩ := bind_eq_ok_iff.1 h
      obtain ⟨others, further, same⟩ := bind_eq_ok_iff.1 h
      obtain rfl := Except.ok.inj same
      exact .more comma start isOpen (reads_of_eq inner) (ih first others further)
  · intro h
    induction h with
    | stop start =>
      unfold Reads
      rw [moreElements]
      split
      next none_left => simp [none_left] at start
      next start' =>
        obtain ⟨rfl, rfl⟩ := List.cons.inj (start'.symm.trans start)
        exact ⟨_, if_pos rfl, rfl, rfl⟩
    | more comma start isOpen head further ih =>
      obtain ⟨first, inner, rfl, rfl⟩ := head
      obtain ⟨others, behindFirst, rfl, rfl⟩ := ih
      unfold Reads
      rw [moreElements]
      split
      next none_left => simp [none_left] at comma
      next comma' =>
        obtain ⟨rfl, rfl⟩ := List.cons.inj (comma'.symm.trans comma)
        dsimp only
        rw [if_neg bracket.close_ne_comma.symm, if_pos rfl]
        split
        next none_left => simp [none_left] at start
        next start' =>
          obtain ⟨rfl, rfl⟩ := List.cons.inj (start'.symm.trans start)
          simp only [isOpen, if_false, inner, behindFirst, bind, Except.bind]
          exact ⟨_, rfl, rfl, rfl⟩

theorem reads_elements_iff : Reads (elements bracket element) text items rest ↔
    Enclosed bracket.close (Reads element) text items rest := by
  constructor
  · rintro ⟨reading, h, rfl, rfl⟩
    unfold elements at h
    split at h
    · cases h
    next c behind start =>
      dsimp only at h
      split_ifs at h with stop
      · obtain rfl := Except.ok.inj h
        exact .empty (stop ▸ start)
      · obtain ⟨first, inner, h⟩ := bind_eq_ok_iff.1 h
        obtain ⟨others, further, same⟩ := bind_eq_ok_iff.1 h
        obtain rfl := Except.ok.inj same
        exact .filled start stop (reads_of_eq inner)
          (reads_moreElements_iff.1 (reads_of_eq further))
  · intro h
    unfold Reads elements
    cases h with
    | empty start =>
      split
      next none_left => simp [none_left] at start
      next start' =>
        obtain ⟨rfl, rfl⟩ := List.cons.inj (start'.symm.trans start)
        exact ⟨_, if_pos rfl, rfl, rfl⟩
    | filled start isOpen head further =>
      obtain ⟨first, inner, rfl, rfl⟩ := head
      obtain ⟨others, behindFirst, rfl, rfl⟩ := reads_moreElements_iff.2 further
      split
      next none_left => simp [none_left] at start
      next start' =>
        obtain ⟨rfl, rfl⟩ := List.cons.inj (start'.symm.trans start)
        simp only [isOpen, if_false, inner, behindFirst, bind, Except.bind]
        exact ⟨_, rfl, rfl, rfl⟩

end

@[simp]
theorem reads_map_iff {α β : Type} {reader : Reader α} {f : α → β} {text rest : Text} {b : β} :
    Reads (fun text => (reader text).map (Reading.map f)) text b rest ↔
      ∃ a, Reads reader text a rest ∧ f a = b := by
  constructor
  · rintro ⟨_, h, rfl, rfl⟩
    obtain ⟨reading, inner, rfl⟩ := map_eq_ok_iff.1 h
    exact ⟨_, reads_of_eq inner, rfl⟩
  · rintro ⟨_, ⟨reading, inner, rfl, rfl⟩, rfl⟩
    exact ⟨_, map_eq_ok_iff.2 ⟨_, inner, rfl⟩, rfl, rfl⟩

section

variable {item : Reader Json} {text rest : Text} {a : Json}

theorem reads_memberValue_iff {a : Json} : Reads (memberValue item) text a rest ↔
    ∃ behind, skip text = ':' :: behind ∧ Reads item behind a rest := by
  unfold Reads memberValue
  split
  next none_left =>
    simp [none_left, failNext]
  next c behind skipped =>
    simp only [skipped, List.cons.injEq]
    split
    next colon =>
      constructor
      · rintro ⟨reading, h, rfl, rfl⟩
        obtain ⟨reading', inner, same⟩ := bind_eq_ok_iff.1 h
        obtain rfl := Except.ok.inj same
        exact ⟨behind, ⟨colon, rfl⟩, reading', inner, rfl, rfl⟩
      · rintro ⟨_, ⟨-, rfl⟩, reading, inner, rfl, rfl⟩
        rw [inner]
        exact ⟨_, rfl, rfl, rfl⟩
    next other =>
      simp [other, failNext]

theorem reads_member_iff {key : Text} {a : Json} : Reads (member item) text (key, a) rest ↔
    ∃ body behind, text = '"' :: body ∧ Reads stringBody body key behind ∧
      Reads (memberValue item) behind a rest := by
  constructor
  · rintro ⟨reading, h, pair, rfl⟩
    unfold member at h
    split at h
    next body =>
      obtain ⟨key', quoted, h⟩ := bind_eq_ok_iff.1 h
      obtain ⟨value, inner, same⟩ := bind_eq_ok_iff.1 h
      obtain rfl := Except.ok.inj same
      obtain ⟨rfl, rfl⟩ := Prod.mk.inj pair
      exact ⟨body, key'.rest, rfl, reads_of_eq quoted, reads_of_eq inner⟩
    next => cases h
  · rintro ⟨body, _, rfl, ⟨key, quoted, rfl, rfl⟩, ⟨value, inner, rfl, rfl⟩⟩
    unfold Reads member
    simp only [quoted, inner, bind, Except.bind]
    exact ⟨_, rfl, rfl, rfl⟩

def readerBehind? (nested? : Option (Reader Json)) : Char → Option (Reader Json)
  | 'n' => some (ident .null "ull")
  | 't' => some (ident (.bool true) "rue")
  | 'f' => some (ident (.bool false) "alse")
  | '"' => some fun text => (stringBody text).map (Reading.map .string)
  | '[' => nested?.map arrayBody
  | '\x7b' => nested?.map objectBody
  | _ => none

variable {nested? : Option (Reader Json)} {c : Char} {tail : Text}

theorem valueAt_of_readerBehind? {reader : Reader Json}
    (h : readerBehind? nested? c = some reader) : valueAt nested? (c :: tail) =
      (reader tail).map fun reading => reading.within (Nat.le_succ _) := by
  unfold readerBehind? at h
  split at h
  case h_5 | h_6 =>
    obtain ⟨item, rfl, rfl⟩ := Option.map_eq_some_iff.1 h
    rfl
  case h_7 => cases h
  all_goals
    obtain rfl := Option.some.inj h
    rfl

theorem valueAt_of_numeric (h : c = '-' ∨ c.isDigit) :
    valueAt nested? (c :: tail) = numberAt (c :: tail) := by
  have others : ∀ d : Char, (d = '-' ∨ d.isDigit) = False → c ≠ d := by
    rintro d no rfl
    exact no ▸ h
  unfold valueAt
  dsimp only
  rw [if_neg (others 'n' (by decide)), if_neg (others 't' (by decide)),
    if_neg (others 'f' (by decide)), if_pos h]

theorem exists_readerBehind?_of_valueAt {reading : Reading Json (c :: tail)}
    (h : valueAt nested? (c :: tail) = .ok reading) (wordlike : ¬ (c = '-' ∨ c.isDigit)) :
    ∃ reader, readerBehind? nested? c = some reader := by
  unfold valueAt at h
  dsimp only at h
  split_ifs at h with first first first first either first
  iterate 4
    subst first
    exact ⟨_, rfl⟩
  case pos =>
    subst first
    cases nested? with
    | none => cases h
    | some item => exact ⟨_, rfl⟩
  case neg =>
    obtain rfl := either.resolve_left first
    cases nested? with
    | none => cases h
    | some item => exact ⟨_, rfl⟩
  case neg => cases h

theorem reads_valueAt_iff : Reads (valueAt nested?) text a rest ↔
    ∃ c tail, text = c :: tail ∧ ((c = '-' ∨ c.isDigit) ∧ Reads numberAt text a rest ∨
      ∃ reader, readerBehind? nested? c = some reader ∧ Reads reader tail a rest) := by
  constructor
  · rintro ⟨reading, h, rfl, rfl⟩
    cases text with
    | nil => cases h
    | cons c tail =>
      refine ⟨c, tail, rfl, ?_⟩
      by_cases numeric : c = '-' ∨ c.isDigit
      · exact .inl ⟨numeric, reads_of_eq (valueAt_of_numeric numeric ▸ h)⟩
      · obtain ⟨reader, found⟩ := exists_readerBehind?_of_valueAt h numeric
        rw [valueAt_of_readerBehind? found] at h
        obtain ⟨inner, behind, rfl⟩ := map_eq_ok_iff.1 h
        exact .inr ⟨reader, found, reads_of_eq behind⟩
  · rintro ⟨c, tail, rfl, ⟨numeric, reading, h, rfl, rfl⟩ | ⟨reader, found, reading, h, rfl, rfl⟩⟩
    · exact reads_of_eq ((valueAt_of_numeric numeric).trans h)
    · exact ⟨_, (valueAt_of_readerBehind? found).trans (map_eq_ok_iff.2 ⟨_, h, rfl⟩), rfl, rfl⟩

/-- What reads the items of arrays and objects in a value that nests at most `depth` deep. -/
def nestedReader? : (depth : Nat) → Option (Reader Json)
  | 0 => none
  | depth + 1 => some (value depth)

/-- What holds of a depth as soon as it holds one level further in holds of all depths. -/
theorem forall_depth {P : Nat → Prop}
    (step : ∀ depth, (∀ d, depth = d + 1 → P d) → P depth) (depth : Nat) : P depth := by
  induction depth with
  | zero => exact step 0 fun d same => absurd same (Nat.zero_ne_add_one d)
  | succ depth ih => exact step _ fun d same => Nat.succ.inj same ▸ ih

theorem value_eq (depth : Nat) : value depth = fun text =>
    (valueAt (nestedReader? depth) (skip text)).map
      fun reading => reading.within (skip_length_le text) := by
  cases depth <;> rfl

theorem reads_value_iff {depth : Nat} : Reads (value depth) text a rest ↔
    Reads (valueAt (nestedReader? depth)) (skip text) a rest := by
  rw [value_eq]
  constructor
  · rintro ⟨_, h, rfl, rfl⟩
    obtain ⟨reading, inner, rfl⟩ := map_eq_ok_iff.1 h
    exact reads_of_eq inner
  · rintro ⟨reading, inner, rfl, rfl⟩
    exact ⟨_, map_eq_ok_iff.2 ⟨_, inner, rfl⟩, rfl, rfl⟩

theorem parse_eq_ok_iff : parse text = .ok a ↔
    ∃ rest, Reads (value maxDepth) text a rest ∧ skip rest = [] := by
  have noFault : parse text = .ok a ↔ read text = .ok a := by
    unfold parse
    cases read text <;> simp [Except.mapError]
  rw [noFault, read, bind_eq_ok_iff]
  constructor
  · rintro ⟨reading, h, same⟩
    split at same
    next blank =>
      obtain rfl := Except.ok.inj same
      exact ⟨_, reads_of_eq h, blank⟩
    next => cases same
  · rintro ⟨_, ⟨reading, h, rfl, rfl⟩, blank⟩
    exact ⟨reading, h, by simp only [blank]; rfl⟩

end

end Json
end HttpContract
