import HttpContract.Text.Basic
import Mathlib.Data.List.DropRight

/-! What a text starts with, where it is cut, and what is left of it when blanks are trimmed away:
a trimmed text starts and ends with no blank. -/
namespace HttpContract
namespace Text

theorem startsWith_iff {start text : Text} : startsWith start text = true ↔ start <+: text :=
  List.isPrefixOf_iff_prefix

@[simp] theorem startsWith_cons (c first : Char) (text : Text) :
    startsWith [c] (first :: text) = (c == first) := by simp [startsWith, List.isPrefixOf]

@[simp] theorem startsWith_nil (c : Char) (start : Text) : startsWith (c :: start) [] = false := rfl

theorem startsWith_eq_false {c : Char} {text : Text} (h : text.head? ≠ some c) :
    startsWith [c] text = false := by
  cases text with
  | nil => rfl
  | cons first rest =>
    rw [startsWith_cons, beq_eq_false_iff_ne]
    rintro rfl
    exact h rfl

@[simp] theorem strip?_eq_some_iff {start text rest : Text} :
    strip? start text = some rest ↔ text = start ++ rest := by
  fun_induction strip? start text with
  | case1 => simp [eq_comm]
  | case2 => simp
  | case3 a start text ih => simp [ih]
  | case4 a start c text h => simp [Ne.symm h]

theorem splitFirst?_eq_some_iff {mark : Char} {text before after : Text} :
    splitFirst? mark text = some (before, after) ↔
      text = before ++ mark :: after ∧ mark ∉ before := by
  induction text generalizing before with
  | nil => simp [splitFirst?]
  | cons c text ih =>
    by_cases h : c = mark
    · subst h
      cases before with
      | nil => simp [splitFirst?, eq_comm]
      | cons first before => simp only [splitFirst?, if_true]; grind
    · cases before with
      | nil => simp [splitFirst?, h]
      | cons first before =>
        simp only [splitFirst?, h, if_false, Option.map_eq_some_iff, Prod.exists, Prod.mk.injEq,
          List.cons.injEq, List.cons_append, List.mem_cons, not_or]
        grind

theorem takeWhile_eq_splitFirst? (mark : Char) (text : Text) : text.takeWhile (· != mark) =
    ((splitFirst? mark text).map Prod.fst).getD text := by
  induction text with
  | nil => rfl
  | cons c text ih =>
    by_cases h : c = mark
    · simp [splitFirst?, h]
    · cases hs : splitFirst? mark text <;> simp_all [splitFirst?]

@[simp] theorem splitFirst?_append {mark : Char} {front : Text} (h : mark ∉ front) (text : Text) :
    splitFirst? mark (front ++ text) =
      (splitFirst? mark text).map fun (before, after) => (front ++ before, after) := by
  induction front with
  | nil => simp
  | cons c front ih =>
    obtain ⟨other, clear⟩ := not_or.1 (List.mem_cons.not.1 h)
    simp [splitFirst?, Ne.symm other, ih clear, Function.comp_def]

/-- A start that does not hold the mark ends before it. -/
theorem prefix_append_cons {mark : Char} {start : Text} (h : mark ∉ start) {before after : Text} :
    start <+: before ++ mark :: after ↔ start <+: before := by
  refine ⟨fun hs => ?_, fun hs => hs.trans (List.prefix_append ..)⟩
  rcases List.prefix_or_prefix_of_prefix hs (List.prefix_append before _) with short | ⟨more, rfl⟩
  · exact short
  · rw [List.prefix_append_right_inj] at hs
    cases more with
    | nil => simp
    | cons c more =>
      obtain ⟨rfl, -⟩ := List.cons_prefix_cons.1 hs
      simp at h

@[simp] theorem contains_iff {part text : Text} : contains part text = true ↔ part <:+: text := by
  induction text with
  | nil => rw [contains, List.isEmpty_iff, List.infix_nil]
  | cons c text ih =>
    rw [contains, Bool.or_eq_true, List.isPrefixOf_iff_prefix, ih, List.infix_cons_iff]

/-- A part that does not hold the mark stands on one side of it. -/
theorem contains_append_cons {mark : Char} {part : Text} (h : mark ∉ part) (before after : Text) :
    contains part (before ++ mark :: after) = (contains part before || contains part after) := by
  induction before with
  | nil =>
    have start : part.isPrefixOf (mark :: after) = part.isEmpty := by
      rw [Bool.eq_iff_iff, List.isPrefixOf_iff_prefix, List.isEmpty_iff]
      have front : part <+: [] ++ mark :: after ↔ part <+: [] := prefix_append_cons h
      exact front.trans List.prefix_nil
    simp only [List.nil_append, contains, start]
  | cons c before ih =>
    have start : part.isPrefixOf (c :: before ++ mark :: after) =
        part.isPrefixOf (c :: before) := by
      rw [Bool.eq_iff_iff, List.isPrefixOf_iff_prefix, List.isPrefixOf_iff_prefix]
      exact prefix_append_cons h
    rw [List.cons_append] at start ⊢
    simp only [contains, start, ih, Bool.or_assoc]

theorem clear_of_all {text : Text} (h : text.all (fun c => !Unicode.isBlank c) = true) :
    ∀ c ∈ text, Unicode.isBlank c = false := by simpa using h

@[simp] theorem trimStart_cons_blank {c : Char} {text : Text} (h : Unicode.isBlank c = true) :
    trimStart (c :: text) = trimStart text := by simp [trimStart, h]

@[simp] theorem trimStart_cons {c : Char} {text : Text} (h : Unicode.isBlank c = false) :
    trimStart (c :: text) = c :: text := by simp [trimStart, h]

@[simp] theorem trimStart_concat_blank {c : Char} (h : Unicode.isBlank c = true) (text : Text) :
    trimStart (text ++ [c]) = if trimStart text = [] then [] else trimStart text ++ [c] := by
  have cut : trimStart (text ++ [c]) = if (trimStart text).isEmpty
      then [c].dropWhile Unicode.isBlank else trimStart text ++ [c] := List.dropWhile_append
  rw [cut, List.dropWhile_cons_of_pos h]
  cases trimStart text <;> rfl

theorem trimStart_eq_self_iff {text : Text} :
    trimStart text = text ↔ ∀ c ∈ text.head?, Unicode.isBlank c = false := by
  rw [trimStart, List.dropWhile_eq_self_iff]
  cases text <;> simp

theorem trimEnd_eq_self_iff {text : Text} :
    trimEnd text = text ↔ ∀ c ∈ text.getLast?, Unicode.isBlank c = false := by
  change text.rdropWhile Unicode.isBlank = text ↔ _
  rw [List.rdropWhile_eq_self_iff]
  cases text using List.reverseRecOn <;> simp

@[simp]
theorem isPrefix_trimEnd (text : Text) : trimEnd text <+: text := List.rdropWhile_prefix _ text

@[simp] theorem trimEnd_concat_blank {c : Char} {text : Text} (h : Unicode.isBlank c = true) :
    trimEnd (text ++ [c]) = trimEnd text := List.rdropWhile_concat_pos _ _ _ h

@[simp] theorem trim_concat_blank {c : Char} (h : Unicode.isBlank c = true) (text : Text) :
    trim (text ++ [c]) = trim text := by
  rw [trim, trimStart, List.dropWhile_append]
  split
  next all =>
    rw [List.isEmpty_iff] at all
    simp [trim, trimStart, all, h, trimEnd]
  next => exact trimEnd_concat_blank h

/-- Nothing before a character that is no blank is trimmed away from the end. -/
@[simp] theorem trimEnd_append_cons {c : Char} (h : Unicode.isBlank c = false) (front text : Text) :
    trimEnd (front ++ c :: text) = front ++ c :: trimEnd text := by
  induction text using List.reverseRecOn with
  | nil => simp [trimEnd, h]
  | append_singleton text last ih =>
    rw [← List.cons_append, ← List.append_assoc]
    by_cases hl : Unicode.isBlank last = true
    · rw [trimEnd_concat_blank hl, trimEnd_concat_blank hl, ih]
    · have keeps : ∀ front : Text, trimEnd (front ++ [last]) = front ++ [last] :=
        fun front => List.rdropWhile_concat_neg _ _ _ hl
      rw [keeps, keeps, List.append_assoc, List.cons_append]

@[simp] theorem trimEnd_cons {c : Char} (h : Unicode.isBlank c = false) (text : Text) :
    trimEnd (c :: text) = c :: trimEnd text := trimEnd_append_cons h [] text

@[simp] theorem trim_cons {c : Char} (h : Unicode.isBlank c = false) (text : Text) :
    trim (c :: text) = c :: trimEnd text := by
  rw [trim, trimStart_cons h, trimEnd_cons h]

theorem trim_eq_self_iff {text : Text} : trim text = text ↔
    (∀ c ∈ text.head?, Unicode.isBlank c = false) ∧
      ∀ c ∈ text.getLast?, Unicode.isBlank c = false := by
  rw [← trimStart_eq_self_iff, ← trimEnd_eq_self_iff]
  constructor
  · intro h
    -- Neither step can take anything away, since the text would get shorter.
    have start : trimStart text = text := by
      refine (List.dropWhile_suffix Unicode.isBlank).eq_of_length_le ?_
      calc text.length = (trim text).length := by rw [h]
        _ ≤ (trimStart text).length := (isPrefix_trimEnd _).length_le
    exact ⟨start, by rw [trim, start] at h; exact h⟩
  · rintro ⟨start, stop⟩
    rw [trim, start, stop]

theorem head?_trimStart (text : Text) : ∀ c ∈ (trimStart text).head?, Unicode.isBlank c = false :=
  trimStart_eq_self_iff.1 (List.dropWhile_idempotent ..)

theorem trim_eq_nil_iff {text : Text} : trim text = [] ↔ ∀ c ∈ text, Unicode.isBlank c = true := by
  refine ⟨fun h => ?_, fun h => ?_⟩
  · cases left : trimStart text with
    | nil => exact List.dropWhile_eq_nil_iff.1 left
    | cons c rest =>
      rw [trim, left, trimEnd_cons (head?_trimStart text c (by simp [left]))] at h
      cases h
  · rw [trim, trimStart, List.dropWhile_eq_nil_iff.2 h]
    rfl

@[simp] theorem trim_trim (text : Text) : trim (trim text) = trim text := by
  rw [trim_eq_self_iff, ← trimEnd_eq_self_iff]
  refine ⟨fun c hc => ?_, List.rdropWhile_idempotent ..⟩
  cases h : trimStart text with
  | nil => simp [trim, h, trimEnd] at hc
  | cons first rest =>
    have clear := head?_trimStart text first (by simp [h])
    rw [trim, h, trimEnd_cons clear] at hc
    obtain rfl : first = c := by simpa using hc
    exact clear

@[simp] theorem trim_subset (text : Text) : trim text ⊆ text := fun _ hc =>
  (List.dropWhile_suffix _).subset ((isPrefix_trimEnd _).subset hc)

/-- A text that starts with no blank is trimmed if what it ends in is. -/
theorem trim_append {front text : Text} (some_front : front ≠ [])
    (start : Unicode.isBlank (front.head some_front) = false) (some_text : text ≠ [])
    (h : trim text = text) : trim (front ++ text) = front ++ text := by
  rw [trim_eq_self_iff, List.head?_append_of_ne_nil _ some_front,
    List.head?_eq_some_head some_front, List.getLast?_append_of_ne_nil _ some_text]
  refine ⟨fun c hc => ?_, (trim_eq_self_iff.1 h).2⟩
  obtain rfl := Option.some.inj hc
  exact start

/-- Behind a start with no blank, trimming leaves the blanks before what is left of the rest. -/
theorem trim_append_shown {front text : Text} (some_front : front ≠ [])
    (start : Unicode.isBlank (front.head some_front) = false) (shown : trim text ≠ []) :
    trim (front ++ text) = front ++ (text.takeWhile Unicode.isBlank ++ trim text) := by
  obtain ⟨c, front, rfl⟩ := List.exists_cons_of_ne_nil some_front
  cases left : trimStart text with
  | nil =>
    rw [trim, left] at shown
    exact absurd rfl shown
  | cons d rest =>
    have clear := head?_trimStart text d (by simp [left])
    have cut : text = text.takeWhile Unicode.isBlank ++ d :: rest := by
      rw [← left]
      exact List.takeWhile_append_dropWhile.symm
    have kept : trimEnd (front ++ text) =
        front ++ (text.takeWhile Unicode.isBlank ++ trim text) := by
      rw [trim, left, trimEnd_cons clear]
      conv => lhs; rw [cut]
      rw [← List.append_assoc, trimEnd_append_cons clear, List.append_assoc]
    rw [List.head_cons] at start
    rw [List.cons_append, trim_cons start, kept, List.cons_append]

/-- How a text starts can be seen before its end is trimmed. -/
@[simp] theorem startsWith_trim (c : Char) (text : Text) :
    startsWith [c] (trim text) = startsWith [c] (trimStart text) := by
  cases hs : trimStart text with
  | nil => simp [trim, hs, trimEnd]
  | cons first rest =>
    rw [trim, hs, trimEnd_cons (head?_trimStart text first (by simp [hs])), startsWith_cons,
      startsWith_cons]

@[simp] theorem join_cons (between first : Text) (rest : List Text) :
    join between (first :: rest) = first ++ rest.flatMap (between ++ ·) := by
  induction rest generalizing first with
  | nil => simp [join]
  | cons next rest ih =>
    rw [join, List.intercalate_cons_cons, ← join, ih, List.flatMap_cons]
    simp

theorem mem_join {c : Char} {between : Text} {items : List Text} (h : c ∈ join between items) :
    c ∈ between ∨ ∃ item ∈ items, c ∈ item := by
  cases items with
  | nil => cases h
  | cons first items =>
    rw [join_cons, List.mem_append, List.mem_flatMap] at h
    obtain h | ⟨item, listed, h⟩ := h
    · exact .inr ⟨first, List.mem_cons_self, h⟩
    · exact (List.mem_append.1 h).imp_right fun inside =>
        ⟨item, List.mem_cons_of_mem _ listed, inside⟩

def upperLetters : Text := "ABCDEFGHIJKLMNOPQRSTUVWXYZ"

@[simp] theorem toLower_eq_self {c : Char} (h : c ∉ upperLetters) : c.toLower = c := by
  have letters : ∀ n < 91, 65 ≤ n → Char.ofNat n ∈ upperLetters := by decide
  refine dif_neg ?_
  rintro ⟨low, high⟩
  have listed := letters c.toNat (Nat.lt_succ_of_le high) low
  rw [Char.ofNat_toNat] at listed
  exact h listed

@[simp] theorem toLower_toLower (c : Char) : c.toLower.toLower = c.toLower := by
  have letters : upperLetters.all fun c => c.toLower.toLower = c.toLower := by decide
  by_cases h : c ∈ upperLetters
  · exact of_decide_eq_true (List.all_eq_true.1 letters c h)
  · rw [toLower_eq_self h, toLower_eq_self h]

@[simp] theorem lowerAscii_lowerAscii (text : Text) :
    lowerAscii (lowerAscii text) = lowerAscii text := by
  rw [lowerAscii, lowerAscii, List.map_map]
  exact List.map_congr_left fun c _ => toLower_toLower c

theorem sameAscii_iff {text other : Text} :
    sameAscii text other = true ↔ lowerAscii text = lowerAscii other := beq_iff_eq

theorem sameAscii_eq_false_iff {text other : Text} :
    sameAscii text other = false ↔ lowerAscii text ≠ lowerAscii other := beq_eq_false_iff_ne

section

variable {α : Type}

theorem eraseDupsBy_concat (same : α → α → Bool) (items : List α) (item : α) :
    (items ++ [item]).eraseDupsBy same = items.eraseDupsBy same ++
      if (items.eraseDupsBy same).any (same item) then [] else [item] := by
  have loop (seen : List α) : List.eraseDupsBy.loop same (items ++ [item]) seen =
      List.eraseDupsBy.loop same items seen ++
        if (List.eraseDupsBy.loop same items seen).any (same item) then [] else [item] := by
    induction items generalizing seen with
    | nil => cases known : seen.any (same item) <;> simp [List.eraseDupsBy.loop, known]
    | cons first items ih =>
      cases known : seen.any (same first) <;> simp only [List.cons_append, List.eraseDupsBy.loop,
        known, ih]
  exact loop []

variable [DecidableEq α]

def addDistinct (seen : List α) (item : α) : List α :=
  if item ∈ seen then seen else seen ++ [item]

@[simp] theorem mem_addDistinct {seen : List α} {item other : α} :
    other ∈ addDistinct seen item ↔ other ∈ seen ∨ other = item := by
  unfold addDistinct
  split
  next known => exact ⟨.inl, fun h => h.elim id fun same => same ▸ known⟩
  next => simp

theorem nodup_addDistinct {seen : List α} (h : seen.Nodup) (item : α) :
    (addDistinct seen item).Nodup := by
  unfold addDistinct
  split
  · exact h
  next unseen =>
    refine List.nodup_append.2 ⟨h, by simp, fun known mem last found same => unseen ?_⟩
    rwa [← List.mem_singleton.1 found, ← same]

theorem foldl_addDistinct (items : List α) {seen : List α} (h : seen.Nodup) :
    (items.foldl addDistinct seen).Nodup ∧
      ∀ item, item ∈ items.foldl addDistinct seen ↔ item ∈ seen ∨ item ∈ items := by
  induction items generalizing seen with
  | nil => exact ⟨h, by simp⟩
  | cons first items ih =>
    obtain ⟨nodup, members⟩ := ih (nodup_addDistinct h first)
    refine ⟨nodup, fun item => ?_⟩
    rw [List.foldl_cons, members, mem_addDistinct, List.mem_cons, or_assoc]

@[simp] theorem nodup_distinct (items : List α) : (distinct items).Nodup :=
  (foldl_addDistinct items List.nodup_nil).1

@[simp]
theorem mem_distinct {items : List α} {item : α} : item ∈ distinct items ↔ item ∈ items := by
  rw [show distinct items = items.foldl addDistinct [] from rfl,
    (foldl_addDistinct items List.nodup_nil).2]
  simp

@[simp] theorem distinct_concat (items : List α) (item : α) :
    distinct (items ++ [item]) = addDistinct (distinct items) item :=
  List.foldl_concat ..

theorem distinct_eq_eraseDups (items : List α) : distinct items = items.eraseDups := by
  induction items using List.reverseRecOn with
  | nil => rfl
  | append_singleton items item ih =>
    have step : (items ++ [item]).eraseDups =
        items.eraseDups ++ if items.eraseDups.any (item == ·) then [] else [item] :=
      eraseDupsBy_concat ..
    have known : items.eraseDups.any (item == ·) = true ↔ item ∈ items.eraseDups := by simp
    rw [distinct_concat, ih, addDistinct, step]
    simp only [known]
    split
    · rw [List.append_nil]
    · rfl

/-- Of two distinct members the first one stands where the second one has not yet been. -/
theorem pairwise_distinct (items : List α) : (distinct items).Pairwise fun item later =>
    later ≠ item ∧ ∃ front back, items = front ++ item :: back ∧ later ∉ front := by
  induction items using List.reverseRecOn with
  | nil => exact List.Pairwise.nil
  | append_singleton items last ih =>
    have longer : (distinct items).Pairwise fun item later => later ≠ item ∧
        ∃ front back, items ++ [last] = front ++ item :: back ∧ later ∉ front := by
      refine ih.imp ?_
      rintro item later ⟨apart, front, back, rfl, absent⟩
      exact ⟨apart, front, back ++ [last], by simp, absent⟩
    rw [distinct_concat, addDistinct]
    split
    · exact longer
    next unseen =>
      refine List.pairwise_append.2
        ⟨longer, List.pairwise_singleton _ _, fun item listed later found => ?_⟩
      obtain rfl := List.mem_singleton.1 found
      rw [mem_distinct] at unseen listed
      obtain ⟨front, back, rfl⟩ := List.append_of_mem listed
      refine ⟨?_, front, back ++ [later], by simp, fun inside => unseen (by simp [inside])⟩
      rintro rfl
      exact unseen listed

end

end Text
end HttpContract
