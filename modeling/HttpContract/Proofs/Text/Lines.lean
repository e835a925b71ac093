import HttpContract.Proofs.Text.Basic
import HttpContract.Text.Lines

/-! Cutting a text at newlines undoes joining lines with newlines, in both readings of a newline. -/
namespace HttpContract
namespace Text

theorem splitAt_eq_splitOn (mark : Char) (text : Text) : splitAt mark text = text.splitOn mark := by
  induction text with
  | nil => rfl
  | cons c text ih =>
    have hn : splitAt mark text ≠ [] := ih ▸ List.splitOn_ne_nil mark text
    obtain ⟨piece, pieces, hs⟩ := List.exists_cons_of_ne_nil hn
    rw [List.splitOn_cons_eq_if_modifyHead, ← ih, splitAt, hs]
    by_cases h : c = mark <;> simp [h]

@[simp] theorem head?_splitAt (mark : Char) (text : Text) :
    (splitAt mark text).head? = some (text.takeWhile (· != mark)) := by
  induction text with
  | nil => rfl
  | cons c text ih =>
    by_cases h : c = mark
    · simp [splitAt, h]
    · cases pieces : splitAt mark text with
      | nil => simp [pieces] at ih
      | cons piece pieces' => simp_all [splitAt]

theorem not_mem_of_mem_splitAt {mark : Char} {text piece : Text} (h : piece ∈ splitAt mark text) :
    mark ∉ piece := by
  induction text generalizing piece with
  | nil => simp_all [splitAt]
  | cons c text ih =>
    rw [splitAt] at h
    split at h
    · obtain rfl | h := List.mem_cons.1 h
      · simp
      · exact ih h
    · rename_i hc
      split at h
      · obtain rfl := List.mem_singleton.1 h
        simpa using Ne.symm hc
      · rename_i first pieces hs
        obtain rfl | h := List.mem_cons.1 h
        · have := ih (hs ▸ List.mem_cons_self)
          simpa using ⟨Ne.symm hc, this⟩
        · exact ih (hs ▸ List.mem_cons_of_mem _ h)

@[simp] theorem splitAt_ne_nil (mark : Char) (text : Text) : splitAt mark text ≠ [] :=
  splitAt_eq_splitOn mark text ▸ List.splitOn_ne_nil mark text

@[simp] theorem splitAt_append {mark : Char} {front : Text} (h : mark ∉ front) (text : Text) :
    splitAt mark (front ++ text) = (splitAt mark text).modifyHead (front ++ ·) := by
  induction front with
  | nil => cases cut : splitAt mark text <;> simp [cut]
  | cons c front ih =>
    obtain ⟨other, clear⟩ := not_or.1 (List.mem_cons.not.1 h)
    obtain ⟨piece, pieces, cut⟩ := List.exists_cons_of_ne_nil (splitAt_ne_nil mark text)
    simp [splitAt, Ne.symm other, ih clear, cut]

@[simp] theorem splitAt_eq_singleton {mark : Char} {text : Text} (h : mark ∉ text) :
    splitAt mark text = [text] := by
  simpa [splitAt] using splitAt_append h []

@[simp] theorem splitAt_append_cons (mark : Char) (before after : Text) :
    splitAt mark (before ++ mark :: after) = splitAt mark before ++ splitAt mark after := by
  induction before with
  | nil => simp [splitAt]
  | cons c before ih =>
    by_cases h : c = mark
    · simp [splitAt, h, ih]
    · obtain ⟨piece, pieces, cut⟩ := List.exists_cons_of_ne_nil (splitAt_ne_nil mark before)
      simp [splitAt, h, ih, cut]

@[simp] theorem dropReturn_concat (text : Text) (c : Char) :
    dropReturn (text ++ [c]) = text ++ if c = '\r' then [] else [c] := by
  induction text with
  | nil => rfl
  | cons first text ih => cases text <;> simp_all [dropReturn]

@[simp] theorem dropReturn_sublist (text : Text) : (dropReturn text).Sublist text := by
  fun_induction dropReturn text with
  | case1 => exact .refl _
  | case2 => exact List.nil_sublist _
  | case3 c => exact .refl _
  | case4 c d text ih => exact ih.cons_cons c

@[simp] theorem dropReturn_eq_self {text : Text} (h : text.getLast? ≠ some '\r') :
    dropReturn text = text := by
  fun_induction dropReturn text with
  | case1 => rfl
  | case2 => simp at h
  | case3 => rfl
  | case4 c d text ih => rw [ih (by simpa [List.getLast?_cons_cons] using h)]

@[simp] theorem dropReturn_append {front : Text} (h : '\r' ∉ front) (text : Text) :
    dropReturn (front ++ text) = front ++ dropReturn text := by
  induction text using List.reverseRecOn with
  | nil =>
    rw [List.append_nil]
    have kept := dropReturn_eq_self fun last => h (List.mem_of_getLast? last)
    exact kept.trans (by simp [dropReturn])
  | append_singleton text c =>
    rw [← List.append_assoc, dropReturn_concat, dropReturn_concat, List.append_assoc]

@[simp] theorem trim_dropReturn (text : Text) : trim (dropReturn text) = trim text := by
  induction text using List.reverseRecOn with
  | nil => rfl
  | append_singleton text c =>
    rw [dropReturn_concat]
    split
    next same => rw [List.append_nil, same, trim_concat_blank (by decide)]
    next => rfl

@[simp] theorem separatedLines_append_cons (before after : Text) :
    separatedLines (before ++ '\n' :: after) = separatedLines before ++ separatedLines after := by
  rw [separatedLines, splitAt_append_cons, List.map_append]
  rfl

theorem newline_not_mem_of_mem_separatedLines {text line : Text}
    (h : line ∈ separatedLines text) : '\n' ∉ line := by
  obtain ⟨piece, hp, rfl⟩ := List.mem_map.1 h
  exact fun hn => not_mem_of_mem_splitAt hp ((dropReturn_sublist piece).subset hn)

/-- A line that a newline may follow: it holds none, and a carriage return at its end would be taken
for a part of the newline. -/
def IsLine (line : Text) : Prop := '\n' ∉ line ∧ line.getLast? ≠ some '\r'

/-- A text that can stand at the end of a line and be found again. -/
structure IsPhrase (text : Text) : Prop where
  ne_nil : text ≠ []
  trimmed : trim text = text
  one_line : '\n' ∉ text

@[simp] theorem IsPhrase.head_clear {text : Text} (h : IsPhrase text) :
    ∀ c ∈ text.head?, Unicode.isBlank c = false := (trim_eq_self_iff.1 h.trimmed).1

theorem splitAt_join_of_clear {lines : List Text} (h : ∀ line ∈ lines, '\n' ∉ line)
    (hn : lines ≠ []) : splitAt '\n' (join ['\n'] lines) = lines := by
  rw [splitAt_eq_splitOn]
  exact List.splitOn_intercalate '\n' h hn

theorem splitAt_join {lines : List Text} (h : ∀ line ∈ lines, IsLine line) (hn : lines ≠ []) :
    splitAt '\n' (join ['\n'] lines) = lines :=
  splitAt_join_of_clear (fun line hl => (h line hl).1) hn

@[simp] theorem separatedLines_join {lines : List Text} (h : ∀ line ∈ lines, IsLine line)
    (hn : lines ≠ []) : separatedLines (join ['\n'] lines) = lines := by
  rw [separatedLines, splitAt_join h hn]
  exact (List.map_congr_left fun line hl => dropReturn_eq_self (h line hl).2).trans
    (List.map_id lines)

/-- What ends a line before the last pieces does not depend on them. -/
theorem endLines_append (front : List Text) {back : List Text} (h : back ≠ []) :
    endLines (front ++ back) = front.map dropReturn ++ endLines back := by
  induction front with
  | nil => rfl
  | cons piece front ih =>
    have more : front ++ back ≠ [] := List.append_ne_nil_of_right_ne_nil front h
    obtain ⟨next, rest, cut⟩ := List.exists_cons_of_ne_nil more
    rw [List.cons_append, cut, endLines, ← cut, ih, List.map_cons, List.cons_append]

theorem exists_piece_of_mem_endLines {pieces : List Text} {line : Text}
    (h : line ∈ endLines pieces) : ∃ piece ∈ pieces, trim line = trim piece := by
  fun_induction endLines pieces with
  | case1 => cases h
  | case2 => cases h
  | case3 last => exact ⟨last, by simp, congrArg trim (List.mem_singleton.1 h)⟩
  | case4 piece next pieces ih =>
    obtain rfl | h := List.mem_cons.1 h
    · exact ⟨piece, by simp, trim_dropReturn piece⟩
    · obtain ⟨other, listed, same⟩ := ih h
      exact ⟨other, List.mem_cons_of_mem _ listed, same⟩

theorem endLines_eq_self {lines : List Text} (h : ∀ line ∈ lines, IsLine line)
    (he : [] ∉ lines) : endLines lines = lines := by
  fun_induction endLines lines with
  | case1 => rfl
  | case2 => simp at he
  | case3 => rfl
  | case4 piece next pieces ih =>
    rw [dropReturn_eq_self (h piece (by simp)).2,
      ih (fun line hl => h line (by simp [hl])) (fun hl => he (by simp [hl]))]

@[simp] theorem terminatedLines_join {lines : List Text} (h : ∀ line ∈ lines, IsLine line)
    (he : [] ∉ lines) : terminatedLines (join ['\n'] lines) = lines := by
  cases lines with
  | nil => rfl
  | cons line lines => rw [terminatedLines, splitAt_join h (by simp), endLines_eq_self h he]

end Text
end HttpContract
