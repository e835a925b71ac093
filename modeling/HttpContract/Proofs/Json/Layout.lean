import HttpContract.Json.Parse
import HttpContract.Proofs.Text.Basic
import HttpContract.Proofs.Text.Lines

/-! JSON documents as lexemes with blanks around them. No lexeme goes beyond its line, so blank
lines and carriage returns can be dropped, and no line starts with anything but a lexeme. -/
namespace HttpContract

namespace Json

theorem isBlank_of_isBlank {c : Char} (h : isBlank c = true) : Unicode.isBlank c = true := by
  simp only [isBlank, Bool.or_eq_true, beq_iff_eq] at h
  rcases h with ((rfl | rfl) | rfl) | rfl <;> decide

/-- What can be a lexeme of a document that is cut into lines: it keeps to its line and starts
neither with a blank nor with a mark that lines are told apart by. -/
structure IsLexeme (lexeme : Text) : Prop where
  ne_nil : lexeme ≠ []
  no_newline : '\n' ∉ lexeme
  no_return : '\r' ∉ lexeme
  start : ∀ c ∈ lexeme.head?, Unicode.isBlank c = false ∧ c ≠ '@' ∧ c ≠ '#'

theorem IsLexeme.exists_cons {lexeme : Text} (h : IsLexeme lexeme) :
    ∃ c rest, lexeme = c :: rest ∧ Unicode.isBlank c = false ∧ c ≠ '@' ∧ c ≠ '#' := by
  obtain ⟨c, rest, rfl⟩ := List.exists_cons_of_ne_nil h.ne_nil
  exact ⟨c, rest, rfl, h.start c rfl⟩

/-- Lexemes with blanks around them. -/
inductive Laid : List Text → Text → Prop
  | done : Laid [] []
  | blank {c : Char} {lexemes : List Text} {text : Text} (h : isBlank c = true)
      (rest : Laid lexemes text) : Laid lexemes (c :: text)
  | lexeme {lexeme : Text} {lexemes : List Text} {text : Text} (h : IsLexeme lexeme)
      (rest : Laid lexemes text) : Laid (lexeme :: lexemes) (lexeme ++ text)

namespace Laid

variable {lexeme : Text} {lexemes : List Text} {text : Text}

theorem of_cons {c : Char} (blank : Unicode.isBlank c = true) (h : Laid lexemes (c :: text)) :
    Laid lexemes text := by
  generalize whole : c :: text = all at h
  cases h with
  | done => cases whole
  | blank _ rest =>
    obtain ⟨-, rfl⟩ := List.cons.inj whole
    exact rest
  | lexeme h rest =>
    obtain ⟨first, tail, rfl, clear, -⟩ := h.exists_cons
    obtain ⟨rfl, -⟩ := List.cons.inj whole
    rw [blank] at clear
    cases clear

theorem of_append {front : Text} (blank : ∀ c ∈ front, Unicode.isBlank c = true)
    (h : Laid lexemes (front ++ text)) : Laid lexemes text := by
  induction front with
  | nil => exact h
  | cons c front ih => exact ih (fun c hc => blank c (by simp [hc])) (h.of_cons (blank c (by simp)))

@[simp] theorem skip_iff : Laid lexemes (skip text) ↔ Laid lexemes text := by
  induction text with
  | nil => rfl
  | cons c text ih =>
    by_cases h : isBlank c = true
    · have next : skip (c :: text) = skip text := by simp [skip, h]
      rw [next, ih]
      exact ⟨.blank h, .of_cons (isBlank_of_isBlank h)⟩
    · have stays : skip (c :: text) = c :: text := by simp [skip, h]
      rw [stays]

theorem exists_skip (h : Laid (lexeme :: lexemes) text) :
    ∃ behind, skip text = lexeme ++ behind ∧ Laid lexemes behind := by
  generalize all : lexeme :: lexemes = lexemes' at h
  induction h with
  | done => cases all
  | @blank c _ text blank rest ih =>
    have next : skip (c :: text) = skip text := by simp [skip, blank]
    rw [next]
    exact ih all
  | lexeme h rest =>
    obtain ⟨rfl, rfl⟩ := List.cons.inj all
    obtain ⟨c, tail, rfl, clear, -⟩ := h.exists_cons
    have shown : isBlank c = false := by
      rw [Bool.eq_false_iff]
      exact fun blank => by simp [isBlank_of_isBlank blank] at clear
    exact ⟨_, by simp [skip, shown], rest⟩

@[simp] theorem nil_iff : Laid [] text ↔ skip text = [] := by
  refine ⟨fun h => ?_, fun h => skip_iff.1 (h ▸ .done)⟩
  generalize none_left : [] = lexemes at h
  induction h with
  | done => rfl
  | @blank c _ text blank rest ih =>
    have next : skip (c :: text) = skip text := by simp [skip, blank]
    rw [next]
    exact ih none_left
  | lexeme => cases none_left

def isShown (line : Text) : Bool := !(Text.trim line).isEmpty

/-- The first lexeme starts on the first line that is shown. -/
theorem head?_trim_of_skip {line rest behind : Text} {c : Char} (shown : isShown line = true)
    (clear : Unicode.isBlank c = false) (h : skip (line ++ rest) = c :: behind) :
    (Text.trim line).head? = some c := by
  induction line with
  | nil => cases shown
  | cons d line ih =>
    by_cases blank : isBlank d = true
    · have next : skip (d :: line ++ rest) = skip (line ++ rest) := by simp [skip, blank]
      have moved : Text.trim (d :: line) = Text.trim line := by
        rw [Text.trim, Text.trimStart_cons_blank (isBlank_of_isBlank blank), Text.trim]
      rw [isShown, moved] at shown
      rw [moved]
      exact ih shown (next ▸ h)
    · have stays : skip (d :: line ++ rest) = d :: (line ++ rest) := by simp [skip, blank]
      obtain ⟨rfl, -⟩ := List.cons.inj (stays.symm.trans h)
      rw [Text.trim_cons clear, List.head?_cons]

theorem blank_of_isShown_eq_false {line : Text} (h : isShown line = false) :
    ∀ c ∈ line, Unicode.isBlank c = true := by
  rw [← Text.trim_eq_nil_iff]
  simpa [isShown] using h

def continued (lines : List Text) : Text := lines.flatMap ('\n' :: ·)

theorem join_cons (line : Text) (lines : List Text) :
    Text.join ['\n'] (line :: lines) = line ++ continued lines := by
  induction lines generalizing line with
  | nil => simp [Text.join, List.intercalate, continued]
  | cons next lines ih =>
    have step : Text.join ['\n'] (line :: next :: lines) =
        line ++ '\n' :: Text.join ['\n'] (next :: lines) := by
      simp [Text.join, List.intercalate]
    rw [step, ih, continued, continued, List.flatMap_cons, List.cons_append]

/-- Carriage returns and blank lines behind the first line can be dropped. -/
theorem dropReturn_continued (h : Laid lexemes text) {first : Text} {others : List Text}
    (cut : Text.splitAt '\n' text = first :: others) :
    Laid lexemes (Text.dropReturn first ++
      continued ((others.map Text.dropReturn).filter isShown)) := by
  induction h generalizing first others with
  | done =>
    obtain ⟨rfl, rfl⟩ := List.cons.inj cut
    exact .done
  | @blank c lexemes text blank rest ih =>
    obtain ⟨piece, pieces, cut'⟩ := List.exists_cons_of_ne_nil (Text.splitAt_ne_nil '\n' text)
    have rest' := ih cut'
    by_cases newline : c = '\n'
    -- The first line of the rest becomes one of the others, and may be blank.
    · rw [Text.splitAt, if_pos newline, cut'] at cut
      obtain ⟨rfl, rfl⟩ := List.cons.inj cut
      cases shown : isShown (Text.dropReturn piece) with
      | true =>
        simp only [List.map_cons, List.filter_cons, shown, if_true]
        exact .blank (by decide) rest'
      | false =>
        simp only [List.map_cons, List.filter_cons, shown]
        exact rest'.of_append (blank_of_isShown_eq_false shown)
    · rw [Text.splitAt, if_neg newline, cut'] at cut
      obtain ⟨rfl, rfl⟩ := List.cons.inj cut
      cases piece with
      | nil =>
        simp only [Text.dropReturn]
        split
        · exact rest'
        · exact .blank blank rest'
      | cons d piece => exact .blank blank rest'
  | @lexeme lexeme lexemes text h rest ih =>
    obtain ⟨piece, pieces, cut'⟩ := List.exists_cons_of_ne_nil (Text.splitAt_ne_nil '\n' text)
    rw [Text.splitAt_append h.no_newline, cut', List.modifyHead_cons] at cut
    obtain ⟨rfl, rfl⟩ := List.cons.inj cut
    rw [Text.dropReturn_append h.no_return, List.append_assoc]
    exact .lexeme h (ih cut')

theorem join_shown (h : Laid lexemes text) :
    Laid lexemes (Text.join ['\n'] ((Text.separatedLines text).filter isShown)) := by
  obtain ⟨first, others, cut⟩ := List.exists_cons_of_ne_nil (Text.splitAt_ne_nil '\n' text)
  have kept := h.dropReturn_continued cut
  rw [Text.separatedLines, cut, List.map_cons, List.filter_cons]
  split
  next => rwa [join_cons]
  next hidden =>
    have rest := kept.of_append (blank_of_isShown_eq_false (by simpa using hidden))
    cases lines : (others.map Text.dropReturn).filter isShown with
    | nil => rwa [lines] at rest
    | cons line lines' =>
      rw [lines] at rest
      rw [join_cons]
      exact rest.of_cons (by decide)

theorem line_start (h : Laid lexemes text) : ∀ piece ∈ Text.splitAt '\n' text,
    ∀ c ∈ (Text.trim piece).head?, c ≠ '@' ∧ c ≠ '#' := by
  induction h with
  | done =>
    intro piece hp
    obtain rfl := List.mem_singleton.1 hp
    simp [Text.trim, Text.trimStart, Text.trimEnd]
  | @blank c lexemes text blank rest ih =>
    obtain ⟨first, others, cut⟩ := List.exists_cons_of_ne_nil (Text.splitAt_ne_nil '\n' text)
    intro piece hp
    by_cases newline : c = '\n'
    · rw [Text.splitAt, if_pos newline] at hp
      obtain rfl | hp := List.mem_cons.1 hp
      · simp [Text.trim, Text.trimStart, Text.trimEnd]
      · exact ih piece hp
    · rw [Text.splitAt, if_neg newline, cut] at hp
      rw [cut] at ih
      obtain rfl | hp := List.mem_cons.1 hp
      · rw [Text.trim, Text.trimStart_cons_blank (isBlank_of_isBlank blank)]
        exact ih first (by simp)
      · exact ih piece (by simp [hp])
  | @lexeme lexeme lexemes text h rest ih =>
    obtain ⟨first, others, cut⟩ := List.exists_cons_of_ne_nil (Text.splitAt_ne_nil '\n' text)
    intro piece hp
    rw [Text.splitAt_append h.no_newline, cut, List.modifyHead_cons] at hp
    obtain rfl | hp := List.mem_cons.1 hp
    · obtain ⟨c, tail, rfl, clear, marks⟩ := h.exists_cons
      rw [List.cons_append, Text.trim_cons clear]
      intro d hd
      obtain rfl := Option.some.inj hd
      exact marks
    · exact ih piece (by simp [cut, hp])

end Laid
end Json
end HttpContract
