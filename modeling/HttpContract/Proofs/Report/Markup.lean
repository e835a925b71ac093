import HttpContract.Proofs.Text.Basic
import HttpContract.Report.Markup

/-! How a written page is read: cut at its angle brackets, it gives back the tags that it was
written from, and unescaping gives back the texts between them. -/
namespace HttpContract
namespace Markup

/-- Replaces the five character references, from left to right. -/
def unescape : Text → Text
  | '&' :: 'a' :: 'm' :: 'p' :: ';' :: rest => '&' :: unescape rest
  | '&' :: 'l' :: 't' :: ';' :: rest => '<' :: unescape rest
  | '&' :: 'g' :: 't' :: ';' :: rest => '>' :: unescape rest
  | '&' :: 'q' :: 'u' :: 'o' :: 't' :: ';' :: rest => '"' :: unescape rest
  | '&' :: '#' :: '3' :: '9' :: ';' :: rest => '\'' :: unescape rest
  | c :: rest => c :: unescape rest
  | [] => []

/-- The first tag, from an opening bracket to the next closing one, without the brackets, and what
stands behind it. -/
def nextTag? (page : Text) : Option (Text × Text) :=
  (Text.splitFirst? '<' page).bind fun (_, inside) => Text.splitFirst? '>' inside

theorem length_lt_of_nextTag? {page tag behind : Text} (h : nextTag? page = some (tag, behind)) :
    behind.length < page.length := by
  obtain ⟨⟨before, inside⟩, opened, closed⟩ := Option.bind_eq_some_iff.1 h
  obtain ⟨rfl, -⟩ := Text.splitFirst?_eq_some_iff.1 opened
  obtain ⟨rfl, -⟩ := Text.splitFirst?_eq_some_iff.1 closed
  simp only [List.length_append, List.length_cons]
  omega

/-- The tags of a page and what stands behind each of them up to the next opening bracket. -/
def sections (page : Text) : List (Text × Text) :=
  match h : nextTag? page with
  | none => []
  | some (tag, behind) =>
    have := length_lt_of_nextTag? h
    ('<' :: tag ++ ['>'], behind.takeWhile (· != '<')) :: sections behind
termination_by page.length

def tags (page : Text) : List Text := (sections page).map Prod.fst

/-- The texts behind a tag, as they were before they were escaped. -/
def textsBehind (tag page : Text) : List Text :=
  ((sections page).filter fun (other, _) => other == tag).map fun (_, text) => unescape text

@[simp] theorem unescape_cons {c : Char} (h : c ≠ '&') (rest : Text) :
    unescape (c :: rest) = c :: unescape rest := by
  conv_lhs => unfold unescape
  split <;> simp_all

@[simp] theorem unescape_escapeChar (c : Char) (rest : Text) :
    unescape (escapeChar c ++ rest) = c :: unescape rest := by
  unfold escapeChar
  split
  case h_6 => exact unescape_cons (by assumption) rest
  all_goals rfl

@[simp] theorem escape_cons (c : Char) (text : Text) :
    escape (c :: text) = escapeChar c ++ escape text := List.flatMap_cons ..

@[simp] theorem unescape_escape (text : Text) : unescape (escape text) = text := by
  induction text with
  | nil => rfl
  | cons c text ih => rw [escape_cons, unescape_escapeChar, ih]

@[simp] theorem escape_append (a b : Text) : escape (a ++ b) = escape a ++ escape b :=
  List.flatMap_append ..

@[simp] theorem not_mem_escape (text : Text) : '<' ∉ escape text := by
  simp only [escape, List.mem_flatMap, not_exists, not_and]
  intro c _
  unfold escapeChar
  split
  case h_6 _ _ other _ _ _ => simpa using Ne.symm other
  all_goals decide

@[simp] theorem sections_of_none {page : Text} (h : nextTag? page = none) : sections page = [] := by
  rw [sections]
  split <;> simp_all

theorem sections_of_some {page tag behind : Text} (h : nextTag? page = some (tag, behind)) :
    sections page =
      ('<' :: tag ++ ['>'], behind.takeWhile (· != '<')) :: sections behind := by
  rw [sections]
  split <;> simp_all

/-- What stands before the first opening bracket makes no difference. -/
theorem sections_append {front : Text} (h : '<' ∉ front) (page : Text) :
    sections (front ++ page) = sections page := by
  have same : nextTag? (front ++ page) = nextTag? page := by
    rw [nextTag?, Text.splitFirst?_append h, Option.bind_map]
    rfl
  cases next : nextTag? page with
  | none => rw [sections_of_none next, sections_of_none (same.trans next)]
  | some found =>
    obtain ⟨tag, behind⟩ := found
    rw [sections_of_some next, sections_of_some (same.trans next)]

@[simp] theorem sections_tag {content : Text} (h : '>' ∉ content) (page : Text) :
    sections ('<' :: content ++ '>' :: page) =
      ('<' :: content ++ ['>'], page.takeWhile (· != '<')) :: sections page := by
  refine sections_of_some ?_
  have cut : Text.splitFirst? '>' (content ++ '>' :: page) = some (content, page) :=
    Text.splitFirst?_eq_some_iff.2 ⟨rfl, h⟩
  simp [nextTag?, Text.splitFirst?, cut]

def leadingText : List Piece → Text
  | .text content :: pieces => content ++ leadingText pieces
  | _ => []

def outline : List Piece → List (Text × Text)
  | [] => []
  | .tag content :: pieces => ('<' :: content ++ ['>'], leadingText pieces) :: outline pieces
  | .text _ :: pieces => outline pieces

def textsIn (tag : Text) (pieces : List Piece) : List Text :=
  ((outline pieces).filter fun (other, _) => other == tag).map Prod.snd

theorem outline_append (front : List Piece) {pieces : List Piece} (h : leadingText pieces = []) :
    outline (front ++ pieces) = outline front ++ outline pieces := by
  have lead : ∀ front, leadingText (front ++ pieces) = leadingText front := by
    intro front
    induction front with
    | nil => exact h
    | cons piece front ih => cases piece <;> simp [leadingText, ih]
  induction front with
  | nil => rfl
  | cons piece front ih => cases piece <;> simp [outline, lead, ih]

@[simp] theorem takeWhile_render (pieces : List Piece) :
    (render pieces).takeWhile (· != '<') = escape (leadingText pieces) := by
  induction pieces with
  | nil => rfl
  | cons piece pieces ih =>
    have cut : render (piece :: pieces) = piece.render ++ render pieces := List.flatMap_cons ..
    cases piece with
    | tag content => simp [cut, Piece.render, leadingText, escape]
    | text content =>
      have clear : ∀ c ∈ escape content, (c != '<') = true := fun c hc =>
        bne_iff_ne.2 fun same => not_mem_escape content (same ▸ hc)
      rw [cut, Piece.render, List.takeWhile_append_of_pos clear, ih, leadingText, escape_append]

/-- A piece that ends at its own closing bracket, if it has one. -/
def Piece.isWhole : Piece → Bool
  | tag content => !decide ('>' ∈ content)
  | text _ => true

theorem sections_render {pieces : List Piece} (whole : pieces.all Piece.isWhole = true) :
    sections (render pieces) = (outline pieces).map fun (tag, text) => (tag, escape text) := by
  induction pieces with
  | nil => exact sections_of_none rfl
  | cons piece pieces ih =>
    have cut : render (piece :: pieces) = piece.render ++ render pieces := List.flatMap_cons ..
    rw [List.all_cons, Bool.and_eq_true] at whole
    cases piece with
    | tag content =>
      have inside : '>' ∉ content := by simpa [Piece.isWhole] using whole.1
      have joined : (Piece.tag content).render ++ render pieces =
          '<' :: content ++ '>' :: render pieces := by simp [Piece.render]
      rw [cut, joined, sections_tag inside, takeWhile_render, ih whole.2]
      rfl
    | text content =>
      rw [cut, Piece.render, sections_append (not_mem_escape content), ih whole.2]
      rfl

section

variable {pieces : List Piece} (whole : pieces.all Piece.isWhole = true)

include whole

@[simp] theorem tags_render : tags (render pieces) = (outline pieces).map Prod.fst := by
  rw [tags, sections_render whole, List.map_map]
  rfl

@[simp] theorem textsBehind_render (tag : Text) :
    textsBehind tag (render pieces) = textsIn tag pieces := by
  rw [textsBehind, sections_render whole, List.filter_map, List.map_map]
  refine List.map_congr_left fun (other, text) _ => ?_
  exact unescape_escape text

end

end Markup
end HttpContract
