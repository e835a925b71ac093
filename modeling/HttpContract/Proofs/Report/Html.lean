import HttpContract.Proofs.Report.Markup
import HttpContract.Proofs.Time.Duration
import HttpContract.Report.Html

/-! The tags of the report depend on nothing but the verdicts of the results in the order of their
names, and every name and every message can be read back from it. -/
namespace HttpContract
namespace HtmlReport

open Markup

def failure? (result : TestResult) : Option Text :=
  if result.passed then none else result.error

def messages (result : TestResult) : List Text :=
  (failure? result).toList.map fun message => "Error: " ++ message

/-- The results in the order of their names; those of one name are in the order of the run. -/
structure IsByName (results ordered : List TestResult) : Prop where
  perm : ordered.Perm results
  names_le : ordered.Pairwise fun a b => ¬ b.name < a.name
  stable : ∀ name, ordered.filter (·.name = name) = results.filter (·.name = name)

def frontTags : List Text :=
  ["<!DOCTYPE html>", "<html lang=\"en\">", "<head>", "<meta charset=\"utf-8\">", "<title>",
    "</title>", "<style>", "</style>", "</head>", "<body>", "<h1>", "</h1>", "<p>", "</p>",
    "<div class=\"summary\">", "<div>", "<strong>", "</strong>", "</div>", "<div>", "<strong>",
    "</strong>", "</div>", "<div>", "<strong>", "</strong>", "</div>", "<div>", "<strong>",
    "</strong>", "</div>", "</div>"]

def itemTags (passed complains : Bool) : List Text :=
  let opening : Text :=
    if passed then "<div class=\"test passed\">" else "<div class=\"test failed\">"
  let complaint : List Text := if complains then ["<p class=\"error\">", "</p>"] else []
  opening :: "<h3>" :: "</h3>" :: "<p>" :: "</p>" :: (complaint ++ [("</div>" : Text)])

def backTags : List Text := ["</body>", "</html>"]

def nameTag : Text := "<h3>"

def messageTag : Text := "<p class=\"error\">"

@[simp]
theorem isByName_sorted (results : List TestResult) : IsByName results (sorted results) := by
  have trans (a b c : TestResult) (hab : (!decide (b.name < a.name)) = true)
      (hbc : (!decide (c.name < b.name)) = true) : (!decide (c.name < a.name)) = true := by
    rw [Bool.not_eq_true', decide_eq_false_iff_not] at *
    exact List.le_trans hab hbc
  have total (a b : TestResult) :
      ((!decide (b.name < a.name)) || (!decide (a.name < b.name))) = true := by
    rw [Bool.or_eq_true, Bool.not_eq_true', Bool.not_eq_true', decide_eq_false_iff_not,
      decide_eq_false_iff_not]
    exact List.le_total a.name b.name
  have perm : (sorted results).Perm results := List.mergeSort_perm ..
  have ordered := List.pairwise_mergeSort trans total results
  refine ⟨perm, ordered.imp fun h => by simpa using h, fun name => ?_⟩
  -- The results of one name are in order as they are, so sorting keeps them as a sublist.
  have alike : (results.filter (·.name = name)).Pairwise
      fun a b => (!decide (b.name < a.name)) = true := by
    refine List.pairwise_of_forall_mem_list fun a ha b hb => ?_
    obtain rfl : a.name = name := by simpa using (List.mem_filter.1 ha).2
    obtain same : b.name = a.name := by simpa using (List.mem_filter.1 hb).2
    simp [same]
  have kept := (List.sublist_mergeSort trans total alike List.filter_sublist).filter (·.name = name)
  simp only [List.filter_filter, Bool.and_self] at kept
  exact (kept.eq_of_length (perm.filter _).length_eq.symm).symm

def front (summary : Summary) (time : Timestamp) : List Piece :=
  head ++ generated time ++ totals summary

section

variable (result : TestResult)

@[simp] theorem isWhole_item : (item result).all Piece.isWhole = true := by
  cases hp : result.passed <;> cases he : result.error <;>
    simp only [item, complaint, hp, he] <;> rfl

@[simp] theorem tags_item : (outline (item result)).map Prod.fst =
    itemTags result.passed (failure? result).isSome := by
  cases hp : result.passed <;> cases he : result.error <;>
    simp only [item, complaint, failure?, hp, he] <;> rfl

@[simp] theorem names_item : textsIn nameTag (item result) = [result.name] := by
  cases hp : result.passed <;> cases he : result.error <;>
    simp only [item, complaint, hp, he] <;>
    exact congrArg ([·]) (List.append_nil result.name)

@[simp] theorem messages_item : textsIn messageTag (item result) = messages result := by
  cases hp : result.passed <;> cases he : result.error <;>
    simp only [item, complaint, messages, failure?, hp, he]
  case false.some error => exact congrArg ([·]) (List.append_nil (("Error: " : Text) ++ error))
  all_goals rfl

end

@[simp] theorem leadingText_items (results : List TestResult) :
    leadingText (results.flatMap item ++ foot) = [] := by cases results <;> rfl

@[simp] theorem outline_items (results : List TestResult) : outline (results.flatMap item ++ foot) =
    results.flatMap (fun result => outline (item result)) ++ outline foot := by
  induction results with
  | nil => rfl
  | cons result results ih =>
    rw [List.flatMap_cons, List.append_assoc, outline_append _ (leadingText_items results), ih,
      List.flatMap_cons, List.append_assoc]

section

variable (summary : Summary) (results : List TestResult) (time : Timestamp)

@[simp] theorem isWhole_page : (page summary results time).all Piece.isWhole = true := by
  have before : (head ++ generated time ++ totals summary).all Piece.isWhole = true := rfl
  have behind : foot.all Piece.isWhole = true := rfl
  simp only [page, List.all_append, List.all_flatMap, isWhole_item] at before behind ⊢
  simp [before, behind]

@[simp] theorem outline_page : outline (page summary results time) = outline (front summary time) ++
    ((sorted results).flatMap (fun result => outline (item result)) ++ outline foot) := by
  rw [page, List.append_assoc (head ++ generated time ++ totals summary),
    outline_append _ (leadingText_items _), outline_items]
  rfl

@[simp] theorem tags_page : (outline (page summary results time)).map Prod.fst = frontTags ++
    ((sorted results).flatMap (fun r => itemTags r.passed (failure? r).isSome) ++ backTags) := by
  rw [outline_page, List.map_append, List.map_append, List.map_flatMap]
  simp only [tags_item]
  rfl

/-- Nothing of the page outside its items stands behind the tag. -/
theorem textsIn_page {tag : Text} (before : textsIn tag (front summary time) = [])
    (behind : textsIn tag foot = []) : textsIn tag (page summary results time) =
      (sorted results).flatMap fun result => textsIn tag (item result) := by
  simp only [textsIn] at before behind
  simp only [textsIn, outline_page, List.filter_append, List.map_append, before, behind,
    List.nil_append, List.append_nil, List.filter_flatMap, List.map_flatMap]

end

/-- Whatever the results say, the page has the tags of its frame and of one item for each result,
and the names and the messages are all there. -/
theorem render?_markup (results : List TestResult) (time : Timestamp)
    (fits : Duration.exactSum (results.map TestResult.elapsed) ≤ Duration.greatest.totalNanos) :
    ∃ ordered page, IsByName results ordered ∧ render? results time = some page ∧
      tags page = frontTags ++
        (ordered.flatMap (fun r => itemTags r.passed (failure? r).isSome) ++ backTags) ∧
      textsBehind nameTag page = ordered.map (·.name) ∧
      textsBehind messageTag page = ordered.flatMap messages := by
  obtain ⟨totalTime, exact⟩ := Duration.exists_totalNanos fits
  have sum : Duration.sum? (results.map TestResult.elapsed) = some totalTime := by
    rw [Duration.sum?_eq_some_iff, exact]
  obtain ⟨summary, counted⟩ : ∃ summary, Summary.ofResults? results = some summary := by
    simp [Summary.ofResults?, sum]
  refine ⟨sorted results, Markup.render (page summary results time), isByName_sorted results,
    by rw [render?, counted, Option.map_some], ?_, ?_, ?_⟩
  · rw [tags_render (isWhole_page ..), tags_page]
  · rw [textsBehind_render (isWhole_page ..), textsIn_page _ _ _ rfl rfl]
    simp only [names_item, List.map_eq_flatMap]
  · rw [textsBehind_render (isWhole_page ..), textsIn_page _ _ _ rfl rfl]
    simp only [messages_item]

/-- A run whose texts look like markup. -/
def scriptRun : List TestResult :=
  [{ name := "b_<script>", passed := false, actual := some 500, expected := some 200,
     error := some "got <html> & \"more\"", elapsed := .ofMillis 3, startedAt := ⟨0, 0, 0⟩ },
   { name := "a_</h3>", passed := true, actual := some 200, expected := some 200, error := none,
     elapsed := .ofMillis 1, startedAt := ⟨0, 0, 0⟩ }]

theorem render?_markup_scriptRun :
    Duration.exactSum (scriptRun.map TestResult.elapsed) ≤ Duration.greatest.totalNanos ∧
    ∃ ordered page, IsByName scriptRun ordered ∧ render? scriptRun ⟨0, 0, 0⟩ = some page ∧
      tags page = frontTags ++
        (ordered.flatMap (fun r => itemTags r.passed (failure? r).isSome) ++ backTags) ∧
      textsBehind nameTag page = ordered.map (·.name) ∧
      textsBehind messageTag page = ordered.flatMap messages :=
  ⟨by decide, render?_markup scriptRun ⟨0, 0, 0⟩ (by decide)⟩

end HtmlReport
end HttpContract
