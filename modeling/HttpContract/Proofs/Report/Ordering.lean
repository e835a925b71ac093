import HttpContract.Proofs.Report.Html
import HttpContract.Proofs.Run.Summary
import HttpContract.Proofs.Text.Utf8

/-! The report shows the results in the order of their names. It does not tell in what order they
came, except for results of one name. -/
namespace HttpContract
namespace HtmlReport

open Markup

theorem mem_of_filter_eq {results others : List TestResult}
    (same : ∀ name, results.filter (·.name = name) = others.filter (·.name = name))
    {result : TestResult} (h : result ∈ results) : result ∈ others := by
  have listed : result ∈ results.filter (·.name = result.name) := by simpa using h
  rw [same] at listed
  exact (List.mem_filter.1 listed).1

/-- The order of the names and the order within each name leave no choice. -/
theorem eq_of_names {results others : List TestResult}
    (ordered : results.Pairwise fun a b => ¬ b.name < a.name)
    (ordered' : others.Pairwise fun a b => ¬ b.name < a.name)
    (same : ∀ name, results.filter (·.name = name) = others.filter (·.name = name)) :
    results = others := by
  induction results generalizing others with
  | nil =>
    cases others with
    | nil => rfl
    | cons other others => exact absurd (mem_of_filter_eq (fun name => (same name).symm)
        List.mem_cons_self) List.not_mem_nil
  | cons first results ih =>
    cases others with
    | nil => exact absurd (mem_of_filter_eq same List.mem_cons_self) List.not_mem_nil
    | cons other others =>
      obtain ⟨least, later⟩ := List.pairwise_cons.1 ordered
      obtain ⟨least', later'⟩ := List.pairwise_cons.1 ordered'
      -- Each first result is listed on the other side, so neither name comes before the other one.
      have name : first.name = other.name := by
        have here : first ∈ other :: others := mem_of_filter_eq same List.mem_cons_self
        have there : other ∈ first :: results :=
          mem_of_filter_eq (fun name => (same name).symm) List.mem_cons_self
        obtain rfl | here := List.mem_cons.1 here
        · rfl
        obtain rfl | there := List.mem_cons.1 there
        · rfl
        exact List.le_antisymm (least other there) (least' first here)
      have heads := same first.name
      rw [List.filter_cons_of_pos (by simp), List.filter_cons_of_pos (by simp [name])] at heads
      obtain rfl := (List.cons.inj heads).1
      refine congrArg (first :: ·) (ih later later' fun name => ?_)
      have tails := same name
      rw [List.filter_cons, List.filter_cons] at tails
      split at tails
      · exact (List.cons.inj tails).2
      · exact tails

theorem IsByName.unique {results others ordered ordered' : List TestResult}
    (h : IsByName results ordered) (h' : IsByName others ordered')
    (same : ∀ name, results.filter (·.name = name) = others.filter (·.name = name)) :
    ordered = ordered' :=
  eq_of_names h.names_le h'.names_le fun name => by rw [h.stable, h'.stable, same]

def itemText (result : TestResult) : Text := Markup.render (item result)

theorem render_page (summary : Summary) (results : List TestResult) (time : Timestamp) :
    Markup.render (page summary results time) = Markup.render (front summary time) ++
      (sorted results).flatMap itemText ++ Markup.render foot := by
  simp only [page, front, Markup.render, List.flatMap_append, List.flatMap_assoc]
  rfl

/-- A page that begins with the totals of the results and lists them by their names, which are
ordered by code points and by bytes alike. -/
structure IsOrderedPage (results : List TestResult) (time : Timestamp) (summary : Summary)
    (ordered : List TestResult) (page : Text) : Prop where
  tally : Summary.IsTally results summary
  by_name : IsByName results ordered
  by_bytes : ordered.Pairwise fun a b => ¬ Utf8.encode b.name < Utf8.encode a.name
  page_eq : page = Markup.render (front summary time) ++ ordered.flatMap itemText ++
    Markup.render foot
  names : textsBehind nameTag page = ordered.map (·.name)

theorem isOrderedPage_of_render? {results : List TestResult} {time : Timestamp} {output : Text}
    (h : render? results time = some output) :
    ∃ summary, IsOrderedPage results time summary (sorted results) output := by
  obtain ⟨summary, counted, rfl⟩ := Option.map_eq_some_iff.1 h
  have ordered := isByName_sorted results
  refine ⟨summary, Summary.isTally_of_ofResults? counted, ordered,
    ordered.names_le.imp fun le => by rwa [Utf8.encode_lt_encode_iff],
    render_page summary results time, ?_⟩
  rw [textsBehind_render (isWhole_page ..), textsIn_page _ _ _ rfl rfl]
  simp only [names_item, List.map_eq_flatMap]

theorem render?_congr {results others : List TestResult} (perm : others.Perm results)
    (same : ∀ name, others.filter (·.name = name) = results.filter (·.name = name))
    (time : Timestamp) : render? others time = render? results time := by
  have order : sorted others = sorted results :=
    (isByName_sorted others).unique (isByName_sorted results) same
  simp only [render?, page, Summary.ofResults?_perm perm, order]

/-- Runs of the same results in another order, in which those of one name keep theirs, have the same
page, or none if the times do not add up to a duration. The page lists every result once by the
names; the results of one name are in the order of the run. -/
theorem render?_ordered (results : List TestResult) (time : Timestamp) :
    (render? results time = none ↔
      18446744073709551615 * 1000000000 + 999999999 < Summary.exactTime results) ∧
    (∀ output, render? results time = some output →
      ∃ summary ordered, IsOrderedPage results time summary ordered output) ∧
    ∀ others, others.Perm results →
      (∀ name, others.filter (·.name = name) = results.filter (·.name = name)) →
      render? others time = render? results time := by
  refine ⟨?_, fun output shown => ?_, fun others perm same => render?_congr perm same time⟩
  · rw [render?, Option.map_eq_none_iff, Summary.ofResults?_eq_none_iff]
  · obtain ⟨summary, ordered⟩ := isOrderedPage_of_render? shown
    exact ⟨summary, sorted results, ordered⟩

/-- Two results of one name keep their order, and a name of four bytes comes behind one of three. -/
theorem render?_ordered_swapped :
    let result (name : Text) (status : StatusCode) : TestResult :=
      { (default : TestResult) with name, passed := true, actual := some status }
    let last := result "😀" 200
    let rest := [result "a" 200, result "｡" 200, result "a" 201]
    let time : Timestamp := ⟨0, 0, 0⟩
    (rest ++ [last]).Perm (last :: rest) ∧
    render? (rest ++ [last]) time = render? (last :: rest) time ∧
    ∃ output, render? (last :: rest) time = some output ∧
      ∃ summary ordered, IsOrderedPage (last :: rest) time summary ordered output := by
  intro result last rest time
  obtain ⟨-, shows, order⟩ := render?_ordered (last :: rest) time
  have perm : (rest ++ [last]).Perm (last :: rest) := List.perm_append_singleton ..
  refine ⟨perm, order _ perm fun name => ?_, _, rfl, shows _ rfl⟩
  by_cases own : last.name = name
  · subst own
    decide
  · have skipped (results : List TestResult) : (last :: results).filter (·.name = name) =
        results.filter (·.name = name) := List.filter_cons_of_neg (by simpa using own)
    rw [List.filter_append, skipped, skipped, List.filter_nil, List.append_nil]

end HtmlReport
end HttpContract
