import HttpContract.Definitions.RequestLine
import HttpContract.Proofs.Text.Lines

/-! The grammar of request lines: a verb, blanks, and something behind them. A line of this form is
read with that verb, and a version token behind blanks at its end is all that the target loses. -/
namespace HttpContract

namespace Method

@[simp] theorem mem_all (method : Method) : method ∈ all := by cases method <;> decide

@[simp] theorem text_ne_nil (method : Method) : method.text ≠ [] := by cases method <;> decide

theorem text_clear (method : Method) : ∀ c ∈ method.text, Unicode.isBlank c = false := by
  apply Text.clear_of_all
  cases method <;> decide

theorem text_injective {a b : Method} (h : a.text = b.text) : a = b := by
  revert h
  cases a <;> cases b <;> decide

end Method

namespace RequestLine

theorem behindBlanks?_eq_some_iff {text rest : Text} :
    behindBlanks? text = some rest ↔ ∃ gap, text = gap ++ rest ∧ gap ≠ [] ∧
      (∀ c ∈ gap, Unicode.isBlank c = true) ∧ rest ≠ [] ∧
      ∀ c ∈ rest.head?, Unicode.isBlank c = false := by
  constructor
  · intro h
    cases text with
    | nil => simp [behindBlanks?] at h
    | cons c text =>
      simp only [behindBlanks?, Bool.and_eq_true, Bool.not_eq_true', List.isEmpty_eq_false_iff,
        Option.ite_none_right_eq_some, Option.some.injEq] at h
      obtain ⟨⟨blank, remain⟩, rfl⟩ := h
      refine ⟨(c :: text).takeWhile Unicode.isBlank, List.takeWhile_append_dropWhile.symm,
        by simp [blank], fun _ => List.mem_takeWhile_imp, remain, Text.head?_trimStart _⟩
  · rintro ⟨gap, rfl, hgap, blank, remain, clear⟩
    have start : Text.trimStart (gap ++ rest) = rest := by
      rw [Text.trimStart, List.dropWhile_append_of_pos blank]
      exact Text.trimStart_eq_self_iff.2 clear
    obtain ⟨first, gap, rfl⟩ := List.exists_cons_of_ne_nil hgap
    rw [List.cons_append] at start ⊢
    simp [behindBlanks?, start, blank first (by simp), remain]

theorem read_eq_some_iff {method : Method} {line : Text} {request : RequestLine} :
    (do
      let behind ← Text.strip? method.text line
      let target ← behindBlanks? behind
      if '\n' ∈ target then none
      else some { method, target := dropVersion (Text.trim target) } : Option RequestLine) =
        some request ↔
      request.method = method ∧ ∃ gap rest, line = method.text ++ (gap ++ rest) ∧ gap ≠ [] ∧
        (∀ c ∈ gap, Unicode.isBlank c = true) ∧ rest ≠ [] ∧
        (∀ c ∈ rest.head?, Unicode.isBlank c = false) ∧ '\n' ∉ rest ∧
        request.target = dropVersion (Text.trim rest) := by
  obtain ⟨verb, target⟩ := request
  simp only [Option.bind_eq_bind, Option.bind_eq_some_iff, Text.strip?_eq_some_iff,
    behindBlanks?_eq_some_iff, Option.ite_none_left_eq_some, Option.some.injEq,
    RequestLine.mk.injEq]
  constructor
  · rintro ⟨behind, rfl, rest, ⟨gap, rfl, hgap, blank, remain, clear⟩, one, rfl, rfl⟩
    exact ⟨rfl, gap, rest, rfl, hgap, blank, remain, clear, one, rfl⟩
  · rintro ⟨rfl, gap, rest, rfl, hgap, blank, remain, clear, one, rfl⟩
    exact ⟨gap ++ rest, rfl, rest, ⟨gap, rfl, hgap, blank, remain, clear⟩, one, rfl, rfl⟩

/-- The verb of a request line is its first word. -/
theorem takeWhile_verb (method : Method) {gap : Text} (rest : Text) (hgap : gap ≠ [])
    (blank : ∀ c ∈ gap, Unicode.isBlank c = true) :
    (method.text ++ (gap ++ rest)).takeWhile (fun c => !Unicode.isBlank c) = method.text := by
  obtain ⟨first, gap, rfl⟩ := List.exists_cons_of_ne_nil hgap
  rw [List.takeWhile_append_of_pos fun c hc => by simp [method.text_clear c hc]]
  simp [blank first (by simp)]

theorem ofText?_eq_some_iff {line : Text} {request : RequestLine} :
    ofText? line = some request ↔ ∃ gap rest,
      line = request.method.text ++ (gap ++ rest) ∧ gap ≠ [] ∧
      (∀ c ∈ gap, Unicode.isBlank c = true) ∧ rest ≠ [] ∧
      (∀ c ∈ rest.head?, Unicode.isBlank c = false) ∧ '\n' ∉ rest ∧
      request.target = dropVersion (Text.trim rest) := by
  constructor
  · intro h
    obtain ⟨method, -, read⟩ := List.exists_of_findSome?_eq_some h
    obtain ⟨rfl, parts⟩ := read_eq_some_iff.1 read
    exact parts
  · rintro ⟨gap, rest, rfl, hgap, blank, remain, clear, one, told⟩
    have read := read_eq_some_iff.2 ⟨rfl, gap, rest, rfl, hgap, blank, remain, clear, one, told⟩
    cases h : ofText? (request.method.text ++ (gap ++ rest)) with
    | none =>
      have := List.findSome?_eq_none_iff.1 h request.method (Method.mem_all _)
      exact absurd (read.symm.trans this) (by simp)
    | some other =>
      -- Another verb cannot read the line, since both would be its first word.
      obtain ⟨method, -, read'⟩ := List.exists_of_findSome?_eq_some h
      obtain ⟨rfl, gap', rest', same, hgap', blank', -⟩ := read_eq_some_iff.1 read'
      have words := takeWhile_verb request.method rest hgap blank
      rw [same, takeWhile_verb other.method rest' hgap' blank'] at words
      rw [Method.text_injective words] at read'
      exact read'.symm.trans read

/-- A verb, blanks, and something behind them. -/
def HasForm (line : Text) : Prop :=
  ∃ (method : Method) (gap rest : Text), line = method.text ++ gap ++ rest ∧ gap ≠ [] ∧
    (∀ c ∈ gap, Unicode.isBlank c = true) ∧ rest ≠ []

/-- A trimmed line of the form of request lines is read with its verb, wherever the blanks behind
the verb are taken to end. -/
theorem ofText?_of_form {line : Text} (trimmed : Text.trim line = line) (one : '\n' ∉ line)
    {method : Method} {gap rest : Text} (cut : line = method.text ++ gap ++ rest) (hgap : gap ≠ [])
    (blank : ∀ c ∈ gap, Unicode.isBlank c = true) (remain : rest ≠ []) :
    ofText? line = some { method, target := dropVersion (Text.trim rest) } := by
  subst cut
  -- More blanks may stand at the start of the rest, but not up to the end of the line.
  have more : Text.trimStart rest ≠ [] := by
    intro none_left
    have last := (Text.trim_eq_self_iff.1 trimmed).2 (rest.getLast remain)
      (by simp [List.getLast?_append, List.getLast?_eq_some_getLast remain])
    have blank := List.dropWhile_eq_nil_iff.1 none_left _ (List.getLast_mem remain)
    rw [last] at blank
    cases blank
  have moved : rest.takeWhile Unicode.isBlank ++ Text.trimStart rest = rest :=
    List.takeWhile_append_dropWhile
  have same : Text.trim (Text.trimStart rest) = Text.trim rest := by
    rw [Text.trim, Text.trim, Text.trimStart_eq_self_iff.2 (Text.head?_trimStart rest)]
  refine ofText?_eq_some_iff.2 ⟨gap ++ rest.takeWhile Unicode.isBlank, Text.trimStart rest, ?_,
    by simp [hgap], ?_, more, Text.head?_trimStart rest, ?_, congrArg dropVersion same.symm⟩
  · rw [List.append_assoc, List.append_assoc, moved]
  · intro c hc
    obtain hc | hc := List.mem_append.1 hc
    · exact blank c hc
    · exact List.mem_takeWhile_imp hc
  · exact fun hn => one (List.mem_append_right _ ((List.dropWhile_suffix _).subset hn))

theorem isSome_ofText?_iff {line : Text} (trimmed : Text.trim line = line) (one : '\n' ∉ line) :
    (ofText? line).isSome = true ↔ HasForm line := by
  constructor
  · intro h
    obtain ⟨request, read⟩ := Option.isSome_iff_exists.1 h
    obtain ⟨gap, rest, rfl, hgap, blank, remain, -⟩ := ofText?_eq_some_iff.1 read
    exact ⟨request.method, gap, rest, by simp, hgap, blank, remain⟩
  · rintro ⟨method, gap, rest, cut, hgap, blank, remain⟩
    rw [ofText?_of_form trimmed one cut hgap blank remain]
    rfl

/-- A request line begins with a capital letter. -/
theorem ofText?_eq_none_of_head {c : Char} {text : Text} (h : ∀ method : Method,
    method.text.head? ≠ some c) : ofText? (c :: text) = none := by
  rw [Option.eq_none_iff_forall_ne_some]
  intro request read
  obtain ⟨gap, rest, same, -⟩ := ofText?_eq_some_iff.1 read
  have first := congrArg List.head? same
  rw [List.head?_cons, List.head?_append_of_ne_nil _ request.method.text_ne_nil] at first
  exact h request.method first.symm

/-- A version token: `HTTP/` and digits, with a point and more digits or without. -/
def IsVersion (word : Text) : Prop :=
  ∃ major : Text, major ≠ [] ∧ (∀ c ∈ major, Unicode.isDecimalDigit c = true) ∧
    (word = "HTTP/" ++ major ∨ ∃ minor : Text, minor ≠ [] ∧
      (∀ c ∈ minor, Unicode.isDecimalDigit c = true) ∧ word = "HTTP/" ++ (major ++ '.' :: minor))

@[simp] theorem isVersion_iff {word : Text} : isVersion word = true ↔ IsVersion word := by
  constructor
  · intro h
    rw [isVersion] at h
    split at h
    · cases h
    · rename_i number found
      obtain rfl := Text.strip?_eq_some_iff.1 found
      simp only [Bool.and_eq_true, Bool.not_eq_true', List.isEmpty_eq_false_iff] at h
      obtain ⟨major, rest⟩ := h
      refine ⟨_, major, fun _ => List.mem_takeWhile_imp, ?_⟩
      have cut := List.takeWhile_append_dropWhile (p := Unicode.isDecimalDigit) (l := number)
      split at rest
      · rename_i none_left
        left
        rw [none_left, List.append_nil] at cut
        rw [cut]
      · rename_i minor point
        right
        simp only [Bool.and_eq_true, Bool.not_eq_true', List.isEmpty_eq_false_iff,
          List.all_eq_true] at rest
        exact ⟨minor, rest.1, rest.2, by rw [← point, cut]⟩
      · cases rest
  · rintro ⟨major, hm, digits, rfl | ⟨minor, hn, digits', rfl⟩⟩
    · rw [isVersion, Text.strip?_eq_some_iff.2 rfl]
      simp [List.takeWhile_eq_self_iff.2 digits, List.dropWhile_eq_nil_iff.2 digits, hm]
    · have stop : ('.' :: minor).dropWhile Unicode.isDecimalDigit = '.' :: minor := by
        have point : Unicode.isDecimalDigit '.' = false := by decide
        simp [point]
      rw [isVersion, Text.strip?_eq_some_iff.2 rfl]
      simp only [List.takeWhile_append_of_pos digits, List.dropWhile_append_of_pos digits, stop]
      simpa [hm, hn] using digits'

/-- Whether a version token stands at the end, with a blank before it. -/
def EndsInVersion (text : Text) : Prop :=
  ∃ (before : Text) (c : Char) (word : Text), text = before ++ c :: word ∧
    Unicode.isBlank c = true ∧ IsVersion word

theorem not_endsInVersion_of_clear {text : Text} (h : ∀ c ∈ text, Unicode.isBlank c = false) :
    ¬ EndsInVersion text := by
  rintro ⟨before, c, word, rfl, blank, -⟩
  rw [h c (by simp)] at blank
  cases blank

theorem dropVersion_eq_self {text : Text} (h : ¬ EndsInVersion text) : dropVersion text = text := by
  rw [dropVersion, if_neg]
  rw [Bool.and_eq_true, Bool.not_eq_true', List.isEmpty_eq_false_iff, isVersion_iff]
  rintro ⟨more, version⟩
  set before := text.reverse.dropWhile fun c => !Unicode.isBlank c with hb
  have cut : text = before.reverse ++
      (text.reverse.takeWhile fun c => !Unicode.isBlank c).reverse := by
    rw [← List.reverse_append, List.takeWhile_append_dropWhile, List.reverse_reverse]
  obtain ⟨c, rest, found⟩ := List.exists_cons_of_ne_nil more
  have blank : Unicode.isBlank c = true := by
    have := List.head?_dropWhile_not (fun c => !Unicode.isBlank c) text.reverse
    simpa [← hb, found] using this
  refine h ⟨rest.reverse, c, _, ?_, blank, version⟩
  rw [found, List.reverse_cons, List.append_assoc] at cut
  exact cut

/-- Something is left of a target in front of its version token. -/
theorem dropVersion_ne_nil {text : Text} (h : text ≠ [])
    (start : ∀ c ∈ text.head?, Unicode.isBlank c = false) : dropVersion text ≠ [] := by
  rw [dropVersion]
  split
  next cut =>
    simp only [Bool.and_eq_true, Bool.not_eq_true', List.isEmpty_eq_false_iff] at cut
    obtain ⟨c, more, before⟩ := List.exists_cons_of_ne_nil (List.reverse_ne_nil_iff.2 cut.1)
    obtain ⟨word, rfl⟩ : c :: more <+: text := by
      rw [← before, ← text.reverse_reverse, List.reverse_prefix, text.reverse_reverse]
      exact List.dropWhile_suffix _
    rw [before, Text.trimEnd_cons (start c rfl)]
    exact List.cons_ne_nil _ _
  next => exact h

@[simp] theorem isPrefix_dropVersion (text : Text) : dropVersion text <+: text := by
  rw [dropVersion]
  split
  · refine (Text.isPrefix_trimEnd _).trans ?_
    conv_rhs => rw [← text.reverse_reverse]
    exact List.reverse_prefix.2 (List.dropWhile_suffix _)
  · exact List.prefix_rfl

@[simp] theorem trimEnd_dropVersion {text : Text} (h : Text.trimEnd text = text) :
    Text.trimEnd (dropVersion text) = dropVersion text := by
  rw [dropVersion]
  split
  · exact List.rdropWhile_idempotent _ _
  · exact h

theorem isPhrase_dropVersion {text : Text} (h : Text.IsPhrase text) :
    Text.IsPhrase (dropVersion text) := by
  have shown : dropVersion text ≠ [] := dropVersion_ne_nil h.ne_nil h.head_clear
  obtain ⟨rest, cut⟩ := isPrefix_dropVersion text
  have front : (dropVersion text).head? = text.head? := by
    conv_rhs => rw [← cut, List.head?_append_of_ne_nil _ shown]
  have back : Text.trimEnd text = text :=
    Text.trimEnd_eq_self_iff.2 (Text.trim_eq_self_iff.1 h.trimmed).2
  refine ⟨shown, Text.trim_eq_self_iff.2 ⟨front ▸ h.head_clear, ?_⟩, fun newline => ?_⟩
  · exact Text.trimEnd_eq_self_iff.1 (trimEnd_dropVersion back)
  · exact h.one_line (cut ▸ List.mem_append_left _ newline)

theorem isPhrase_target {line : Text} {request : RequestLine} (h : ofText? line = some request) :
    Text.IsPhrase request.target := by
  obtain ⟨gap, rest, -, -, -, shown, clear, one, told⟩ := ofText?_eq_some_iff.1 h
  obtain ⟨c, behind, rfl⟩ := List.exists_cons_of_ne_nil shown
  have first : Text.trim (c :: behind) ≠ [] := by
    rw [Text.trim_cons (clear c rfl)]
    exact List.cons_ne_nil _ _
  rw [told]
  exact isPhrase_dropVersion
    ⟨first, Text.trim_trim _, fun newline => one (Text.trim_subset _ newline)⟩

end RequestLine
end HttpContract
