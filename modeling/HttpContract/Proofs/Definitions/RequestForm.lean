import HttpContract.Proofs.Definitions.VersionTarget
import HttpContract.Proofs.Text.Pattern

/-! Request lines as a search for patterns finds them. The search tries the verbs, the blanks and
the version tokens one way after the other, and cuts off the leftmost match. On a trimmed line it
finds what reading finds, since the line has the form of a request line with one verb only, and
with one target up to blanks. -/
namespace HttpContract
namespace RequestLine

open Pattern

/-- What a target is without a version token at its end and the last blanks, all those that stand
before the token; a text that does not end in blanks and a token is left as it is. -/
inductive LosesVersion : Text → Text → Prop
  | dropped (kept gap token : Text) (clear : ∀ c ∈ kept.getLast?, Unicode.isBlank c = false)
      (some_gap : gap ≠ []) (blank : ∀ c ∈ gap, Unicode.isBlank c = true)
      (version : IsVersion token) : LosesVersion (kept ++ (gap ++ token)) kept
  | whole (text : Text) (h : ¬ EndsInVersion text) : LosesVersion text text

theorem dropVersion_append {before token : Text} {c : Char} (blank : Unicode.isBlank c = true)
    (version : IsVersion token) :
    dropVersion (before ++ c :: token) = Text.trimEnd (before ++ [c]) := by
  have clear : ∀ d ∈ token.reverse, (!Unicode.isBlank d) = true := by simpa using version.clear
  have backwards : (before ++ c :: token).reverse = token.reverse ++ c :: before.reverse := by simp
  simp only [dropVersion, backwards, List.takeWhile_append_of_pos clear,
    List.dropWhile_append_of_pos clear]
  simp [blank, isVersion_iff.2 version]

/-- The blanks before a version token are dropped with it, however many they are. -/
theorem losesVersion_dropVersion (text : Text) : LosesVersion text (dropVersion text) := by
  by_cases h : EndsInVersion text
  · obtain ⟨before, c, token, rfl, blank, version⟩ := h
    have parts : Text.trimEnd (before ++ [c]) ++ (before ++ [c]).rtakeWhile Unicode.isBlank =
        before ++ [c] := List.rdropWhile_append_rtakeWhile ..
    have cut : before ++ c :: token = Text.trimEnd (before ++ [c]) ++
        ((before ++ [c]).rtakeWhile Unicode.isBlank ++ token) := by
      rw [← List.append_assoc, parts]
      simp
    rw [dropVersion_append blank version, cut]
    refine .dropped _ _ _ ?_ (by simp [blank]) (fun _ => List.mem_rtakeWhile_imp) version
    exact Text.trimEnd_eq_self_iff.1 (List.rdropWhile_idempotent _ _)
  · rw [dropVersion_eq_self h]
    exact .whole text h

def verbPattern : Pattern :=
  .either (.word "GET") (.either (.word "POST") (.either (.word "PUT")
    (.either (.word "DELETE") (.word "PATCH"))))

def linePatterns : List Pattern := [verbPattern, .run Unicode.isBlank, .run (· != '\n')]

def versionPatterns : List Pattern :=
  [.run Unicode.isBlank, .word "HTTP/", .run Unicode.isDecimalDigit,
    .either (.both (.word ".") (.run Unicode.isDecimalDigit)) (.word "")]

/-- What the pieces of a line say: the first one is the verb, and the last one, up to the blanks
around it and a version token at its end, is the target. -/
def ofPieces? : List Text → Option RequestLine
  | [verb, _, rest] => (Method.ofText? verb).map fun method =>
      { method, target := cutEnd versionPatterns (Text.trim rest) }
  | _ => none

/-- Reads a line as the patterns cut it first. -/
def search? (line : Text) : Option RequestLine := (cuts linePatterns line).head?.bind ofPieces?

@[simp] theorem matches_verbPattern_iff {piece : Text} :
    verbPattern.Matches piece ↔ ∃ method : Method, piece = method.text := by
  simp only [verbPattern, Matches]
  constructor
  · rintro (h | h | h | h | h)
    · exact ⟨.get, h⟩
    · exact ⟨.post, h⟩
    · exact ⟨.put, h⟩
    · exact ⟨.delete, h⟩
    · exact ⟨.patch, h⟩
  · rintro ⟨method, rfl⟩
    cases method with
    | get => exact .inl rfl
    | post => exact .inr (.inl rfl)
    | put => exact .inr (.inr (.inl rfl))
    | delete => exact .inr (.inr (.inr (.inl rfl)))
    | patch => exact .inr (.inr (.inr (.inr rfl)))

theorem mem_cuts_linePatterns_iff {line : Text} {pieces : List Text} :
    pieces ∈ cuts linePatterns line ↔ ∃ (method : Method) (gap rest : Text),
      pieces = [method.text, gap, rest] ∧ line = method.text ++ gap ++ rest ∧ gap ≠ [] ∧
        (∀ c ∈ gap, Unicode.isBlank c = true) ∧ rest ≠ [] ∧ '\n' ∉ rest := by
  simp only [mem_cuts_iff, linePatterns, List.forall₂_cons_left_iff, List.forall₂_nil_left_iff,
    matches_verbPattern_iff, Matches]
  constructor
  · rintro ⟨rfl, _, _, ⟨method, rfl⟩, ⟨gap, _, hgap, ⟨rest, _, hrest, rfl, rfl⟩, rfl⟩, rfl⟩
    refine ⟨method, gap, rest, rfl, by simp, hgap.1, hgap.2, hrest.1, fun hn => ?_⟩
    simpa using hrest.2 '\n' hn
  · rintro ⟨method, gap, rest, rfl, rfl, some_gap, blank, remain, one⟩
    refine ⟨by simp, _, _, ⟨method, rfl⟩, ⟨gap, _, ⟨some_gap, blank⟩, ⟨rest, _, ⟨remain, ?_⟩, rfl,
      rfl⟩, rfl⟩, rfl⟩
    intro c hc
    simpa using ne_of_mem_of_not_mem hc one

theorem cuts_versionPatterns_ne_nil_iff {text : Text} : cuts versionPatterns text ≠ [] ↔
    ∃ gap token, text = gap ++ token ∧ gap ≠ [] ∧ (∀ c ∈ gap, Unicode.isBlank c = true) ∧
      IsVersion token := by
  constructor
  · intro found
    obtain ⟨pieces, listed⟩ := List.exists_mem_of_ne_nil _ found
    simp only [mem_cuts_iff, versionPatterns, List.forall₂_cons_left_iff,
      List.forall₂_nil_left_iff, Matches] at listed
    obtain ⟨rfl, gap, _, ⟨some_gap, blank⟩, ⟨_, _, rfl, ⟨major, _, ⟨hm, digits⟩,
      ⟨tail, _, minor, rfl, rfl⟩, rfl⟩, rfl⟩, rfl⟩ := listed
    refine ⟨gap, _, List.flatten_cons, some_gap, blank, major, hm, digits, ?_⟩
    obtain ⟨_, minor, rfl, rfl, hn, digits'⟩ | rfl := minor
    · exact .inr ⟨minor, hn, digits', by simp⟩
    · exact .inl (by simp)
  · rintro ⟨gap, token, rfl, some_gap, blank, major, hm, digits, version⟩
    obtain ⟨tail, rfl, minor⟩ : ∃ tail, token = "HTTP/" ++ (major ++ tail) ∧
        (Pattern.either (.both (.word ".") (.run Unicode.isDecimalDigit)) (.word "")).Matches
          tail := by
      obtain rfl | ⟨minor, hn, digits', rfl⟩ := version
      · exact ⟨[], by simp, .inr rfl⟩
      · exact ⟨'.' :: minor, rfl, .inl ⟨['.'], minor, rfl, rfl, hn, digits'⟩⟩
    have pieces : List.Forall₂ Matches versionPatterns [gap, "HTTP/", major, tail] :=
      .cons ⟨some_gap, blank⟩ (.cons rfl (.cons ⟨hm, digits⟩ (.cons minor .nil)))
    exact List.ne_nil_of_mem (mem_cuts_iff.2 ⟨by simp, pieces⟩)

/-- No match begins before the last blanks: what stands there is no blank, and a token that begins
there has blanks in it. -/
theorem cuts_versionPatterns_shown {front gap : Text} {c : Char}
    (shown : Unicode.isBlank c = false) (some_gap : gap ≠ [])
    (blank : ∀ d ∈ gap, Unicode.isBlank d = true) (token : Text) :
    cuts versionPatterns (front ++ c :: (gap ++ token)) = [] := by
  by_contra found
  obtain ⟨before, word, cut, -, blank', version⟩ := cuts_versionPatterns_ne_nil_iff.1 found
  obtain ⟨d, gap, rfl⟩ := List.exists_cons_of_ne_nil some_gap
  have inside : d ∉ word := by
    intro hd
    have clear := version.clear d hd
    rw [blank d (by simp)] at clear
    cases clear
  obtain ⟨more, rfl, behind⟩ | ⟨more, rfl, rfl⟩ := List.append_eq_append_iff.1 cut
  · cases more with
    | nil => exact inside (by rw [← List.nil_append word, ← behind]; simp)
    | cons first more =>
      obtain ⟨rfl, -⟩ := List.cons.inj behind
      have first_blank := blank' c (by simp)
      rw [shown] at first_blank
      cases first_blank
  · exact inside (by simp)

/-- The leftmost match takes all the blanks before the token. -/
theorem LosesVersion.cutEnd_eq {text target : Text} (h : LosesVersion text target) :
    cutEnd versionPatterns text = target := by
  cases h with
  | dropped kept gap token clear some_gap blank version =>
    have found := cuts_versionPatterns_ne_nil_iff.2
      ⟨gap, token, rfl, some_gap, blank, version⟩
    refine cutEnd_append (by simp [some_gap]) found fun more some_more behind => ?_
    obtain ⟨front, c, rfl⟩ := List.eq_nil_or_concat' more |>.resolve_left some_more
    obtain ⟨before, rfl⟩ := behind
    have shown := clear c (by simp)
    rw [List.append_assoc, List.singleton_append]
    exact cuts_versionPatterns_shown shown some_gap blank token
  | whole text h =>
    refine cutEnd_eq_self fun back behind => ?_
    by_contra found
    obtain ⟨gap, token, rfl, some_gap, blank, version⟩ := cuts_versionPatterns_ne_nil_iff.1 found
    obtain ⟨before, rfl⟩ := behind
    obtain ⟨gap, c, rfl⟩ := List.eq_nil_or_concat' gap |>.resolve_left some_gap
    exact h ⟨before ++ gap, c, token, by simp, blank c (by simp), version⟩

@[simp]
theorem cutEnd_versionPatterns (text : Text) : cutEnd versionPatterns text = dropVersion text :=
  (losesVersion_dropVersion text).cutEnd_eq

@[simp]
theorem ofPieces?_eq_some (method : Method) (gap rest : Text) : ofPieces? [method.text, gap, rest] =
    some { method, target := dropVersion (Text.trim rest) } := by
  have spelled : Method.ofText? method.text = some method := by cases method <;> decide
  rw [ofPieces?, spelled, cutEnd_versionPatterns]
  rfl

/-- The first cut is as good as any other, since the blanks around the rest do not count. -/
theorem search?_eq_ofText? {line : Text} (trimmed : Text.trim line = line) (one : '\n' ∉ line) :
    search? line = ofText? line := by
  cases found : cuts linePatterns line with
  | nil =>
    have silent : ¬ HasForm line := by
      rintro ⟨method, gap, rest, rfl, some_gap, blank, remain⟩
      have listed := mem_cuts_linePatterns_iff.2 ⟨method, gap, rest, rfl, rfl, some_gap, blank,
        remain, fun hn => one (by simp [hn])⟩
      rw [found] at listed
      cases listed
    rw [← isSome_ofText?_iff trimmed one, Option.not_isSome_iff_eq_none] at silent
    rw [search?, found, List.head?_nil, Option.bind_none, silent]
  | cons pieces more =>
    have first : pieces ∈ cuts linePatterns line := by simp [found]
    obtain ⟨method, gap, rest, rfl, cut, some_gap, blank, remain, -⟩ :=
      mem_cuts_linePatterns_iff.1 first
    rw [search?, found, List.head?_cons, Option.bind_some, ofPieces?_eq_some,
      ofText?_of_form trimmed one cut some_gap blank remain]

/-- A trimmed line is read as a request exactly if it is a verb, blanks and something behind them,
as the patterns find it. The request has this verb. Its target is what stands behind the blanks,
trimmed, and without a version token at its end together with all the blanks before the token; it is
trimmed again, and at least the first character is left. -/
theorem ofText?_reads_form {line : Text} (trimmed : Text.trim line = line) (one : '\n' ∉ line) :
    ofText? line = search? line ∧
    ((ofText? line).isSome = true ↔ HasForm line) ∧
    ∀ method gap rest, line = method.text ++ gap ++ rest → gap ≠ [] →
      (∀ c ∈ gap, Unicode.isBlank c = true) → rest ≠ [] →
      ∃ target, ofText? line = some { method, target } ∧ LosesVersion (Text.trim rest) target ∧
        target ≠ [] ∧ target <+: Text.trim rest ∧ Text.trim target = target := by
  refine ⟨(search?_eq_ofText? trimmed one).symm, isSome_ofText?_iff trimmed one,
    fun method gap rest cut some_gap blank remain => ?_⟩
  have read := ofText?_of_form trimmed one cut some_gap blank remain
  have phrase := isPhrase_target read
  exact ⟨_, read, losesVersion_dropVersion _, phrase.ne_nil, isPrefix_dropVersion _, phrase.trimmed⟩

/-- Of two version tokens only the last one is dropped, with blanks of two kinds before it; and the
blanks behind the verb need not all be taken for the gap. -/
theorem ofText?_reads_form_twoTokens :
    let line : Text := "PATCH\u00a0\t/a HTTP/1.1\t\u3000HTTP/2"
    let rest : Text := "\t/a HTTP/1.1\t\u3000HTTP/2"
    Text.trim line = line ∧ '\n' ∉ line ∧ line = Method.patch.text ++ ['\u00a0'] ++ rest ∧
      ofText? line = search? line ∧ HasForm line ∧
      ofText? line = some { method := .patch, target := "/a HTTP/1.1" } ∧
      LosesVersion (Text.trim rest) "/a HTTP/1.1" := by
  intro line rest
  have trimmed : Text.trim line = line := by decide
  have one : '\n' ∉ line := by decide
  obtain ⟨same, form, cuts⟩ := ofText?_reads_form trimmed one
  have blank : ∀ c ∈ ['\u00a0'], Unicode.isBlank c = true := List.all_eq_true.1 rfl
  obtain ⟨target, read, loses, -⟩ := cuts .patch ['\u00a0'] rest (by decide) (by decide) blank
    (by decide)
  have known : ofText? line = some { method := .patch, target := "/a HTTP/1.1" } := by
    decide +kernel
  obtain rfl : target = "/a HTTP/1.1" :=
    congrArg RequestLine.target (Option.some.inj (read.symm.trans known))
  exact ⟨trimmed, one, by decide, same, form.1 (by rw [known]; rfl), known, loses⟩

end RequestLine
end HttpContract
