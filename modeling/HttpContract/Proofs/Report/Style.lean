import HttpContract.Proofs.Text.Decimal
import HttpContract.Proofs.Text.Basic
import HttpContract.Report.Style

/-! Escape sequences can be taken off a text again. What is left of texts in styles, put one behind
the other, are the texts without styles. -/
namespace HttpContract
namespace TextStyle

def isParameter (c : Char) : Bool := c.isDigit || c == ';'

/-- What stands behind the escape sequence that a text begins with, if it begins with one: a
bracket, parameters and an `m` behind the escape character. -/
def behindSequence? : Text → Option Text
  | '\x1b' :: '[' :: text =>
    match text.dropWhile isParameter with
    | 'm' :: behind => some behind
    | _ => none
  | _ => none

theorem length_lt_of_behindSequence? {text behind : Text}
    (h : behindSequence? text = some behind) : behind.length < text.length := by
  unfold behindSequence? at h
  split at h
  next text =>
    split at h
    next shorter cut =>
      have length := (List.dropWhile_suffix isParameter (l := text)).length_le
      rw [cut] at length
      obtain rfl := Option.some.inj h
      simp only [List.length_cons] at length ⊢
      omega
    next => cases h
  next => cases h

def strip : Text → Text
  | [] => []
  | c :: text =>
    match h : behindSequence? (c :: text) with
    | some behind =>
      have := length_lt_of_behindSequence? h
      strip behind
    | none => c :: strip text
termination_by text => text.length
decreasing_by all_goals simp only [List.length_cons] at *; omega

@[simp] theorem strip_of_none {c : Char} {text : Text} (h : behindSequence? (c :: text) = none) :
    strip (c :: text) = c :: strip text := by
  rw [strip]
  split <;> simp_all

theorem strip_of_some {c : Char} {text behind : Text}
    (h : behindSequence? (c :: text) = some behind) : strip (c :: text) = strip behind := by
  rw [strip]
  split <;> simp_all

@[simp] theorem strip_cons {c : Char} (h : c ≠ '\x1b') (text : Text) :
    strip (c :: text) = c :: strip text := by
  refine strip_of_none ?_
  unfold behindSequence?
  split <;> simp_all

@[simp] theorem strip_sequence {parameters : Text} (h : ∀ c ∈ parameters, isParameter c = true)
    (text : Text) : strip ('\x1b' :: '[' :: (parameters ++ 'm' :: text)) = strip text := by
  have cut : (parameters ++ 'm' :: text).dropWhile isParameter = 'm' :: text := by
    rw [List.dropWhile_append_of_pos h]
    rfl
  exact strip_of_some (by simp only [behindSequence?, cut])

/-- What is shown is the plain text with escape sequences in it, whatever follows. -/
def Shows (shown plain : Text) : Prop := ∀ rest, strip (shown ++ rest) = plain ++ strip rest

theorem Shows.strip_eq {shown plain : Text} (h : Shows shown plain) : strip shown = plain := by
  have alone := h []
  rwa [List.append_nil, strip, List.append_nil] at alone

theorem Shows.append {shown plain shown' plain' : Text} (h : Shows shown plain)
    (h' : Shows shown' plain') : Shows (shown ++ shown') (plain ++ plain') := by
  intro rest
  rw [List.append_assoc, h, h', List.append_assoc]

@[simp] theorem shows_self {text : Text} (h : '\x1b' ∉ text) : Shows text text := by
  intro rest
  induction text with
  | nil => rfl
  | cons c text ih =>
    obtain ⟨other, clear⟩ := not_or.1 (List.mem_cons.not.1 h)
    rw [List.cons_append, strip_cons (Ne.symm other), ih clear, List.cons_append]

theorem shows_sequence {parameters : Text} (h : ∀ c ∈ parameters, isParameter c = true) :
    Shows ("\x1b[" ++ parameters ++ ['m']) [] := by
  intro rest
  rw [List.append_assoc, List.append_assoc]
  exact strip_sequence h rest

@[simp] theorem shows_opening (style : TextStyle) : Shows style.opening [] := by
  refine shows_sequence fun c hc => ?_
  obtain between | ⟨code, listed, digit⟩ := Text.mem_join hc
  · obtain rfl := List.mem_singleton.1 between
    rfl
  · obtain ⟨code, -, rfl⟩ := List.mem_map.1 listed
    rw [isParameter, Text.isDigit_of_mem_decimal digit, Bool.true_or]

@[simp]
theorem shows_reset : Shows reset [] := @shows_sequence ['0'] (List.forall_mem_singleton.2 rfl)

/-- Where no style is switched off, none is switched on again. -/
@[simp] theorem reopen_eq_self {text : Text} (h : '\x1b' ∉ text) (style : TextStyle) :
    style.reopen text = text := by
  induction text with
  | nil => rw [reopen]
  | cons c text ih =>
    obtain ⟨other, clear⟩ := not_or.1 (List.mem_cons.not.1 h)
    have start : ¬ Text.startsWith reset (c :: text) = true := fun start =>
      other (List.cons_prefix_cons.1 (Text.startsWith_iff.1 start)).1
    rw [reopen, if_neg start, ih clear]

theorem shows_apply {text : Text} (h : '\x1b' ∉ text) (style : TextStyle) :
    Shows (style.apply true text) text := by
  rw [apply, if_pos rfl, reopen_eq_self h]
  have shown := ((shows_opening style).append (shows_self h)).append shows_reset
  rwa [List.append_nil] at shown

end TextStyle
end HttpContract
