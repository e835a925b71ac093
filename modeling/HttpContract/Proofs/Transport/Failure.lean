import HttpContract.Proofs.Text.Basic
import HttpContract.Transport.Failure

/-! What the code of a failure depends on: on the fault, and on the words of the URL that the
description names. -/
namespace HttpContract
namespace SendFault

def opening : SendFault → Text
  | schemeNotAllowed | notUri => "builder error for url ("
  | tooManyRedirects => "error following redirect for url ("
  | _ => "error sending request for url ("

def ending (fault : SendFault) : Text :=
  let sending : Text := "): "
  match fault with
  | schemeNotAllowed => "): URL scheme is not allowed"
  | notUri => "): Parsed Url is not a valid Uri"
  | networkUnreachable =>
    sending ++ "client error (Connect): tcp connect error: Network is unreachable (os error 101)"
  | connectionRefused =>
    sending ++ "client error (Connect): tcp connect error: Connection refused (os error 111)"
  | closedEarly =>
    sending ++ "client error (SendRequest): connection closed before message completed"
  | timedOut => sending ++ "operation timed out"
  | tooManyRedirects => "): too many redirects"

theorem describe_eq (fault : SendFault) (url : Text) :
    fault.describe url = fault.opening ++ (url ++ fault.ending) := by
  unfold describe opening ending
  cases fault <;> simp only [List.append_assoc]

/-- Words that a text has none of, whatever the case of its letters. -/
def areAbsent (needles : List Text) (text : Text) : Bool :=
  let words := Text.lowerAscii text
  needles.all fun needle => !Text.contains needle words

/-- The words around the URL stand for nothing, and parentheses keep them apart from it. -/
theorem frame (fault : SendFault) :
    fault.opening.getLast? = some '(' ∧ fault.ending.head? = some ')' ∧
      areAbsent (dnsWords ++ tlsWords) fault.opening = true ∧
      areAbsent (dnsWords ++ tlsWords) fault.ending = true := by
  cases fault <;> decide +kernel

theorem contains_describe (fault : SendFault) (url : Text) {needle : Text}
    (h : needle ∈ dnsWords ++ tlsWords) :
    Text.contains needle (Text.lowerAscii (fault.describe url)) =
      Text.contains needle (Text.lowerAscii url) := by
  have clear : '(' ∉ needle ∧ ')' ∉ needle := by
    revert needle
    decide
  have lower (a b : Text) (c : Char) (hc : c.toLower = c) :
      Text.lowerAscii (a ++ c :: b) = Text.lowerAscii a ++ c :: Text.lowerAscii b := by
    simp [Text.lowerAscii, hc]
  obtain ⟨last, first, absentFront, absentBack⟩ := frame fault
  obtain ⟨front, opening⟩ := List.getLast?_eq_some_iff.1 last
  obtain ⟨back, ending⟩ := List.head?_eq_some_iff.1 first
  have inFront := List.all_eq_true.1 absentFront needle h
  have inBack := List.all_eq_true.1 absentBack needle h
  rw [opening, lower _ _ '(' rfl, Text.contains_append_cons clear.1, Bool.not_eq_true',
    Bool.or_eq_false_iff] at inFront
  rw [ending, ← List.nil_append (')' :: back), lower _ _ ')' rfl,
    Text.contains_append_cons clear.2, Bool.not_eq_true', Bool.or_eq_false_iff] at inBack
  rw [describe_eq, opening, ending, List.append_assoc, List.singleton_append, lower _ _ '(' rfl,
    lower _ _ ')' rfl, Text.contains_append_cons clear.1, Text.contains_append_cons clear.2,
    inFront.1, inBack.2, Bool.false_or, Bool.or_false]

/-- The code that the words of a URL stand for, whatever went wrong. -/
def misread? (url : Text) : Option FailureKind :=
  let mentions (needles : List Text) : Bool :=
    needles.any fun needle => Text.contains needle (Text.lowerAscii url)
  if mentions dnsWords then some .dns else if mentions tlsWords then some .tls else none

theorem kind_eq (fault : SendFault) (url : Text) : fault.kind url =
    if fault = timedOut then .timeout else (misread? url).getD fault.plainKind := by
  have mentions (needles : List Text) (h : needles ⊆ dnsWords ++ tlsWords) :
      needles.any (fun needle => Text.contains needle (Text.lowerAscii (fault.describe url))) =
        needles.any fun needle => Text.contains needle (Text.lowerAscii url) := by
    rw [Bool.eq_iff_iff, List.any_eq_true, List.any_eq_true]
    refine exists_congr fun needle => and_congr_right fun hn => ?_
    rw [contains_describe fault url (h hn)]
  simp only [kind, misread?, mentions dnsWords (List.subset_append_left ..),
    mentions tlsWords (List.subset_append_right ..)]
  split
  · rfl
  · split
    · rfl
    · split <;> rfl

/-- A URL is misread as what no fault but its own code stands for. -/
theorem misread?_ne_plainKind (fault : SendFault) (url : Text) :
    misread? url ≠ some fault.plainKind := by
  simp only [misread?]
  cases fault <;> split_ifs <;> simp [plainKind]

theorem kind_eq_plainKind_iff {fault : SendFault} (h : fault ≠ timedOut) {url : Text} :
    fault.kind url = fault.plainKind ↔ misread? url = none := by
  rw [kind_eq, if_neg h]
  cases words : misread? url with
  | none => simp
  | some kind =>
    have other := misread?_ne_plainKind fault url
    rw [words] at other
    simpa using other

/-- One fault has one code for two URLs if both are misread in the same way, or if it is a
timeout. -/
@[simp] theorem kind_eq_kind_iff {fault : SendFault} {url other : Text} :
    fault.kind url = fault.kind other ↔ fault = timedOut ∨ misread? url = misread? other := by
  by_cases timeout : fault = timedOut
  · simp [kind_eq, timeout]
  · have ne := misread?_ne_plainKind fault url
    have ne' := misread?_ne_plainKind fault other
    rw [kind_eq, kind_eq, if_neg timeout, if_neg timeout]
    generalize misread? url = first at *
    generalize misread? other = second at *
    cases first <;> cases second <;> simp_all [eq_comm]

end SendFault
end HttpContract
