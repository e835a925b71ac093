import HttpContract.Definitions.Reading
import HttpContract.Proofs.Definitions.RequestLine

/-! A block is read in two parts. Up to the first line that opens a body stand the request line, the
request lines that come too late, and the headers; from there on everything is body. -/
namespace HttpContract
namespace BlockReading

def request? (line : Text) : Option RequestLine := RequestLine.ofText? (Text.trim line)

def isRequest (line : Text) : Bool := (request? line).isSome

def opensBody (line : Text) : Bool := Text.startsWith ['\x7b'] (Text.trim line)

def header? (line : Text) : Option (Text × Text) :=
  if isRequest line then none
  else (Text.splitFirst? ':' (Text.trim line)).bind fun (key, value) =>
    if (Text.trim key).isEmpty then none else some (Text.trim key, Text.trim value)

theorem header?_eq_some {line key value : Text} (h : header? line = some (key, value)) :
    (key ≠ [] ∧ Text.trim key = key ∧ ':' ∉ key) ∧ Text.trim value = value := by
  rw [header?] at h
  split at h
  · cases h
  · obtain ⟨⟨before, after⟩, cut, h⟩ := Option.bind_eq_some_iff.1 h
    obtain ⟨shown, same⟩ := Option.ite_none_left_eq_some.1 h
    obtain ⟨rfl, rfl⟩ := Prod.mk.inj (Option.some.inj same)
    have clear := (Text.splitFirst?_eq_some_iff.1 cut).2
    exact ⟨⟨by simpa using shown, Text.trim_trim _, fun colon => clear (Text.trim_subset _ colon)⟩,
      Text.trim_trim _⟩

/-- The lines before the body. -/
def front (lines : List Text) : List Text := lines.takeWhile fun line => !opensBody line

def bodyLines (lines : List Text) : List Text := lines.dropWhile fun line => !opensBody line

theorem front_eq_self {lines : List Text} (h : lines.any opensBody = false) :
    front lines = lines :=
  List.takeWhile_eq_self_iff.2 fun line hl => by
    simpa using (List.any_eq_false.1 h) line hl

theorem bodyLines_eq_nil_iff {lines : List Text} :
    bodyLines lines = [] ↔ lines.any opensBody = false := by
  simp [bodyLines, List.dropWhile_eq_nil_iff]

theorem opensBody_of_mem_head? {lines : List Text} {line : Text}
    (h : line ∈ (bodyLines lines).head?) : opensBody line = true := by
  have first := List.head?_dropWhile_not (fun line => !opensBody line) lines
  rw [← bodyLines, h] at first
  simpa using first

@[simp] theorem isSome_findSome?_request? (lines : List Text) :
    (lines.findSome? request?).isSome = lines.any isRequest := by
  induction lines with
  | nil => rfl
  | cons line lines ih => cases h : request? line <;> simp [h, isRequest, ih]

def requestNumbers (first : Nat) (lines : List Text) : List Nat :=
  ((lines.zipIdx first).filter fun (line, _) => isRequest line).map Prod.snd

@[simp] theorem requestNumbers_nil (first : Nat) : requestNumbers first [] = [] := rfl

@[simp] theorem requestNumbers_cons (first : Nat) (line : Text) (lines : List Text) :
    requestNumbers first (line :: lines) =
      (if isRequest line then [first] else []) ++ requestNumbers (first + 1) lines := by
  simp only [requestNumbers, List.zipIdx_cons, List.filter_cons]
  split <;> rfl

@[simp] theorem length_requestNumbers (first : Nat) (lines : List Text) :
    (requestNumbers first lines).length = lines.countP isRequest := by
  induction lines generalizing first with
  | nil => rfl
  | cons line lines ih =>
    rw [requestNumbers_cons, List.length_append, ih, List.countP_cons, Nat.add_comm]
    cases isRequest line <;> rfl

theorem requestNumbers_eq_nil {lines : List Text} (h : ∀ line ∈ lines, request? line = none)
    (first : Nat) : requestNumbers first lines = [] := by
  induction lines generalizing first with
  | nil => rfl
  | cons line lines ih =>
    have other : isRequest line = false := by simp [isRequest, h line (by simp)]
    rw [requestNumbers_cons, ih (fun line hl => h line (by simp [hl])), other]
    rfl

theorem request?_eq_none_of_opensBody {line : Text} (h : opensBody line = true) :
    request? line = none := by
  rw [opensBody, Text.startsWith_iff] at h
  obtain ⟨rest, same⟩ := h
  rw [request?, ← same]
  exact RequestLine.ofText?_eq_none_of_head fun method => by cases method <;> decide

theorem opensBody_eq_false {line : Text} {request : RequestLine}
    (h : request? line = some request) : opensBody line = false := by
  rw [Bool.eq_false_iff]
  intro opens
  rw [request?_eq_none_of_opensBody opens] at h
  cases h

section

variable {reading : BlockReading} {line : Text} {number : Nat}

theorem addLine_of_body (h : reading.body ≠ []) :
    reading.addLine line number = { reading with body := reading.body ++ [line] } := by
  simp [addLine, h]

theorem addLine_of_opensBody (h : reading.body = []) (opens : opensBody line = true) :
    reading.addLine line number = { reading with body := [line] } := by
  have none_read := request?_eq_none_of_opensBody opens
  rw [request?] at none_read
  rw [opensBody] at opens
  simp [addLine, h, none_read, opens]

theorem addLine_of_request {request : RequestLine} (h : reading.body = [])
    (hr : request? line = some request) : reading.addLine line number =
      { reading with
        request := reading.request.or (some request)
        extra := reading.extra ++ if reading.request.isSome then [number] else [] } := by
  rw [request?] at hr
  cases seen : reading.request <;> simp [addLine, h, hr, seen]

theorem addLine_of_other (h : reading.body = []) (closed : opensBody line = false)
    (hr : request? line = none) : reading.addLine line number =
      { reading with
        headers := reading.headers.insertAll
          (if reading.request.isSome then (header? line).toList else []) } := by
  have other : isRequest line = false := by simp [isRequest, hr]
  rw [request?] at hr
  rw [opensBody] at closed
  obtain ⟨request, headers, body, extra⟩ := reading
  obtain rfl : body = [] := h
  cases request with
  | none => simp [addLine, hr, closed, HeaderList.insertAll]
  | some request =>
    cases cut : Text.splitFirst? ':' (Text.trim line) with
    | none => simp [addLine, hr, closed, header?, other, cut, HeaderList.insertAll]
    | some parts =>
      by_cases blank : Text.trim parts.1 = [] <;>
        simp [addLine, hr, closed, header?, other, cut, blank, HeaderList.insertAll]

end

/-- The headers that lines give: those behind the first request line, or all of them once there is
one. -/
def headerPairs (seen : Bool) (lines : List Text) : List (Text × Text) :=
  (if seen then lines else lines.dropWhile fun line => !isRequest line).filterMap header?

def addLines (reading : BlockReading) (first : Nat) (lines : List Text) : BlockReading :=
  (lines.zipIdx first).foldl (fun reading (line, number) => reading.addLine line number) reading

@[simp] theorem addLines_nil (reading : BlockReading) (first : Nat) :
    reading.addLines first [] = reading := rfl

@[simp] theorem addLines_cons (reading : BlockReading) (first : Nat) (line : Text)
    (lines : List Text) : reading.addLines first (line :: lines) =
      (reading.addLine line first).addLines (first + 1) lines := rfl

@[simp]
theorem addLines_concat (reading : BlockReading) (first : Nat) (lines : List Text) (line : Text) :
    reading.addLines first (lines ++ [line]) =
      (reading.addLines first lines).addLine line (first + lines.length) := by
  simp [addLines, List.zipIdx_append]

theorem addLines_of_body {reading : BlockReading} (h : reading.body ≠ []) (first : Nat)
    (lines : List Text) :
    reading.addLines first lines = { reading with body := reading.body ++ lines } := by
  induction lines generalizing reading first with
  | nil => simp
  | cons line lines ih =>
    rw [addLines_cons, addLine_of_body h, ih (by simp)]
    simp

theorem addLines_eq {reading : BlockReading} (h : reading.body = []) (first : Nat)
    (lines : List Text) : reading.addLines first lines =
      { request := reading.request.or ((front lines).findSome? request?)
        headers := reading.headers.insertAll (headerPairs reading.request.isSome (front lines))
        body := bodyLines lines
        extra := reading.extra ++ (requestNumbers first (front lines)).drop
          (if reading.request.isSome then 0 else 1) } := by
  induction lines generalizing reading first with
  | nil => cases reading; simp_all [front, bodyLines, headerPairs, HeaderList.insertAll]
  | cons line lines ih =>
    rw [addLines_cons]
    by_cases opens : opensBody line = true
    · rw [addLine_of_opensBody h opens, addLines_of_body (by simp)]
      simp [front, bodyLines, opens, headerPairs, HeaderList.insertAll]
    · rw [Bool.not_eq_true] at opens
      have hf : front (line :: lines) = line :: front lines := by simp [front, opens]
      have hb : bodyLines (line :: lines) = bodyLines lines := by simp [bodyLines, opens]
      rw [hf, hb, requestNumbers_cons]
      cases hr : request? line with
      | some request =>
        have isReq : isRequest line = true := by simp [isRequest, hr]
        rw [addLine_of_request h hr, ih (by exact h)]
        cases seen : reading.request <;> simp [headerPairs, header?, isReq, hr]
      | none =>
        have other : isRequest line = false := by simp [isRequest, hr]
        rw [addLine_of_other h opens hr, ih (by exact h)]
        cases seen : reading.request with
        | none => simp [headerPairs, other, hr, HeaderList.insertAll]
        | some request =>
          cases hh : header? line <;> simp [headerPairs, other, hh, HeaderList.insertAll]

theorem ofBlock_eq (block : Block) : ofBlock block =
    { request := (front block.lines).findSome? request?
      headers := HeaderList.ofList (headerPairs false (front block.lines))
      body := bodyLines block.lines
      extra := (requestNumbers block.firstLine (front block.lines)).drop 1 } := by
  change addLines {} block.firstLine block.lines = _
  rw [addLines_eq rfl]
  simp [HeaderList.ofList, HeaderList.empty]

end BlockReading
end HttpContract
