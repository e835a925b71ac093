import HttpContract.Json.Error
import HttpContract.Json.Value
import HttpContract.Number.Binary64

/-! Reading JSON documents. Every reader takes the text that is left and gives a value with what
is left behind it; the first fault ends the reading. -/
namespace HttpContract
namespace Json

/-- A value and a text that is shorter than the one it was read from. -/
structure Reading (α : Type) (text : Text) where
  value : α
  rest : Text
  shorter : rest.length < text.length

abbrev Reader (α : Type) := (text : Text) → Except JsonFailure (Reading α text)

def Reading.within {α : Type} {text longer : Text} (reading : Reading α text)
    (h : text.length ≤ longer.length) : Reading α longer :=
  ⟨reading.value, reading.rest, Nat.lt_of_lt_of_le reading.shorter h⟩

def Reading.map {α β : Type} {text : Text} (f : α → β) (reading : Reading α text) :
    Reading β text :=
  ⟨f reading.value, reading.rest, reading.shorter⟩

def byteCount (text : Text) : Nat := (Utf8.encode text).length

/-- The fault lies on the first byte of what is left, or at the end of the text. -/
def failNext {α : Type} (fault : JsonFault) (rest : Text) : Except JsonFailure α :=
  .error ⟨fault, byteCount rest - 1⟩

/-- The fault lies right before what is left. -/
def failBefore {α : Type} (fault : JsonFault) (rest : Text) : Except JsonFailure α :=
  .error ⟨fault, byteCount rest⟩

def isBlank (c : Char) : Bool := c == ' ' || c == '\n' || c == '\t' || c == '\r'

def skip (text : Text) : Text := text.dropWhile isBlank

@[simp] theorem skip_length_le (text : Text) : (skip text).length ≤ text.length :=
  (List.dropWhile_suffix isBlank).length_le

@[simp] theorem dropDigits_length_le (text : Text) :
    (text.dropWhile Char.isDigit).length ≤ text.length :=
  (List.dropWhile_suffix Char.isDigit).length_le

/-! Words. -/

def ident (value : Json) : (word : Text) → Reader Json
  | _, [] => failNext .eofInValue []
  | [], _ :: rest => .ok ⟨value, rest, by simp⟩
  | [a], c :: rest =>
    if a = c then .ok ⟨value, rest, by simp⟩ else failNext .expectedIdent (c :: rest)
  | a :: b :: word, c :: rest =>
    if a = c then do
      let reading ← ident value (b :: word) rest
      return reading.within (by simp)
    else failNext .expectedIdent (c :: rest)

/-! Numbers. -/

def digitOf (c : Char) : Nat := c.toNat - 48

/-- The value that digits have behind those of `value`, as far as it fits 64 bits, and how many
digits are left over. -/
def significand (value : Nat) : (digits : Text) → Nat × Nat
  | [] => (value, 0)
  | c :: digits =>
    let next := value * 10 + digitOf c
    if next < 18446744073709551616 then significand next digits else (value, digits.length + 1)

/-- The greatest power of ten that is a binary value. -/
def maxPower : Int := 308

/-- Whether the product of the rounded `digits` and a rounded power of ten lies beyond the largest
finite binary value. -/
def isOutOfRange (digits : Nat) (exponent : Int) : Bool :=
  digits != 0 && 0 ≤ exponent && (exponent > maxPower ||
    !((Binary64.ofNat digits).mul (Binary64.ofNat (pow10 exponent.toNat))).isFinite)

def maxExponent : Nat := 2147483647

/-- What follows the first digit with which the exponent exceeds the greatest one. -/
def behindExcess? (value : Nat) : (digits : Text) → Option Text
  | [] => none
  | c :: digits =>
    let next := value * 10 + digitOf c
    if next > maxExponent then some digits else behindExcess? next digits

/-- The text that was read to get from `text` to its end `rest`. -/
def consumed (text rest : Text) : Text := text.take (text.length - rest.length)

def digitsValue (digits : Text) : Nat :=
  digits.foldl (fun value c => value * 10 + digitOf c) 0

def dropSign (signs : List Char) : Text → Text
  | [] => []
  | c :: rest => if c ∈ signs then rest else c :: rest

@[simp] theorem dropSign_length_le (signs : List Char) (text : Text) :
    (dropSign signs text).length ≤ text.length := by
  cases text with
  | nil => simp [dropSign]
  | cons c rest => simp only [dropSign]; split <;> simp

def exponentDigits (text : Text) : Except JsonFailure Text :=
  match dropSign ['+', '-'] text with
  | [] => failNext .eofInValue []
  | c :: rest => if c.isDigit then .ok (c :: rest) else failNext .invalidNumber (c :: rest)

structure Exponent where
  isNegative : Bool := false
  digits : Text := []

/-- What follows an exponent, which need not be there, and the exponent. -/
def exponent (text : Text) : Except JsonFailure (Text × Exponent) :=
  match text with
  | c :: rest =>
    if c = 'e' ∨ c = 'E' then do
      let digits ← exponentDigits rest
      return (digits.dropWhile Char.isDigit,
        { isNegative := rest.head? == some '-', digits := digits.takeWhile Char.isDigit })
    else .ok (text, {})
  | [] => .ok ([], {})

def fraction (text : Text) : Except JsonFailure (Text × Text) :=
  match text with
  | '.' :: rest =>
    match rest with
    | [] => failNext .eofInValue []
    | c :: _ =>
      if c.isDigit then .ok (rest.dropWhile Char.isDigit, rest.takeWhile Char.isDigit)
      else failNext .invalidNumber rest
  | _ => .ok (text, [])

/-- What follows the digits before the point, and these digits. A zero stands alone. -/
def whole (text : Text) : Except JsonFailure (Text × Text) :=
  match text with
  | [] => failNext .eofInValue []
  | '0' :: rest =>
    match rest with
    | c :: _ => if c.isDigit then failNext .invalidNumber rest else .ok (rest, ['0'])
    | [] => .ok ([], ['0'])
  | c :: rest =>
    if c.isDigit then
      .ok (rest.dropWhile Char.isDigit, c :: rest.takeWhile Char.isDigit)
    else failNext .invalidNumber (c :: rest)

theorem length_lt_of_whole {text rest digits : Text} (h : whole text = .ok (rest, digits)) :
    rest.length < text.length := by
  unfold whole at h
  split at h
  · simp [failNext] at h
  · split at h
    · split at h
      · simp [failNext] at h
      · simp only [Except.ok.injEq, Prod.mk.injEq] at h
        simp [← h.1]
    · simp only [Except.ok.injEq, Prod.mk.injEq] at h
      simp [← h.1]
  · rename_i c tail _
    split at h
    · simp only [Except.ok.injEq, Prod.mk.injEq] at h
      obtain ⟨rfl, -⟩ := h
      exact Nat.lt_succ_of_le (dropDigits_length_le tail)
    · simp [failNext] at h

theorem length_le_of_fraction {text rest digits : Text}
    (h : fraction text = .ok (rest, digits)) : rest.length ≤ text.length := by
  unfold fraction at h
  split at h
  · rename_i tail
    split at h
    · simp [failNext] at h
    · rename_i c more
      split at h
      · simp only [Except.ok.injEq, Prod.mk.injEq] at h
        obtain ⟨rfl, -⟩ := h
        exact Nat.le_succ_of_le (dropDigits_length_le (c :: more))
      · simp [failNext] at h
  · simp_all

theorem length_le_of_exponentDigits {text digits : Text}
    (h : exponentDigits text = .ok digits) : digits.length ≤ text.length := by
  have hle := dropSign_length_le ['+', '-'] text
  unfold exponentDigits at h
  split at h
  · simp [failNext] at h
  · rename_i c rest hd
    split at h
    · simp only [Except.ok.injEq] at h
      rw [← h, ← hd]
      exact hle
    · simp [failNext] at h

theorem length_le_of_exponent {text rest : Text} {power : Exponent}
    (h : exponent text = .ok (rest, power)) : rest.length ≤ text.length := by
  unfold exponent at h
  split at h
  · rename_i c tail
    split at h
    · cases hd : exponentDigits tail with
      | error failure => simp [hd, bind, Except.bind] at h
      | ok digits =>
        simp only [hd, bind, Except.bind, pure, Except.pure, Except.ok.injEq,
          Prod.mk.injEq] at h
        obtain ⟨rfl, -⟩ := h
        have h1 := dropDigits_length_le digits
        have h2 := length_le_of_exponentDigits hd
        simp only [List.length_cons]
        omega
    · simp_all
  · simp_all

/-- The exponent digits that are still unread once a number is known to lie beyond the largest
finite binary value; none if it does not. An exponent above the greatest one counts as infinite. No
number is too small. -/
def excess? (wholeDigits fractionDigits : Text) (power : Exponent) : Option Text :=
  let (front, wholeLeft) := significand 0 wholeDigits
  let (digits, fractionLeft) := significand front fractionDigits
  let shift : Int := wholeLeft - (fractionDigits.length - fractionLeft)
  let value : Int := digitsValue power.digits
  match behindExcess? 0 power.digits with
  | some unread => if power.isNegative ∨ digits = 0 then none else some unread
  | none =>
    if isOutOfRange digits (if power.isNegative then shift - value else shift + value) then some []
    else none

def numberAt : Reader Json := fun text =>
  match hw : whole (dropSign ['-'] text) with
  | .error failure => .error failure
  | .ok (afterWhole, wholeDigits) =>
    match hf : fraction afterWhole with
    | .error failure => .error failure
    | .ok (afterFraction, fractionDigits) =>
      match he : exponent afterFraction with
      | .error failure => .error failure
      | .ok (rest, power) =>
        match excess? wholeDigits fractionDigits power with
        | some unread => failBefore .numberOutOfRange (unread ++ rest)
        | none => .ok ⟨.number (consumed text rest), rest, by
          have h0 := dropSign_length_le ['-'] text
          have h1 := length_lt_of_whole hw
          have h2 := length_le_of_fraction hf
          have h3 := length_le_of_exponent he
          omega⟩

/-! Text. -/

/-- Four bytes are looked at where four digits should stand, even if they end inside a
character. -/
def shortOfFour {α : Type} (text : Text) : Except JsonFailure α :=
  if byteCount text < 4 then failNext .eofInString []
  else .error ⟨.invalidEscape, byteCount text - 4⟩

def hexFour : Reader Nat := fun text =>
  match text with
  | a :: b :: c :: d :: rest =>
    match Text.natOfDigits? 16 [a, b, c, d] with
    | some value => .ok ⟨value, rest, by simp +arith⟩
    | none => shortOfFour text
  | _ => shortOfFour text

def isLeadingSurrogate (unit : Nat) : Bool := 0xD800 ≤ unit && unit ≤ 0xDBFF

def isTrailingSurrogate (unit : Nat) : Bool := 0xDC00 ≤ unit && unit ≤ 0xDFFF

def trailingUnit : Reader Nat := fun text =>
  match text with
  | [] => failNext .eofInString []
  | ['\\'] => failNext .eofInString []
  | '\\' :: 'u' :: rest => do
    let reading ← hexFour rest
    if isTrailingSurrogate reading.value then
      return reading.within (by simp +arith)
    else failBefore .loneSurrogate reading.rest
  | '\\' :: rest => failNext .shortHexEscape rest
  | rest => failNext .shortHexEscape rest

/-- Reads the character that four hexadecimal digits, or a pair of such groups, stand for. -/
def unicodeEscape : Reader Char := fun text => do
  let first ← hexFour text
  if isTrailingSurrogate first.value then failBefore .loneSurrogate first.rest
  else if isLeadingSurrogate first.value then
    let second ← trailingUnit first.rest
    let code := (first.value - 0xD800) * 0x400 + (second.value - 0xDC00) + 0x10000
    return ⟨Char.ofNat code, second.rest, Nat.lt_trans second.shorter first.shorter⟩
  else return first.map Char.ofNat

def simpleEscape? : Char → Option Char
  | '"' => some '"'
  | '\\' => some '\\'
  | '/' => some '/'
  | 'b' => some '\x08'
  | 'f' => some '\x0c'
  | 'n' => some '\n'
  | 'r' => some '\r'
  | 't' => some '\t'
  | _ => none

def escape : Reader Char := fun text =>
  match text with
  | [] => failNext .eofInString []
  | c :: rest =>
    if c = 'u' then do
      let reading ← unicodeEscape rest
      return reading.within (by simp)
    else match simpleEscape? c with
      | some meant => .ok ⟨meant, rest, by simp⟩
      | none => failNext .invalidEscape (c :: rest)

def stringBody (text : Text) : Except JsonFailure (Reading Text text) :=
  match text with
  | [] => failNext .eofInString []
  | c :: rest =>
    if c = '"' then .ok ⟨[], rest, by simp⟩
    else if c = '\\' then do
      let first ← escape rest
      have := first.shorter
      let others ← stringBody first.rest
      return ⟨first.value :: others.value, others.rest,
        Nat.lt_trans others.shorter (Nat.lt_succ_of_lt first.shorter)⟩
    else if c.toNat < 0x20 then failNext .controlCharacter (c :: rest)
    else do
      let others ← stringBody rest
      return ⟨c :: others.value, others.rest, Nat.lt_succ_of_lt others.shorter⟩
termination_by text.length

/-! Arrays and objects. -/

/-- What closes a row of elements, and the faults of a text that ends before it and of one that has
neither it nor a comma behind an element. -/
structure Bracket where
  close : Char
  atEnd : JsonFault
  notClosed : JsonFault
  close_ne_comma : close ≠ ','

def square : Bracket := ⟨']', .eofInList, .expectedListEnd, by decide⟩

def brace : Bracket := ⟨'\x7d', .eofInObject, .expectedObjectEnd, by decide⟩

def moreElements {α : Type} (bracket : Bracket) (element : Reader α) (text : Text) :
    Except JsonFailure (Reading (List α) text) :=
  match hs : skip text with
  | [] => failNext bracket.atEnd []
  | c :: rest =>
    have hc : rest.length < text.length := by
      have := skip_length_le text
      rw [hs] at this
      exact this
    if c = bracket.close then .ok ⟨[], rest, hc⟩
    else if c = ',' then
      match hn : skip rest with
      | [] => failNext .eofInValue []
      | d :: next =>
        if d = bracket.close then failNext .trailingComma (d :: next)
        else do
          let first ← element (d :: next)
          have hf : first.rest.length < text.length := by
            have h1 := first.shorter
            have h2 := skip_length_le rest
            rw [hn] at h2
            omega
          let others ← moreElements bracket element first.rest
          return ⟨first.value :: others.value, others.rest, Nat.lt_trans others.shorter hf⟩
    else failNext bracket.notClosed (c :: rest)
termination_by text.length

def elements {α : Type} (bracket : Bracket) (element : Reader α) : Reader (List α) := fun text =>
  match hs : skip text with
  | [] => failNext bracket.atEnd []
  | c :: rest =>
    have hle : (c :: rest).length ≤ text.length := by
      have := skip_length_le text
      rwa [hs] at this
    if c = bracket.close then .ok ⟨[], rest, hle⟩
    else do
      let first ← element (c :: rest)
      let others ← moreElements bracket element first.rest
      return ⟨first.value :: others.value, others.rest,
        Nat.lt_of_lt_of_le (Nat.lt_trans others.shorter first.shorter) hle⟩

def memberValue (item : Reader Json) : Reader Json := fun text =>
  match hs : skip text with
  | [] => failNext .eofInObject []
  | c :: rest =>
    if c = ':' then do
      let reading ← item rest
      return reading.within (by
        have := skip_length_le text
        rw [hs] at this
        exact Nat.le_of_succ_le this)
    else failNext .expectedColon (c :: rest)

def member (item : Reader Json) : Reader (Text × Json) := fun text =>
  match text with
  | '"' :: rest => do
    let key ← stringBody rest
    let value ← memberValue item key.rest
    return ⟨(key.value, value.value), value.rest,
      Nat.lt_succ_of_lt (Nat.lt_trans value.shorter key.shorter)⟩
  | _ => failNext .keyNotString text

def arrayBody (item : Reader Json) : Reader Json := fun text =>
  (elements square item text).map (Reading.map .array)

def objectBody (item : Reader Json) : Reader Json := fun text =>
  (elements brace (member item) text).map (Reading.map .object)

/-! Values and documents. -/

/-- Reads a value at its first character. `nested?` reads the items of arrays and objects, unless
the value lies too deep to have any. -/
def valueAt (nested? : Option (Reader Json)) : Reader Json := fun text =>
  match text with
  | [] => failNext .eofInValue []
  | c :: rest =>
    let behind (reader : Reader Json) : Except JsonFailure (Reading Json (c :: rest)) :=
      (reader rest).map fun reading => reading.within (Nat.le_succ _)
    if c = 'n' then behind (ident .null "ull")
    else if c = 't' then behind (ident (.bool true) "rue")
    else if c = 'f' then behind (ident (.bool false) "alse")
    else if c = '-' ∨ c.isDigit then numberAt (c :: rest)
    else if c = '"' then behind fun text => (stringBody text).map (Reading.map .string)
    else if c = '[' ∨ c = '\x7b' then
      match nested? with
      | none => failNext .recursionLimit (c :: rest)
      | some item => behind (if c = '[' then arrayBody item else objectBody item)
    else failNext .expectedValue (c :: rest)

/-- Reads a value, blanks before it allowed, whose arrays and objects nest at most `depth`
deep. -/
def value : (depth : Nat) → Reader Json
  | 0 => fun text =>
    (valueAt none (skip text)).map fun reading => reading.within (skip_length_le text)
  | depth + 1 => fun text =>
    (valueAt (some (value depth)) (skip text)).map
      fun reading => reading.within (skip_length_le text)

def maxDepth : Nat := 127

/-- Reads a document: one value, and nothing but blanks around it. -/
def read (text : Text) : Except JsonFailure Json := do
  let reading ← value maxDepth text
  match skip reading.rest with
  | [] => return reading.value
  | rest => failNext .trailingCharacters rest

def parse (text : Text) : Except JsonError Json :=
  (read text).mapError (JsonError.ofFailure text)

end Json
end HttpContract
