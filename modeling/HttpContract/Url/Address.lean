import HttpContract.Text.Decimal
import HttpContract.Url.Error

/-! Numeric host addresses: reading them in all accepted spellings and writing the usual one. -/
namespace HttpContract

namespace Ipv4

/-- A number of an address: octal behind a zero, hexadecimal behind `0x`, and a bare `0x` is
zero. -/
def number? (part : Text) : Option Nat :=
  let inBase (base : Nat) (digits : Text) : Option Nat :=
    if digits = [] then some 0 else Text.natOfDigits? base digits
  match part with
  | [] => none
  | '0' :: 'x' :: digits => inBase 16 digits
  | '0' :: 'X' :: digits => inBase 16 digits
  | '0' :: c :: digits => inBase 8 (c :: digits)
  | digits => inBase 10 digits

/-- The parts between dots; one dot at the end is allowed. -/
def parts (host : Text) : List Text :=
  let pieces := Text.splitAt '.' host
  if pieces.getLast? = some [] then pieces.dropLast else pieces

/-- Whether the last part of a host is a number, so that the host must be an address. -/
def looksNumeric (host : Text) : Bool :=
  match (parts host).getLast? with
  | none => false
  | some last => (!last.isEmpty && last.all Char.isDigit) || (number? last).isSome

/-- The 32 bits of an address of one to four numbers; the last one fills all remaining bytes. -/
def ofText? (host : Text) : Option Nat := do
  let numbers ← (parts host).mapM number?
  let last ← numbers.getLast?
  let front := numbers.dropLast
  if front.length > 3 || front.any (· > 255) || last ≥ Nat.pow 256 (4 - front.length) then none
  else some (front.foldl (fun value n => value * 256 + n) 0 * Nat.pow 256 (4 - front.length) + last)

def text (address : Nat) : Text :=
  Text.join ['.'] ([3, 2, 1, 0].map fun i => Text.decimal (address / Nat.pow 256 i % 256))

end Ipv4

namespace Ipv6

def piece? (part : Text) : Option Nat :=
  if part.length ≤ 4 then Text.natOfDigits? 16 part else none

def byte? (part : Text) : Option Nat := do
  let value ← Text.natOfDigits? 10 part
  if value ≤ 255 && (part.length == 1 || part.head? != some '0') then some value else none

def dotted? (part : Text) : Option (List Nat) := do
  match ← (Text.splitAt '.' part).mapM byte? with
  | [a, b, c, d] => some [a * 256 + b, c * 256 + d]
  | _ => none

/-- The pieces between colons, of which the last may be dotted if that is allowed here. -/
def pieces? (dottedEnd : Bool) (text : Text) : Option (List Nat) :=
  if text = [] then some []
  else do
    let parts := Text.splitAt ':' text
    let front ← parts.dropLast.mapM piece?
    let last ← parts.getLast?
    if dottedEnd && '.' ∈ last then return front ++ (← dotted? last)
    return front ++ [← piece? last]

def splitPair? : Text → Option (Text × Text)
  | ':' :: ':' :: rest => some ([], rest)
  | c :: rest => (splitPair? rest).map fun (before, after) => (c :: before, after)
  | [] => none

/-- The eight pieces of an address; a pair of colons stands for at least one piece of zero. -/
def ofText? (text : Text) : Option (List Nat) := do
  match splitPair? text with
  | some (before, after) =>
    let front ← pieces? false before
    let back ← pieces? true after
    let given := front.length + back.length
    if given ≤ 7 then some (front ++ List.replicate (8 - given) 0 ++ back) else none
  | none =>
    let pieces ← pieces? true text
    if pieces.length = 8 then some pieces else none

def zeroRun (pieces : List Nat) (start : Nat) : Nat :=
  ((pieces.drop start).takeWhile (· == 0)).length

/-- The start of the longest run of zeros, the first of several. -/
def longestRun (pieces : List Nat) : Nat :=
  (List.range pieces.length).foldl
    (fun best start => if zeroRun pieces start > zeroRun pieces best then start else best) 0

/-- Colons between the pieces; the longest run of at least two zeros becomes a pair of colons. -/
def text (pieces : List Nat) : Text :=
  let write (part : List Nat) : Text := Text.join [':'] (part.map Text.hexadecimal)
  let start := longestRun pieces
  let run := zeroRun pieces start
  if run < 2 then write pieces
  else write (pieces.take start) ++ "::" ++ write (pieces.drop (start + run))

end Ipv6
end HttpContract
