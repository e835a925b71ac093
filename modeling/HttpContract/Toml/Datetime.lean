import HttpContract.Toml.Scan
import HttpContract.Toml.Value

/-! TOML dates and times. Their values play no part beyond being valid. -/
namespace HttpContract
namespace Toml

def field (width low high : Nat) (text : Text) : Option (Nat × Text) := do
  let digits := text.take width
  if digits.length = width ∧ digits.all Char.isDigit then
    let value ← Text.natOfDigits? 10 digits
    if low ≤ value ∧ value ≤ high then some (value, text.drop width) else none
  else none

def isLeapYear (year : Nat) : Bool := year % 4 == 0 && (year % 100 != 0 || year % 400 == 0)

def daysInMonth (year month : Nat) : Nat :=
  if month = 2 then (if isLeapYear year then 29 else 28)
  else if month ∈ [4, 6, 9, 11] then 30
  else 31

def date? (text : Text) : Option Text := do
  let (year, rest) ← field 4 0 9999 text
  let (month, rest) ← field 2 1 12 (← mark? '-' rest)
  let (_, rest) ← field 2 1 (daysInMonth year month) (← mark? '-' rest)
  some rest

def skipFraction (text : Text) : Text :=
  match mark? '.' text with
  | none => text
  | some rest => if (rest.takeWhile Char.isDigit).isEmpty then text else rest.dropWhile Char.isDigit

/-- What follows a time of day; a leap second counts. -/
def time? (text : Text) : Option Text := do
  let (_, rest) ← field 2 0 23 text
  let (_, rest) ← field 2 0 59 (← mark? ':' rest)
  let (_, rest) ← field 2 0 60 (← mark? ':' rest)
  some (skipFraction rest)

def offset? : Text → Option Text
  | [] => none
  | c :: rest =>
    if c = 'Z' ∨ c = 'z' then some rest
    else if c = '+' ∨ c = '-' then do
      let (_, rest) ← field 2 0 23 rest
      let (_, rest) ← field 2 0 59 (← mark? ':' rest)
      some rest
    else none

def timeBehindDate? : Text → Option Text
  | [] => none
  | c :: rest =>
    if c = 'T' ∨ c = 't' ∨ c = ' ' then (time? rest).map fun rest => (offset? rest).getD rest
    else none

/-- A date, a time, or a date with a time. -/
def scanDatetime : Scan Toml := fun text => do
  let rest ← match date? text with
    | some rest => some ((timeBehindDate? rest).getD rest)
    | none => time? text
  some (.datetime (text.take (text.length - rest.length)), rest)

end Toml
end HttpContract
