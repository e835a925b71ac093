import HttpContract.Toml.Scan
import HttpContract.Toml.Value

/-! TOML numbers: integers of 64 bits in four bases, and floats. Underscores may stand between
digits. -/
namespace HttpContract
namespace Toml

def moreDigits (isDigit : Char → Bool) : Text → Text × Text
  | [] => ([], [])
  | c :: rest =>
    if isDigit c then
      let (digits, rest) := moreDigits isDigit rest
      (c :: digits, rest)
    else match c, rest with
      | '_', d :: next =>
        if isDigit d then
          let (digits, rest) := moreDigits isDigit next
          (d :: digits, rest)
        else ([], c :: rest)
      | _, _ => ([], c :: rest)

def digits (isDigit : Char → Bool) : Scan Text
  | [] => none
  | c :: rest =>
    if isDigit c then
      let (more, rest) := moreDigits isDigit rest
      some (c :: more, rest)
    else none

def sign : Text → Bool × Text
  | '+' :: rest => (false, rest)
  | '-' :: rest => (true, rest)
  | text => (false, text)

def wholeDigits : Scan Text
  | '0' :: rest => some (['0'], rest)
  | text => digits Char.isDigit text

def natOf (base : Nat) (digits : Text) : Nat := (Text.natOfDigits? base digits).getD 0

def integerOf? (negative : Bool) (magnitude : Nat) : Option Toml :=
  if magnitude < 9223372036854775808 ∨ (negative ∧ magnitude = 9223372036854775808) then
    some (.integer (if negative then -magnitude else magnitude))
  else none

def isBaseDigit (base : Nat) (c : Char) : Bool :=
  match Text.digitValue? c with
  | some value => value < base
  | none => false

def basedInteger (base : Nat) : Scan Toml := fun text => do
  let (digits, rest) ← digits (isBaseDigit base) text
  let value ← integerOf? false (natOf base digits)
  some (value, rest)

def decimalInteger : Scan Toml := fun text => do
  let (negative, rest) := sign text
  let (digits, rest) ← wholeDigits rest
  let value ← integerOf? negative (natOf 10 digits)
  some (value, rest)

def scanInteger : Scan Toml := fun text =>
  match text with
  | '0' :: 'x' :: rest => basedInteger 16 rest
  | '0' :: 'o' :: rest => basedInteger 8 rest
  | '0' :: 'b' :: rest => basedInteger 2 rest
  | _ => decimalInteger text

def fraction : Scan Text := fun text => (mark? '.' text).bind (digits Char.isDigit)

def exponent : Scan Int
  | [] => none
  | c :: rest =>
    if c = 'e' ∨ c = 'E' then
      let (negative, rest) := sign rest
      (digits Char.isDigit rest).map fun (digits, rest) =>
        let power : Int := natOf 10 digits
        (if negative then -power else power, rest)
    else none

/-- A float with a fraction or an exponent. A positive one must not exceed the range. -/
def decimalFloat : Scan Toml := fun text => do
  let (negative, rest) := sign text
  let (whole, rest) ← wholeDigits rest
  let (places, power, rest) ← match exponent rest, fraction rest with
    | some (power, rest), _ => some (([] : Text), power, rest)
    | none, some (places, rest) =>
      match exponent rest with
      | some (power, rest) => some (places, power, rest)
      | none => some (places, 0, rest)
    | none, none => none
  let value := TomlFloat.ofDecimal negative (natOf 10 (whole ++ places)) (power - places.length)
  if value = .infinite false then none else some (.float value, rest)

def specialFloat : Scan Toml := fun text =>
  let (negative, word) := sign text
  match Text.strip? "inf" word with
  | some rest => some (.float (.infinite negative), rest)
  | none => (Text.strip? "nan" word).map fun rest => (.float .nan, rest)

def scanFloat : Scan Toml := fun text => (decimalFloat text).orElse fun _ => specialFloat text

end Toml
end HttpContract
