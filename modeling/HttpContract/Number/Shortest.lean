import HttpContract.Number.Binary64
import HttpContract.Text.Decimal

/-! The shortest decimal that rounds to a given binary value, and the ways in which decimals are
written. -/
namespace HttpContract

/-- The value `digits * 10 ^ exponent`. -/
structure DecimalValue where
  digits : Nat
  exponent : Int
  deriving DecidableEq, Inhabited

def DecimalValue.reduce (decimal : DecimalValue) : DecimalValue :=
  if decimal.digits ≠ 0 ∧ decimal.digits % 10 = 0 then
    reduce ⟨decimal.digits / 10, decimal.exponent + 1⟩
  else decimal
termination_by decimal.digits
decreasing_by omega

namespace Binary64

/-- The bounds of what rounds to a value, in units of a quarter of the last place. Below a power
of two the values lie twice as close. -/
def interval (x : Binary64) : Nat × Nat :=
  let quarters := 4 * x.significand
  let below := if x.significand = leastSignificand ∧ x.exponent > minExponent then 1 else 2
  (quarters - below, quarters + 2)

/-- Compares `digits * 10 ^ exponent` with a number of quarters of the last place of a value. -/
def compareDecimal (x : Binary64) (decimal : DecimalValue) (quarters : Nat) : Ordering :=
  let power := x.exponent - 2
  let left := decimal.digits * pow10 decimal.exponent.toNat * pow2 (-power).toNat
  let right := quarters * pow2 power.toNat * pow10 (-decimal.exponent).toNat
  compare left right

/-- Whether a decimal rounds to the value; the bounds do if the significand is even. -/
def reads (x : Binary64) (decimal : DecimalValue) : Bool :=
  let (low, high) := x.interval
  let even := x.significand % 2 == 0
  let above := x.compareDecimal decimal low
  let below := x.compareDecimal decimal high
  (above == .gt || (even && above == .eq)) && (below == .lt || (even && below == .eq))

def neighbours (x : Binary64) (exponent : Int) : DecimalValue × DecimalValue :=
  let (num, den) := x.ratio
  let floor := num * pow10 (-exponent).toNat / (den * pow10 exponent.toNat)
  (⟨floor, exponent⟩, ⟨floor + 1, exponent⟩)

/-- The neighbour that rounds to the value; of two the nearer one, and of two equally near ones
the even one. -/
def decimalOn? (x : Binary64) (exponent : Int) : Option DecimalValue :=
  let (lower, upper) := x.neighbours exponent
  match x.reads lower, x.reads upper with
  | false, false => none
  | true, false => some lower
  | false, true => some upper
  | true, true =>
    let middle : DecimalValue := ⟨10 * lower.digits + 5, exponent - 1⟩
    match x.compareDecimal middle (4 * x.significand) with
    | .gt => some lower
    | .lt => some upper
    | .eq => some (if lower.digits % 2 = 0 then lower else upper)

def leadingExponent (x : Binary64) : Int :=
  let (num, den) := x.ratio
  if den ≤ num then ((Text.decimal (num / den)).length : Int) - 1
  else -((((List.range 400).find? fun j => den ≤ num * pow10 j).getD 0 : Nat) : Int)

/-- The decimal with the fewest digits that rounds to the value; seventeen always suffice. -/
def shortest (x : Binary64) : DecimalValue :=
  if x.isZero then ⟨0, 0⟩
  else
    let first := x.leadingExponent
    match (List.range 17).findSome? fun (more : Nat) => x.decimalOn? (first - more) with
    | some decimal => decimal.reduce
    | none => ⟨0, 0⟩

end Binary64

namespace DecimalValue

/-- Where the decimal point stands, counted from the first digit. -/
def point (decimal : DecimalValue) : Int :=
  ((Text.decimal decimal.digits).length : Int) + decimal.exponent

def positional (decimal : DecimalValue) : Text :=
  let digits := Text.decimal decimal.digits
  let point := decimal.point
  if 0 ≤ decimal.exponent then digits ++ List.replicate decimal.exponent.toNat '0'
  else if point ≤ 0 then "0." ++ List.replicate (-point).toNat '0' ++ digits
  else digits.take point.toNat ++ ['.'] ++ digits.drop point.toNat

def scientific (decimal : DecimalValue) : Text :=
  let digits := Text.decimal decimal.digits
  let power := decimal.point - 1
  digits.take 1 ++ (if digits.length = 1 then [] else '.' :: digits.drop 1) ++ ['e'] ++
    (if power < 0 then ['-'] else ['+']) ++ Text.decimal power.natAbs

/-- A number of a JSON document: positional from one hundred-thousandth up to sixteen digits,
and always with a point or an exponent. -/
def json (decimal : DecimalValue) : Text :=
  if decimal.digits = 0 then "0.0"
  else if -5 < decimal.point ∧ decimal.point ≤ 16 then
    decimal.positional ++ (if 0 ≤ decimal.exponent then ['.', '0'] else [])
  else decimal.scientific

end DecimalValue

namespace Binary64

/-- The exact value rounded to a number of decimal places, ties to the even neighbour. -/
def fixed (places : Nat) (x : Binary64) : Text :=
  let (num, den) := x.ratio
  let scaled := roundRatio (num * pow10 places) den
  if places = 0 then Text.decimal scaled
  else
    Text.decimal (scaled / pow10 places) ++ ['.'] ++
      Text.decimalPadded places (scaled % pow10 places)

end Binary64
end HttpContract
