/-! Positive values in the 64-bit binary floating-point format, as significand and exponent, and
the rounding of exact ratios to them. There is no greatest exponent; `isFinite` tells the values
that the format holds. -/
namespace HttpContract

def pow2 (n : Nat) : Nat := Nat.pow 2 n

def pow10 (n : Nat) : Nat := Nat.pow 10 n

/-- The value `significand * 2 ^ exponent`. -/
structure Binary64 where
  significand : Nat
  exponent : Int
  deriving DecidableEq, Inhabited

namespace Binary64

/-- The nearest integer to a ratio; of two, the even one. -/
def roundRatio (num den : Nat) : Nat :=
  let floor := num / den
  let twice := 2 * (num % den)
  if twice < den then floor
  else if twice > den then floor + 1
  else floor + floor % 2

def scale (num den : Nat) (exponent : Int) : Nat × Nat :=
  if 0 ≤ exponent then (num, den * pow2 exponent.toNat) else (num * pow2 (-exponent).toNat, den)

def leastSignificand : Nat := 4503599627370496

def minExponent : Int := -1074

/-- The greatest exponent with which the format stores a significand of 53 bits. -/
def maxExponent : Int := 971

/-- The exponent that gives the ratio a significand of 53 bits, or the least one. -/
def fittingExponent (num den : Nat) : Int :=
  let guess : Int := (num.log2 : Int) - den.log2 - 52
  let (n, d) := scale num den guess
  max minExponent (if n < leastSignificand * d then guess - 1 else guess)

/-- The value nearest to a ratio; of two, the one with the even significand. -/
def ofRatio (num den : Nat) : Binary64 :=
  if num = 0 then ⟨0, 0⟩
  else
    let exponent := fittingExponent num den
    let (n, d) := scale num den exponent
    let significand := roundRatio n d
    if significand = 2 * leastSignificand then ⟨leastSignificand, exponent + 1⟩
    else ⟨significand, exponent⟩

def isZero (x : Binary64) : Bool := x.significand == 0

def isFinite (x : Binary64) : Bool := x.exponent ≤ maxExponent

def ratio (x : Binary64) : Nat × Nat :=
  if 0 ≤ x.exponent then (x.significand * pow2 x.exponent.toNat, 1)
  else (x.significand, pow2 (-x.exponent).toNat)

def ofNat (n : Nat) : Binary64 := ofRatio n 1

def mul (x y : Binary64) : Binary64 :=
  ofRatio (x.ratio.1 * y.ratio.1) (x.ratio.2 * y.ratio.2)

def div (x y : Binary64) : Binary64 :=
  ofRatio (x.ratio.1 * y.ratio.2) (x.ratio.2 * y.ratio.1)

def ofDecimal (digits : Nat) (exponent : Int) : Binary64 :=
  if 0 ≤ exponent then ofRatio (digits * pow10 exponent.toNat) 1
  else ofRatio digits (pow10 (-exponent).toNat)

end Binary64
end HttpContract
