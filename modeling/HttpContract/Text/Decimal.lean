import HttpContract.Text.Basic

/-! Natural numbers as text, in decimal and in hexadecimal digits. -/
namespace HttpContract
namespace Text

def digitChar (digit : Nat) : Char := Char.ofNat (digit + 48)

def decimal (n : Nat) : Text :=
  if n < 10 then [digitChar n] else decimal (n / 10) ++ [digitChar (n % 10)]
termination_by n

def decimalPadded (width n : Nat) : Text :=
  let digits := decimal n
  List.replicate (width - digits.length) '0' ++ digits

def decimalInt (n : Int) : Text :=
  if n < 0 then '-' :: decimal n.natAbs else decimal n.natAbs

/-- The value of a digit in bases up to sixteen. -/
def digitValue? (c : Char) : Option Nat :=
  if '0' ≤ c ∧ c ≤ '9' then some (c.toNat - 48)
  else if 'a' ≤ c ∧ c ≤ 'f' then some (c.toNat - 87)
  else if 'A' ≤ c ∧ c ≤ 'F' then some (c.toNat - 55)
  else none

/-- The number that the digits write in `base`; none for an empty text or a foreign digit. -/
def natOfDigits? (base : Nat) (text : Text) : Option Nat :=
  if text = [] then none
  else text.foldlM (fun value c => do
    let digit ← digitValue? c
    if digit < base then some (value * base + digit) else none) 0

def hexDigit (digit : Nat) : Char := if digit < 10 then digitChar digit else Char.ofNat (digit + 87)

def hexadecimal (n : Nat) : Text :=
  if n < 16 then [hexDigit n] else hexadecimal (n / 16) ++ [hexDigit (n % 16)]
termination_by n

def hexByte (byte : Nat) : Text := [hexDigit (byte / 16), hexDigit (byte % 16)]

end Text
end HttpContract
