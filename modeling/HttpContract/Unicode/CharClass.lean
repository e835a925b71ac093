import HttpContract.Unicode.Alphabetic
import HttpContract.Unicode.Mark

/-! The character classes of the request grammar: blanks, decimal digits, letters and numbers, and
word characters. ASCII is decided directly, the rest by table. Names are judged by version 17 of the
Unicode standard; declarations and version tokens are read by the one before it. -/
namespace HttpContract
namespace Unicode

/-- Word characters of version 17 that version 16 did not assign. -/
def recent : List CodeRange := [
  ⟨0x88F, 0x88F⟩, ⟨0xC5C, 0xC5C⟩, ⟨0xCDC, 0xCDC⟩, ⟨0x1ACF, 0x1ADD⟩, ⟨0x1AE0, 0x1AEB⟩,
  ⟨0xA7CE, 0xA7CF⟩, ⟨0xA7D2, 0xA7D2⟩, ⟨0xA7D4, 0xA7D4⟩, ⟨0xA7F1, 0xA7F1⟩, ⟨0x10940, 0x10959⟩,
  ⟨0x10EC5, 0x10EC7⟩, ⟨0x10EFA, 0x10EFB⟩, ⟨0x11B60, 0x11B67⟩, ⟨0x11DB0, 0x11DDB⟩,
  ⟨0x11DE0, 0x11DE9⟩, ⟨0x16EA0, 0x16EB8⟩, ⟨0x16EBB, 0x16ED3⟩, ⟨0x16FF2, 0x16FF6⟩,
  ⟨0x187F8, 0x187FF⟩, ⟨0x18D09, 0x18D1E⟩, ⟨0x18D80, 0x18DF2⟩, ⟨0x1E6C0, 0x1E6DE⟩,
  ⟨0x1E6E0, 0x1E6F5⟩, ⟨0x1E6FE, 0x1E6FF⟩, ⟨0x2B73A, 0x2B73F⟩, ⟨0x2CEA2, 0x2CEAD⟩,
  ⟨0x323B0, 0x33479⟩]

/-- The property White_Space. -/
def isBlank (c : Char) : Bool :=
  (0x9 ≤ c.toNat && c.toNat ≤ 0xD) || c.toNat == 0x20 || c.toNat == 0x85 || c.toNat == 0xA0 ||
  c.toNat == 0x1680 || (0x2000 ≤ c.toNat && c.toNat ≤ 0x200A) || c.toNat == 0x2028 ||
  c.toNat == 0x2029 || c.toNat == 0x202F || c.toNat == 0x205F || c.toNat == 0x3000

/-- A decimal digit of any script, the recent ones apart. -/
def isDecimalDigit (c : Char) : Bool :=
  if c.toNat < 128 then c.isDigit else isIn decimalDigits c && !isIn recent c

def isAlphanumeric (c : Char) : Bool :=
  if c.toNat < 128 then c.isAlphanum
  else isIn alphabetic c || isIn decimalDigits c || isIn otherNumbers c

/-- A character of a word: letters, marks, decimal digits, connectors and join controls, the
recent ones apart. -/
def isWordChar (c : Char) : Bool :=
  if c.toNat < 128 then c.isAlphanum || c == '_'
  else (isIn alphabetic c || isIn marks c || isIn decimalDigits c || isIn connectors c ||
    isIn joinControls c) && !isIn recent c

end Unicode
end HttpContract
