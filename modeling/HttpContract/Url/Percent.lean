import HttpContract.Text.Decimal
import HttpContract.Text.Utf8

/-! Percent-encoding of the parts of a URL. Every part has its own set of characters that must be
encoded; characters beyond ASCII always are. -/
namespace HttpContract
namespace Percent

/-- A character of ASCII that a part of a URL may not hold as it is. -/
abbrev EncodeSet := Char → Bool

def controls : EncodeSet := fun c => c.toNat < 0x20 || c.toNat == 0x7F

def fragmentSet : EncodeSet := fun c => controls c || c ∈ [' ', '"', '<', '>', '`']

def querySet : EncodeSet := fun c => controls c || c ∈ [' ', '"', '#', '<', '>']

/-- The query of a special scheme does not hold apostrophes either. -/
def specialQuerySet : EncodeSet := fun c => querySet c || c == '\''

def pathSet : EncodeSet := fun c => fragmentSet c || c ∈ ['#', '?', '\x7b', '\x7d']

def userInfoSet : EncodeSet := fun c =>
  pathSet c || c ∈ ['/', ':', ';', '=', '@', '[', '\\', ']', '^', '|']

/-- A percent sign and two digits in upper case for each byte of the character. -/
def escape (c : Char) : Text :=
  (String.utf8EncodeChar c).flatMap fun byte => '%' :: (Text.hexByte byte.toNat).map Char.toUpper

def encode (set : EncodeSet) (text : Text) : Text :=
  text.flatMap fun c => if c.toNat ≥ 0x80 || set c then escape c else [c]

def decode : Text → Utf8.Bytes
  | '%' :: a :: b :: rest =>
    match Text.digitValue? a, Text.digitValue? b with
    | some high, some low => UInt8.ofNat (high * 16 + low) :: decode rest
    | _, _ => String.utf8EncodeChar '%' ++ decode (a :: b :: rest)
  | c :: rest => String.utf8EncodeChar c ++ decode rest
  | [] => []
termination_by text => text.length

end Percent
end HttpContract
