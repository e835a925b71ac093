import HttpContract.Text.Basic

/-! Text as UTF-8 bytes. Bytes are read either strictly or with a replacement character for each
maximal invalid part. -/
namespace HttpContract
namespace Utf8

abbrev Bytes := List UInt8

def encode (text : Text) : Bytes := text.flatMap String.utf8EncodeChar

/-- What a leading byte announces: the bounds of the second byte, the number of bytes after that,
and the bits of the character that the leading byte holds. -/
structure Lead where
  low : Nat
  high : Nat
  more : Nat
  bits : Nat

/-- The leading bytes of characters beyond ASCII. The bounds exclude overlong forms, surrogates and
everything beyond the last code point. -/
def lead? (byte : Nat) : Option Lead :=
  if 0xC2 ≤ byte ∧ byte ≤ 0xDF then some ⟨0x80, 0xBF, 0, byte - 0xC0⟩
  else if byte = 0xE0 then some ⟨0xA0, 0xBF, 1, 0⟩
  else if byte = 0xED then some ⟨0x80, 0x9F, 1, 0xD⟩
  else if 0xE1 ≤ byte ∧ byte ≤ 0xEF then some ⟨0x80, 0xBF, 1, byte - 0xE0⟩
  else if byte = 0xF0 then some ⟨0x90, 0xBF, 2, 0⟩
  else if 0xF1 ≤ byte ∧ byte ≤ 0xF3 then some ⟨0x80, 0xBF, 2, byte - 0xF0⟩
  else if byte = 0xF4 then some ⟨0x80, 0x8F, 2, 4⟩
  else none

/-- Reads the given number of continuation bytes; none if one of them is missing, with what
follows the good ones. -/
def continuation (value : Nat) : Nat → Bytes → Option Char × Bytes
  | 0, rest => (some (Char.ofNat value), rest)
  | _ + 1, [] => (none, [])
  | more + 1, byte :: rest =>
    if 0x80 ≤ byte.toNat ∧ byte.toNat ≤ 0xBF then
      continuation (value * 64 + (byte.toNat - 0x80)) more rest
    else (none, byte :: rest)

/-- The character that a byte begins, if it is complete, and the bytes behind it or behind the
invalid part. -/
def step (byte : UInt8) (rest : Bytes) : Option Char × Bytes :=
  if byte.toNat < 0x80 then (some (Char.ofNat byte.toNat), rest)
  else match lead? byte.toNat, rest with
    | some lead, second :: rest =>
      if lead.low ≤ second.toNat ∧ second.toNat ≤ lead.high then
        continuation (lead.bits * 64 + (second.toNat - 0x80)) lead.more rest
      else (none, second :: rest)
    | _, rest => (none, rest)

@[simp] theorem continuation_length_le (value more : Nat) (bytes : Bytes) :
    (continuation value more bytes).2.length ≤ bytes.length := by
  fun_induction continuation value more bytes with
  | case1 | case2 | case4 => simp
  | case3 value more byte rest _ ih => exact Nat.le_succ_of_le ih

@[simp] theorem step_length_le (byte : UInt8) (rest : Bytes) :
    (step byte rest).2.length ≤ rest.length := by
  unfold step
  split
  · simp
  · split
    · split
      · exact Nat.le_succ_of_le (continuation_length_le ..)
      · simp
    · simp

/-- The characters of a byte sequence, with none for each maximal invalid part. -/
def characters : Bytes → List (Option Char)
  | [] => []
  | byte :: rest =>
    have := step_length_le byte rest
    (step byte rest).1 :: characters (step byte rest).2
termination_by bytes => bytes.length
decreasing_by simp only [List.length_cons]; omega

def decode? (bytes : Bytes) : Option Text := (characters bytes).mapM id

/-- The text of any bytes, each maximal invalid part becoming a replacement character. -/
def decodeLossy (bytes : Bytes) : Text := (characters bytes).map fun c => c.getD '\ufffd'

end Utf8
end HttpContract
