import HttpContract.Method

/-! Request lines: a verb, blanks, and a target that a version token may follow. -/
namespace HttpContract

structure RequestLine where
  method : Method
  target : Text
  deriving DecidableEq, Inhabited

namespace RequestLine

open Unicode

/-- Whether a text is `HTTP/` with digits and, after a point, more digits. -/
def isVersion (text : Text) : Bool :=
  match Text.strip? "HTTP/" text with
  | none => false
  | some number =>
    !(number.takeWhile isDecimalDigit).isEmpty &&
      match number.dropWhile isDecimalDigit with
      | [] => true
      | '.' :: minor => !minor.isEmpty && minor.all isDecimalDigit
      | _ => false

/-- Drops a version token at the end, together with the blanks before it; without blanks it is
part of the target. -/
def dropVersion (text : Text) : Text :=
  let backwards := text.reverse
  let word := (backwards.takeWhile fun c => !Unicode.isBlank c).reverse
  let before := backwards.dropWhile fun c => !Unicode.isBlank c
  if !before.isEmpty && isVersion word then Text.trimEnd before.reverse else text

/-- What follows the blanks at the start of a text, of which there must be at least one. -/
def behindBlanks? (text : Text) : Option Text :=
  match text with
  | [] => none
  | c :: _ =>
    let rest := Text.trimStart text
    if Unicode.isBlank c && !rest.isEmpty then some rest else none

/-- Reads a trimmed line. A newline, which only a line that was not cut from a text can hold, may
stand among the blanks but not in the target. -/
def ofText? (line : Text) : Option RequestLine :=
  Method.all.findSome? fun method => do
    let behind ← Text.strip? method.text line
    let target ← behindBlanks? behind
    if '\n' ∈ target then none
    else some { method, target := dropVersion (Text.trim target) }

end RequestLine
end HttpContract
