import HttpContract.Text.Basic

/-! The two readings of a newline: as the end of a line, and as the separator of two lines. A
carriage return right before a newline belongs to it. -/
namespace HttpContract
namespace Text

def dropReturn : Text → Text
  | [] => []
  | [c] => if c = '\r' then [] else [c]
  | c :: d :: text => c :: dropReturn (d :: text)

/-- A text with `k` newlines has `k + 1` lines. -/
def separatedLines (text : Text) : List Text := (splitAt '\n' text).map dropReturn

/-- Ends every piece but the last at its newline; a last piece without one is a line as it stands,
unless it is empty. -/
def endLines : List Text → List Text
  | [] => []
  | [last] => if last = [] then [] else [last]
  | piece :: next :: pieces => dropReturn piece :: endLines (next :: pieces)

/-- A text with `k` newlines has `k` lines, and one more if something follows the last newline. -/
def terminatedLines (text : Text) : List Text := endLines (splitAt '\n' text)

/-- Lines with their numbers, from 1. -/
def numbered (lines : List Text) : List (Text × Nat) := lines.zipIdx 1

end Text
end HttpContract
