import HttpContract.Unicode.CharClass

/-! Text as a list of characters, with the trimming, searching and splitting that the rest of the
library reads its input by. -/
namespace HttpContract

abbrev Text := List Char

instance : Coe String Text := ⟨String.toList⟩

namespace Text

open Unicode

def trimStart (text : Text) : Text := text.dropWhile isBlank

def trimEnd (text : Text) : Text := (text.reverse.dropWhile isBlank).reverse

def trim (text : Text) : Text := trimEnd (trimStart text)

def isBlank (text : Text) : Bool := text.all Unicode.isBlank

def startsWith (start text : Text) : Bool := start.isPrefixOf text

def strip? : (start text : Text) → Option Text
  | [], text => some text
  | _ :: _, [] => none
  | a :: start, c :: text => if a = c then strip? start text else none

def contains (part : Text) : Text → Bool
  | [] => part.isEmpty
  | c :: text => part.isPrefixOf (c :: text) || contains part text

/-- The pieces between the occurrences of `mark`; one more than there are occurrences. -/
def splitAt (mark : Char) : Text → List Text
  | [] => [[]]
  | c :: text =>
    if c = mark then [] :: splitAt mark text
    else match splitAt mark text with
      | [] => [[c]]
      | piece :: pieces => (c :: piece) :: pieces

def splitFirst? (mark : Char) : Text → Option (Text × Text)
  | [] => none
  | c :: text =>
    if c = mark then some ([], text)
    else (splitFirst? mark text).map fun (before, after) => (c :: before, after)

def join (between : Text) (pieces : List Text) : Text := between.intercalate pieces

def lowerAscii (text : Text) : Text := text.map Char.toLower

/-- Equality up to the case of ASCII letters. -/
def sameAscii (a b : Text) : Bool := lowerAscii a == lowerAscii b

def distinct {α : Type} [DecidableEq α] (items : List α) : List α :=
  items.foldl (fun seen item => if item ∈ seen then seen else seen ++ [item]) []

end Text
end HttpContract
