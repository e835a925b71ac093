import HttpContract.Url.Error
import HttpContract.Url.Basic

/-! Path segments: dot segments are resolved while the path is built, and nothing leads above a
segment that looks like a drive. -/
namespace HttpContract
namespace UrlPath

def dotSpellings : List Text := [".", "%2e"]

def isSingleDot (segment : Text) : Bool := Text.lowerAscii segment ∈ dotSpellings

def isDoubleDot (segment : Text) : Bool :=
  dotSpellings.any fun first => dotSpellings.any fun second =>
    Text.lowerAscii segment == first ++ second

/-- A letter with a colon or a bar, which names a drive in a file path. -/
def isDrive : Text → Bool
  | [letter, mark] => letter.isAlpha && (mark == ':' || mark == '|')
  | _ => false

def isNormalDrive (segment : Text) : Bool := isDrive segment && segment.getLast? == some ':'

/-- Whether a segment is a drive as far as its first backslash. -/
def looksLikeDrive (segment : Text) : Bool := isDrive (segment.takeWhile (· != '\\'))

/-- Tabs and line ends do not count anywhere in a URL. -/
def counts (c : Char) : Bool := !(c == '\t' || c == '\n' || c == '\r')

/-- What stands between two slashes, encoded. A drive letter and its colon are cut off if a tab or
a line end stands between them and more of the same. -/
structure Piece where
  text : Text
  isCut : Bool := false
  deriving DecidableEq, Inhabited

namespace Piece

def ofWritten (written : Text) : Piece :=
  let letter := (written.takeWhile (· != ':')).filter counts
  let behind := (written.dropWhile (· != ':')).drop 1
  { text := Percent.encode Percent.pathSet (written.filter counts)
    isCut := isDrive (letter ++ [':']) && (behind.head?.any fun c => !counts c) &&
      behind.any counts }

/-- The pieces of a path. Special schemes read a backslash as a slash. -/
def listOf (isSpecial : Bool) (written : Text) : List Piece :=
  let slashed := if isSpecial then written.map fun c => if c = '\\' then '/' else c else written
  (Text.splitAt '/' slashed).map ofWritten

end Piece

/-- A path under construction: the finished segments from the last to the first, what the segment
at hand already holds, and whether a drive was named on the way. -/
structure Draft where
  finished : List Text := []
  held : Text := []
  hasDrive : Bool := false
  deriving DecidableEq, Inhabited

namespace Draft

/-- The path of a base without its last segment. In a file path a drive stays, with nothing
between it and what follows. -/
def ofBase (isFile : Bool) (segments : List Text) : Draft :=
  match segments.reverse with
  | [] => {}
  | last :: before =>
    { finished := before, held := if isFile && isNormalDrive last then last else [] }

def isEmpty (draft : Draft) : Bool := draft.finished.isEmpty && draft.held.isEmpty

/-- A drive that is all of the path so far is finished as soon as something follows it. -/
def closeDrive (draft : Draft) : Draft :=
  if draft.finished = [] ∧ draft.held ≠ [] then { draft with finished := [draft.held], held := [] }
  else draft

/-- Goes up one segment, unless that one looks like a drive. -/
def parent : List Text → List Text
  | [] => []
  | last :: before => if looksLikeDrive last then last :: before else before

def finish (draft : Draft) (segment : Text) : Draft :=
  { draft with finished := segment :: draft.finished, held := [] }

/-- Adds a piece; `isLast` tells whether the path ends with it. A dot segment leaves no segment but
an empty one at the end. Double dots have no meaning right behind a drive that is held. -/
def add (isFile isLast : Bool) (draft : Draft) (piece : Piece) : Except UrlError Draft :=
  let segment := piece.text
  let draft := if segment = [] then draft else draft.closeDrive
  let endHere (draft : Draft) : Draft := if isLast then draft.finish [] else draft
  if isFile ∧ draft.isEmpty ∧ piece.isCut then
    .ok ((draft.finish (segment.take 2)).finish (segment.drop 2))
  else if isDoubleDot segment then
    if draft.held = [] then .ok (endHere { draft with finished := parent draft.finished })
    else .error .dotsBehindDrive
  else if isSingleDot segment then
    .ok (endHere (if draft.held = [] then draft else draft.finish draft.held))
  else if isFile ∧ draft.isEmpty ∧ isDrive segment then
    .ok { draft.finish (segment.take 1 ++ [':']) with hasDrive := true }
  else .ok (draft.finish (draft.held ++ segment))

def addAll (isFile : Bool) (draft : Draft) : List Piece → Except UrlError Draft
  | [] => .ok draft
  | piece :: rest => do addAll isFile (← draft.add isFile rest.isEmpty piece) rest

def segments (draft : Draft) : List Text := draft.finished.reverse

end Draft

def ofText (isSpecial : Bool) (draft : Draft) (text : Text) : Except UrlError (List Text) :=
  Draft.segments <$> draft.addAll false (Piece.listOf isSpecial text)

/-- A file path does not start with empty segments. -/
def dropEmpty (path : List Text) : List Text :=
  match path.dropWhile List.isEmpty with
  | [] => [[]]
  | kept => kept

end UrlPath
end HttpContract
