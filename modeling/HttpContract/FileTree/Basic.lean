import HttpContract.FileTree.Fault
import HttpContract.Text.Utf8

/-! A tree of directories and files, seen from a working directory. Paths are walked step by step,
so that every directory on the way has to be there. -/
namespace HttpContract

/-- Where something is: the names from the root down to it. -/
abbrev Place := List Text

inductive FileEntry where
  | directory
  | file (bytes : Utf8.Bytes)
  deriving DecidableEq, Inhabited

/-- What stands at each place, and the working directory. The root is always there. -/
structure FileTree where
  entries : List (Place × FileEntry) := []
  workingDirectory : Place := []
  deriving DecidableEq, Inhabited

namespace FileTree

def lookup (tree : FileTree) (place : Place) : Option FileEntry :=
  if place = [] then some .directory else tree.entries.lookup place

def putEntry (place : Place) (entry : FileEntry) :
    List (Place × FileEntry) → List (Place × FileEntry)
  | [] => [(place, entry)]
  | (other, kept) :: rest =>
    if place = other then (other, entry) :: rest else (other, kept) :: putEntry place entry rest

def put (tree : FileTree) (place : Place) (entry : FileEntry) : FileTree :=
  { tree with entries := putEntry place entry tree.entries }

/-- The greatest number of bytes in a name. -/
def maxName : Nat := 255

def maxPath : Nat := 4095

/-- Walks from a place along the parts of a path. Every part needs a directory to start from; the
end of the way may be free. -/
def walk (tree : FileTree) (place : Place) : List Text → Except FileFault Place
  | [] => .ok place
  | part :: parts =>
    match tree.lookup place with
    | none => .error .notFound
    | some (.file _) => .error .notDirectory
    | some .directory =>
      if part = ['.'] then walk tree place parts
      else if part = ['.', '.'] then walk tree place.dropLast parts
      else if (Utf8.encode part).length > maxName then .error .nameTooLong
      else walk tree (place ++ [part]) parts

def partsOf (path : Text) : List Text :=
  (Text.splitAt '/' path).filter fun part => !part.isEmpty

/-- A path that begins with a slash starts at the root. -/
def startOf (tree : FileTree) (path : Text) : Place :=
  if Text.startsWith ['/'] path then [] else tree.workingDirectory

def checkPath (path : Text) : Except FileFault Unit :=
  if '\x00' ∈ path then .error .zeroInName
  else if path = [] then .error .notFound
  else if (Utf8.encode path).length > maxPath then .error .nameTooLong
  else .ok ()

/-- The place that a path leads to; a slash at the end asks for a directory. -/
def placeOf (tree : FileTree) (path : Text) : Except FileFault Place := do
  checkPath path
  let here : List Text := if path.getLast? = some '/' then [['.']] else []
  tree.walk (tree.startOf path) (partsOf path ++ here)

def find (tree : FileTree) (path : Text) : Except FileFault FileEntry := do
  let place ← tree.placeOf path
  match tree.lookup place with
  | none => .error .notFound
  | some entry => .ok entry

def hasEntry (tree : FileTree) (path : Text) : Bool := (tree.find path).toOption.isSome

def isDirectory (tree : FileTree) (path : Text) : Bool :=
  (tree.find path).toOption == some .directory

def read (tree : FileTree) (path : Text) : Except FileFault Text := do
  match ← tree.find path with
  | .directory => .error .isDirectory
  | .file bytes => (Utf8.decode? bytes).elim (.error .invalidText) .ok

/-- Writes a file, which may or may not be there before; its directory must be. -/
def write (tree : FileTree) (path : Text) (bytes : Utf8.Bytes) : Except FileFault FileTree := do
  let place ← tree.placeOf path
  match tree.lookup place with
  | some .directory => .error .isDirectory
  | some (.file _) | none => .ok (tree.put place (.file bytes))

def joinPath (directory name : Text) : Text :=
  if directory = [] ∨ directory.getLast? = some '/' then directory ++ name
  else directory ++ ['/'] ++ name

/-- The paths of all files below the working directory, in code-point order. -/
def files (tree : FileTree) : List Text :=
  let paths := tree.entries.filterMap fun (place, entry) =>
    match entry, List.isPrefixOf? tree.workingDirectory place with
    | .file _, some below => some (Text.join ['/'] below)
    | _, _ => none
  paths.mergeSort fun a b => !decide (b < a)

end FileTree
end HttpContract
