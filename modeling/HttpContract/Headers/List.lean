import HttpContract.Text.Basic

/-! Headers as they are written in a request definition: ordered, one value per name, names equal
up to the case of ASCII letters. -/
namespace HttpContract

/-- Names as first spelled, with their values, in the order of first insertion. -/
structure HeaderList where
  entries : List (Text × Text) := []
  deriving DecidableEq, Inhabited

namespace HeaderList

def put (name value : Text) : List (Text × Text) → List (Text × Text)
  | [] => [(name, value)]
  | (other, kept) :: rest =>
    if Text.sameAscii other name then (other, value) :: rest
    else (other, kept) :: put name value rest

def empty : HeaderList := {}

/-- Replaces the value of a known name, which keeps its spelling and its place, or adds the
header at the end. -/
def insert (headers : HeaderList) (name value : Text) : HeaderList :=
  ⟨put name value headers.entries⟩

def get? (headers : HeaderList) (name : Text) : Option Text :=
  (headers.entries.find? fun entry => Text.sameAscii entry.1 name).map Prod.snd

def size (headers : HeaderList) : Nat := headers.entries.length

def isEmpty (headers : HeaderList) : Bool := headers.entries.isEmpty

def insertAll (headers : HeaderList) (pairs : List (Text × Text)) : HeaderList :=
  pairs.foldl (fun headers (name, value) => headers.insert name value) headers

def ofList (pairs : List (Text × Text)) : HeaderList := empty.insertAll pairs

end HeaderList
end HttpContract
