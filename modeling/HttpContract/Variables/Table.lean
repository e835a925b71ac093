import HttpContract.Text.Basic

/-! Declared variables: one value per name, listed in the order of the names. -/
namespace HttpContract

/-- Names with their values, in increasing code-point order of the names. -/
structure VariableTable where
  entries : List (Text × Text) := []
  deriving DecidableEq, Inhabited

namespace VariableTable

def put (name value : Text) : List (Text × Text) → List (Text × Text)
  | [] => [(name, value)]
  | (other, kept) :: rest =>
    if name = other then (name, value) :: rest
    else if name < other then (name, value) :: (other, kept) :: rest
    else (other, kept) :: put name value rest

def empty : VariableTable := {}

def insert (table : VariableTable) (name value : Text) : VariableTable :=
  ⟨put name value table.entries⟩

def get? (table : VariableTable) (name : Text) : Option Text :=
  table.entries.lookup name

def size (table : VariableTable) : Nat := table.entries.length

def isEmpty (table : VariableTable) : Bool := table.entries.isEmpty

def insertAll (table : VariableTable) (pairs : List (Text × Text)) : VariableTable :=
  pairs.foldl (fun table (name, value) => table.insert name value) table

def ofList (pairs : List (Text × Text)) : VariableTable := empty.insertAll pairs

end VariableTable
end HttpContract
