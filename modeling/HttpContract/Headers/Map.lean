import HttpContract.Text.Basic

/-! The header fields of a request on the wire: several values per lower-case name, the values of
one name in the order in which they were added. -/
namespace HttpContract

structure HeaderMap where
  fields : List (Text × Text) := []
  deriving DecidableEq, Inhabited

namespace HeaderMap

def empty : HeaderMap := {}

def append (map : HeaderMap) (name value : Text) : HeaderMap :=
  ⟨map.fields ++ [(Text.lowerAscii name, value)]⟩

def insert (map : HeaderMap) (name value : Text) : HeaderMap :=
  let key := Text.lowerAscii name
  ⟨(map.fields.filter fun field => field.1 != key) ++ [(key, value)]⟩

def without (map : HeaderMap) (names : List Text) : HeaderMap :=
  ⟨map.fields.filter fun field => !names.contains field.1⟩

/-- The values of a name, given in any spelling. -/
def values (map : HeaderMap) (name : Text) : List Text :=
  (map.fields.filter fun field => field.1 == Text.lowerAscii name).map Prod.snd

def merge (map other : HeaderMap) : HeaderMap := ⟨map.fields ++ other.fields⟩

def sorted (map : HeaderMap) : List (Text × Text) :=
  map.fields.mergeSort fun a b => !decide (b.1 < a.1)

end HeaderMap
end HttpContract
