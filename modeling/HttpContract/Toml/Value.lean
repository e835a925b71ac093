import HttpContract.Number.Shortest

/-! TOML values. A table keeps its entries in the order in which they came. -/
namespace HttpContract

/-- A number of the 64-bit binary format with its sign, or one of its special values. -/
inductive TomlFloat where
  | finite (negative : Bool) (magnitude : Binary64)
  | infinite (negative : Bool)
  | nan
  deriving DecidableEq, Inhabited

/-- Dates and times keep the text they are written with. Tables that headers list under one key are
not the same as an array of tables in brackets. -/
inductive Toml where
  | string (value : Text)
  | integer (value : Int)
  | float (value : TomlFloat)
  | boolean (value : Bool)
  | datetime (lexeme : Text)
  | array (items : List Toml)
  | table (entries : List (Text × Toml))
  | tables (items : List (List (Text × Toml)))
  deriving Inhabited

namespace Toml

def items? : Toml → Option (List Toml)
  | array items => some items
  | tables items => some (items.map table)
  | _ => none

mutual

def same : Toml → Toml → Bool
  | string a, string b => a == b
  | integer a, integer b => a == b
  | float a, float b => a == b
  | boolean a, boolean b => a == b
  | datetime a, datetime b => a == b
  | array as, array bs => sameItems as bs
  | table as, table bs => sameEntries as bs
  | tables as, tables bs => sameTables as bs
  | _, _ => false

def sameItems : List Toml → List Toml → Bool
  | [], [] => true
  | a :: as, b :: bs => same a b && sameItems as bs
  | [], _ :: _ | _ :: _, [] => false

def sameEntries : List (Text × Toml) → List (Text × Toml) → Bool
  | [], [] => true
  | (key, a) :: as, (key', b) :: bs => key == key' && same a b && sameEntries as bs
  | [], _ :: _ | _ :: _, [] => false

def sameTables : List (List (Text × Toml)) → List (List (Text × Toml)) → Bool
  | [], [] => true
  | a :: as, b :: bs => sameEntries a b && sameTables as bs
  | [], _ :: _ | _ :: _, [] => false

end

mutual

@[simp] theorem same_iff : ∀ a b : Toml, same a b = true ↔ a = b
  | string _, b => by cases b <;> simp [same]
  | integer _, b => by cases b <;> simp [same]
  | float _, b => by cases b <;> simp [same]
  | boolean _, b => by cases b <;> simp [same]
  | datetime _, b => by cases b <;> simp [same]
  | array as, b => by cases b <;> simp [same, sameItems_iff as]
  | table as, b => by cases b <;> simp [same, sameEntries_iff as]
  | tables as, b => by cases b <;> simp [same, sameTables_iff as]
termination_by structural a => a

@[simp] theorem sameItems_iff : ∀ as bs : List Toml, sameItems as bs = true ↔ as = bs
  | [], bs => by cases bs <;> simp [sameItems]
  | a :: as, bs => by cases bs <;> simp [sameItems, same_iff a, sameItems_iff as]
termination_by structural as => as

@[simp] theorem sameEntries_iff : ∀ as bs : List (Text × Toml), sameEntries as bs = true ↔ as = bs
  | [], bs => by cases bs <;> simp [sameEntries]
  | _ :: _, [] => by simp [sameEntries]
  | (_, a) :: as, (_, b) :: bs => by simp [sameEntries, same_iff a, sameEntries_iff as]
termination_by structural as => as

@[simp]
theorem sameTables_iff : ∀ as bs : List (List (Text × Toml)), sameTables as bs = true ↔ as = bs
  | [], bs => by cases bs <;> simp [sameTables]
  | a :: as, bs => by cases bs <;> simp [sameTables, sameEntries_iff a, sameTables_iff as]
termination_by structural as => as

end

instance : DecidableEq Toml := fun a b => decidable_of_iff _ (same_iff a b)

end Toml

namespace TomlFloat

/-- The value nearest to `digits * 10 ^ exponent`. Far beyond the range there is nothing to
compute. -/
def ofDecimal (negative : Bool) (digits : Nat) (exponent : Int) : TomlFloat :=
  let top := ((Text.decimal digits).length : Int) + exponent
  if digits = 0 ∨ top < -400 then finite negative ⟨0, 0⟩
  else if top > 400 then infinite negative
  else
    let magnitude := Binary64.ofDecimal digits exponent
    if magnitude.isFinite then finite negative magnitude else infinite negative

/-- The shortest digits that read back, never with an exponent and always with a point. -/
def text : TomlFloat → Text
  | finite negative magnitude =>
    let digits := magnitude.shortest.positional
    (if negative then ['-'] else []) ++ digits ++ (if '.' ∈ digits then [] else ['.', '0'])
  | infinite negative => if negative then "-inf" else "inf"
  | nan => "NaN"

end TomlFloat
end HttpContract
