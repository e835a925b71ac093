import HttpContract.Text.Decimal

/-! JSON values, and the quoting of text in a JSON document. -/
namespace HttpContract

/-- A JSON value; numbers keep the text they are written with. -/
inductive Json where
  | null
  | bool (value : Bool)
  | number (lexeme : Text)
  | string (value : Text)
  | array (items : List Json)
  | object (members : List (Text × Json))
  deriving Inhabited

namespace Json

mutual

def same : Json → Json → Bool
  | null, null => true
  | bool a, bool b => a == b
  | number a, number b => a == b
  | string a, string b => a == b
  | array as, array bs => sameItems as bs
  | object as, object bs => sameMembers as bs
  | _, _ => false

def sameItems : List Json → List Json → Bool
  | [], [] => true
  | a :: as, b :: bs => same a b && sameItems as bs
  | [], _ :: _ | _ :: _, [] => false

def sameMembers : List (Text × Json) → List (Text × Json) → Bool
  | [], [] => true
  | (name, a) :: as, (name', b) :: bs => name == name' && same a b && sameMembers as bs
  | [], _ :: _ | _ :: _, [] => false

end

mutual

@[simp] theorem same_iff : ∀ a b : Json, same a b = true ↔ a = b
  | null, b => by cases b <;> simp [same]
  | bool _, b => by cases b <;> simp [same]
  | number _, b => by cases b <;> simp [same]
  | string _, b => by cases b <;> simp [same]
  | array as, b => by cases b <;> simp [same, sameItems_iff as]
  | object as, b => by cases b <;> simp [same, sameMembers_iff as]
termination_by structural a => a

@[simp] theorem sameItems_iff : ∀ as bs : List Json, sameItems as bs = true ↔ as = bs
  | [], bs => by cases bs <;> simp [sameItems]
  | a :: as, bs => by cases bs <;> simp [sameItems, same_iff a, sameItems_iff as]
termination_by structural as => as

@[simp] theorem sameMembers_iff : ∀ as bs : List (Text × Json), sameMembers as bs = true ↔ as = bs
  | [], bs => by cases bs <;> simp [sameMembers]
  | _ :: _, [] => by simp [sameMembers]
  | (_, a) :: as, (_, b) :: bs => by simp [sameMembers, same_iff a, sameMembers_iff as]
termination_by structural as => as

end

instance : DecidableEq Json := fun a b => decidable_of_iff _ (same_iff a b)

def quoteChar (c : Char) : Text :=
  if c = '"' then "\\\""
  else if c = '\\' then "\\\\"
  else if c = '\x08' then "\\b"
  else if c = '\x0c' then "\\f"
  else if c = '\n' then "\\n"
  else if c = '\r' then "\\r"
  else if c = '\t' then "\\t"
  else if c.toNat < 0x20 then "\\u00" ++ Text.hexByte c.toNat
  else [c]

def quote (text : Text) : Text := ['"'] ++ text.flatMap quoteChar ++ ['"']

end Json
end HttpContract
