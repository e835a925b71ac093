import HttpContract.Text.Quoted
import HttpContract.Toml.Value

/-! Taking typed values out of TOML. The first value that does not fit ends the reading. -/
namespace HttpContract

inductive ShapeFault where
  | wrongType (found : Toml) (expected : Text)
  | negative (found : Int) (expected : Text)
  | unknownField (name : Text) (known : List Text)
  | unknownVariant (name : Text) (known : List Text)
  | noVariant
  | severalVariants
  | notVariant
  | variantWithEntries
  | variantWithTables
  | variantWithValue (found : Toml)
  deriving Inhabited

namespace ShapeFault

/-- The kind of a value, and the value itself if it is a simple one. -/
def describe : Toml → Text
  | .string value => "string " ++ Text.quoted value
  | .integer value => "integer " ++ Text.ticked (Text.decimalInt value)
  | .float value => "floating point " ++ Text.ticked value.text
  | .boolean value => "boolean " ++ Text.ticked (if value then "true" else "false")
  | .array _ | .tables _ => "sequence"
  | .datetime _ | .table _ => "map"

def kindOf : Toml → Text
  | .string _ => "string"
  | .integer _ => "integer"
  | .float _ => "float"
  | .boolean _ => "boolean"
  | .datetime _ => "datetime"
  | .array _ => "array"
  | .table _ => "table"
  | .tables _ => "array of tables"

def choice (known : List Text) : Text :=
  match known.map Text.ticked with
  | [a] => a
  | [a, b] => a ++ " or " ++ b
  | names => "one of " ++ Text.join ", " names

def message : ShapeFault → Text
  | wrongType found expected => "invalid type: " ++ describe found ++ ", expected " ++ expected
  | negative found expected =>
    "invalid value: integer " ++ Text.ticked (Text.decimalInt found) ++ ", expected " ++ expected
  | unknownField name known =>
    "unknown field " ++ Text.ticked name ++ ", expected " ++ choice known
  | unknownVariant name known =>
    "unknown variant " ++ Text.ticked name ++ ", expected " ++ choice known
  | noVariant => "wanted exactly 1 element, found 0 elements"
  | severalVariants => "wanted exactly 1 element, more than 1 element"
  | notVariant => "wanted string or table"
  | variantWithEntries => "expected empty table"
  | variantWithTables => "expected empty array"
  | variantWithValue found => "expected table, found " ++ kindOf found

end ShapeFault

namespace Shape

abbrev Reader (α : Type) := Toml → Except ShapeFault α

def text (expected : Text) : Reader Text
  | .string value => .ok value
  | other => .error (.wrongType other expected)

def natural (expected : Text) : Reader Nat
  | .integer value => if value < 0 then .error (.negative value expected) else .ok value.toNat
  | other => .error (.wrongType other expected)

def list {α : Type} (item : Reader α) : Reader (List α) := fun value =>
  match value.items? with
  | some items => items.mapM item
  | none => .error (.wrongType value "a sequence")

/-- A variant carries nothing; an empty array or table may stand for nothing. -/
def nothing : Reader Unit
  | .tables items => if items.isEmpty then .ok () else .error .variantWithTables
  | .array items => if items.isEmpty then .ok () else .error .variantWithEntries
  | .table entries => if entries.isEmpty then .ok () else .error .variantWithEntries
  | other => .error (.variantWithValue other)

/-- One of several named values: its name, or a table with its name as the only key. -/
def variant {α : Type} (known : List (Text × α)) : Reader α
  | .string name => named name
  | .table [] => .error .noVariant
  | .table [(name, value)] => do
    let found ← named name
    nothing value
    return found
  | .table _ => .error .severalVariants
  | _ => .error .notVariant
where
  named (name : Text) : Except ShapeFault α :=
    match known.lookup name with
    | some found => .ok found
    | none => .error (.unknownVariant name (known.map Prod.fst))

/-- A field of a record: its name, and what its value changes in the record. -/
structure RecordField (σ : Type) where
  name : Text
  set : Toml → σ → Except ShapeFault σ

def fieldOf {σ α : Type} (name : Text) (reader : Reader α) (set : α → σ → σ) : RecordField σ :=
  ⟨name, fun value record => (reader value).map fun value => set value record⟩

def entries {σ : Type} (fields : List (RecordField σ)) (defaults : σ)
    (given : List (Text × Toml)) : Except ShapeFault σ :=
  given.foldlM (fun record (name, value) =>
    match fields.find? fun field => field.name == name with
    | some field => field.set value record
    | none => .error (.unknownField name (fields.map RecordField.name))) defaults

/-- The key under which a date is kept where a record is expected. -/
def datetimeKey : Text := "$__toml_private_datetime"

/-- A record: a table of its fields, or an array of their values. -/
def record {σ : Type} (name : Text) (fields : List (RecordField σ)) (defaults : σ) : Reader σ
  | .table given => entries fields defaults given
  | .datetime _ => .error (.unknownField datetimeKey (fields.map RecordField.name))
  | value => match value.items? with
    | some items =>
      (fields.zip items).foldlM (fun record (field, value) => field.set value record) defaults
    | none => .error (.wrongType value ("struct " ++ name))

end Shape
end HttpContract
