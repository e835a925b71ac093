import HttpContract.Toml.Assembly
import HttpContract.Toml.Datetime
import HttpContract.Toml.Number

/-! Reading TOML documents: values, then lines, then the table that the lines build. -/
namespace HttpContract
namespace Toml

/-! Values. -/

/-- A date, a float or an integer, whichever is the first that it can be. -/
def number : Scan Toml := fun text =>
  (scanDatetime text).orElse fun _ => (scanFloat text).orElse fun _ => scanInteger text

def itemStep (value : Scan Toml) (text : Text) : Option (ScanStep Toml) :=
  let text := skipLines text
  match mark? ']' text with
  | some rest => some ⟨[], true, rest⟩
  | none => do
    let (item, rest) ← value text
    let rest := skipLines rest
    match mark? ',' rest with
    | some rest => some ⟨[item], false, rest⟩
    | none => (mark? ']' rest).map fun rest => ⟨[item], true, rest⟩

def keyValue (value : Scan Toml) : Scan (List Text × Toml) := fun text => do
  let (path, rest) ← key text
  let (item, rest) ← value (skipBlanks (← mark? '=' rest))
  some ((path, item), rest)

def entryStep (value : Scan Toml) (text : Text) : Option (ScanStep (List Text × Toml)) := do
  let (entry, rest) ← keyValue value text
  let rest := skipBlanks rest
  match mark? ',' rest with
  | some rest => some ⟨[entry], false, rest⟩
  | none => (mark? '\x7d' rest).map fun rest => ⟨[entry], true, rest⟩

def arrayBody (value : Scan Toml) : Scan Toml := fun text =>
  (scanAll (itemStep value) text).map fun (items, rest) => (.array items, rest)

def inlineBody (value : Scan Toml) : Scan Toml := fun text =>
  let text := skipBlanks text
  match mark? '\x7d' text with
  | some rest => some (.table [], rest)
  | none => do
    let (entries, rest) ← scanAll (entryStep value) text
    some (.table (← inlineEntries? entries), rest)

/-- A value at its first character. `nested?` reads what stands inside arrays and tables, unless
the value lies too deep to have anything inside. -/
def valueAt (nested? : Option (Scan Toml)) : Scan Toml := fun text =>
  match text with
  | [] => none
  | c :: rest =>
    let word (letters : Text) (meant : Toml) : Option (Toml × Text) :=
      (Text.strip? letters text).map fun rest => (meant, rest)
    if c = '"' ∨ c = '\'' then (quotedValue c text).map fun (value, rest) => (.string value, rest)
    else if c = '[' then nested?.bind fun value => arrayBody value rest
    else if c = '\x7b' then nested?.bind fun value => inlineBody value rest
    else if c = 't' then word "true" (.boolean true)
    else if c = 'f' then word "false" (.boolean false)
    else if c = 'i' ∨ c = 'n' then specialFloat text
    else number text

/-- A value whose arrays and tables nest at most `depth` deep. -/
def value : (depth : Nat) → Scan Toml
  | 0 => valueAt none
  | depth + 1 => valueAt (some (value depth))

/-! Lines. -/

def header : Scan TomlLine := fun text => do
  match Text.strip? "[[" text with
  | some rest =>
    let (path, rest) ← key rest
    some (.itemHeader path, ← Text.strip? "]]" rest)
  | none =>
    let (path, rest) ← key (← mark? '[' text)
    some (.header path, ← mark? ']' rest)

def lineStep (text : Text) : Option (ScanStep TomlLine) :=
  let text := skipBlanks text
  match text with
  | [] => some ⟨[], true, []⟩
  | c :: _ =>
    if c = '#' ∨ c = '\n' ∨ c = '\r' then (lineEnd? text).map fun rest => ⟨[], false, rest⟩
    else do
      let (line, rest) ←
        if c = '[' then header text
        else (keyValue (value maxDepth) text).map fun ((path, item), rest) =>
          (.entry path item, rest)
      some ⟨[line], false, ← lineEnd? rest⟩

/-- Reads a document; none if it is not well-formed. A byte-order mark before it is ignored. -/
def parse? (text : Text) : Option (List (Text × Toml)) := do
  let (lines, _) ← scanAll lineStep ((mark? '\ufeff' text).getD text)
  tableOfLines? lines

end Toml
end HttpContract
