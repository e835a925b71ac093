import HttpContract.Text.Lines
import HttpContract.Variables.Table

/-! Declaration lines `@name = value`, and the scan of a whole text for them. -/
namespace HttpContract

/-- What a scan finds: the declared variables, and the numbers of the lines that start with an at
sign but declare nothing. -/
structure VariableScan where
  table : VariableTable := {}
  malformed : List Nat := []
  deriving DecidableEq, Inhabited

namespace VariableScan

open Unicode

def isDeclarationLine (line : Text) : Bool := Text.startsWith ['@'] (Text.trimStart line)

/-- Reads `@name = value`: the name has word characters only, and the value is what stands behind
the equals sign, trimmed and not empty. -/
def declaration? (line : Text) : Option (Text × Text) :=
  match Text.trimStart line with
  | '@' :: rest =>
    let name := rest.takeWhile isWordChar
    match Text.trimStart (rest.dropWhile isWordChar) with
    | '=' :: behind =>
      let value := Text.trim behind
      if name = [] ∨ value = [] then none else some (name, value)
    | _ => none
  | _ => none

def addLine (scan : VariableScan) (line : Text) (number : Nat) : VariableScan :=
  if isDeclarationLine line then
    match declaration? line with
    | some (name, value) => { scan with table := scan.table.insert name value }
    | none => { scan with malformed := scan.malformed ++ [number] }
  else scan

/-- Scans every line of a text; a later declaration of a name replaces an earlier one. -/
def ofText (text : Text) : VariableScan :=
  (Text.numbered (Text.terminatedLines text)).foldl
    (fun scan (line, number) => scan.addLine line number) {}

end VariableScan
end HttpContract
