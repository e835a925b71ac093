import HttpContract.Toml.Value

/-! Building the table of a TOML document from its lines. No entry is defined twice, and a table
takes further entries only as long as nothing has closed it. -/
namespace HttpContract

inductive TomlLine where
  | entry (path : List Text) (value : Toml)
  | header (path : List Text)
  | itemHeader (path : List Text)

/-- How a table came about: by a header or braces, on the way to a header's table, or by a key
with points. -/
inductive TableOrigin where
  | explicit | implied | dotted
  deriving DecidableEq, Inhabited

/-- A part of a document that may still grow: a value does not, a table may, and the last item of
an array of tables may. -/
inductive TomlNode where
  | value (value : Toml)
  | table (origin : TableOrigin) (entries : List (Text × TomlNode))
  | items (items : List (List (Text × TomlNode)))
  deriving Inhabited

namespace Toml

abbrev Nodes := List (Text × TomlNode)

def replaceNode (key : Text) (node : TomlNode) : Nodes → Nodes
  | [] => []
  | (other, kept) :: rest =>
    if key = other then (other, node) :: rest else (other, kept) :: replaceNode key node rest

/-- Follows a path into tables and changes the entries at its end; tables that are missing on the
way are made. A key with points does not enter a table that a header or braces have closed. -/
def changeAt (byKey : Bool) (change : TableOrigin → Nodes → Option Nodes) :
    List Text → TableOrigin → Nodes → Option Nodes
  | [], origin, nodes => change origin nodes
  | key :: path, _, nodes =>
    match nodes.lookup key with
    | none => do
      let origin : TableOrigin := if byKey then .dotted else .implied
      let below ← changeAt byKey change path origin []
      some (nodes ++ [(key, .table origin below)])
    | some (.value _) => none
    | some (.table origin below) =>
      if byKey ∧ origin = .explicit then none
      else do
        let below ← changeAt byKey change path origin below
        some (replaceNode key (.table origin below) nodes)
    | some (.items items) => do
      let below ← changeAt byKey change path .explicit (← items.getLast?)
      some (replaceNode key (.items (items.dropLast ++ [below])) nodes)

/-- Adds an entry that is not there yet. A key with points ends in a table of such keys, any other
key in the table at hand. -/
def addEntry (path : List Text) (value : Toml) (origin : TableOrigin) (nodes : Nodes) :
    Option Nodes := do
  let key ← path.getLast?
  changeAt true (fun origin nodes =>
    if (origin == .dotted) == (path.length == 1) then none
    else if (nodes.lookup key).isSome then none
    else some (nodes ++ [(key, .value value)])) path.dropLast origin nodes

/-- Opens the table of a header, at the end of the entries around it. It may have been implied
before. -/
def openTable (key : Text) (nodes : Nodes) : Option Nodes :=
  match nodes.lookup key with
  | none => some (nodes ++ [(key, .table .explicit [])])
  | some (.table .implied below) =>
    some (nodes.filter (fun (other, _) => other != key) ++ [(key, .table .explicit below)])
  | some _ => none

def openItem (key : Text) (nodes : Nodes) : Option Nodes :=
  match nodes.lookup key with
  | none => some (nodes ++ [(key, .items [[]])])
  | some (.items items) => some (replaceNode key (.items (items ++ [[]])) nodes)
  | some _ => none

/-- What the lines so far have built, and the path of the table that is open. -/
structure Assembly where
  nodes : Nodes := []
  opened : List Text := []

def Assembly.addLine (assembly : Assembly) : TomlLine → Option Assembly
  | .entry path value => do
    let nodes ← changeAt false (addEntry path value) assembly.opened .explicit assembly.nodes
    some { assembly with nodes }
  | .header path => do
    let key ← path.getLast?
    let nodes ← changeAt false (fun _ => openTable key) path.dropLast .explicit assembly.nodes
    some { nodes, opened := path }
  | .itemHeader path => do
    let key ← path.getLast?
    let nodes ← changeAt false (fun _ => openItem key) path.dropLast .explicit assembly.nodes
    some { nodes, opened := path }

mutual

def nodeValue : TomlNode → Toml
  | .value value => value
  | .table _ entries => .table (nodeEntries entries)
  | .items items => .tables (nodeTables items)

def nodeEntries : List (Text × TomlNode) → List (Text × Toml)
  | [] => []
  | (key, node) :: rest => (key, nodeValue node) :: nodeEntries rest

def nodeTables : List (List (Text × TomlNode)) → List (List (Text × Toml))
  | [] => []
  | entries :: rest => nodeEntries entries :: nodeTables rest

end

/-- The entries of a document; none if a line does not fit to those before it. -/
def tableOfLines? (lines : List TomlLine) : Option (List (Text × Toml)) :=
  (lines.foldlM Assembly.addLine {}).map fun assembly => nodeEntries assembly.nodes

def inlineEntries? (entries : List (List Text × Toml)) : Option (List (Text × Toml)) :=
  (entries.foldlM (fun nodes (path, value) => addEntry path value .explicit nodes) []).map
    nodeEntries

end Toml
end HttpContract
