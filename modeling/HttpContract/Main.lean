import HttpContract.Program
import Std.Time.DateTime.Timestamp

/-! The program as it is started: it looks at the files that a run may need, runs it, prints, and
stores the files that the run has left. There is no network here, so that no request arrives. -/
namespace HttpContract
namespace Launch

/-- The places that a path leads through, the last one first. -/
def placesOf (start : Place) (parts : List Text) : List Place :=
  parts.foldl (fun places part =>
    let here := places.headD []
    if part = ['.'] then places
    else if part = ['.', '.'] then here.dropLast :: places
    else (here ++ [part]) :: places) [start]

def systemPath (place : Place) : String := String.ofList (['/'] ++ Text.join ['/'] place)

def look (place : Place) : IO (Option FileEntry) := do
  try
    return some (.file (← IO.FS.readBinFile (systemPath place)).toList)
  catch error =>
    match error with
    | .inappropriateType .. => return some .directory
    | _ => return none

def lookAt (tree : FileTree) (path : Text) : IO FileTree := do
  let places := placesOf (tree.startOf path) (FileTree.partsOf path)
  places.foldlM (fun tree place => do
    match ← look place with
    | some entry => return tree.put place entry
    | none => return tree) tree

/-- The files that a run with the given flags may read or write. -/
def surroundingFiles (flags : Flags) : IO FileTree := do
  let current := (toString (← IO.currentDir)).toList
  let start : FileTree := FileTree.ofEntries (FileTree.partsOf current) []
  let tree ← lookAt start (flags.config.getD Config.defaultFile)
  match Program.configure flags tree with
  | .error _ => return tree
  | .ok config =>
    let reports := config.formats.map (ReportFiles.pathOf config.outputDir)
    (config.httpFile :: config.outputDir :: reports).foldlM lookAt tree

def store (old new : FileTree) : IO Unit := do
  for (place, entry) in new.entries do
    if old.lookup place ≠ some entry then
      match entry with
      | .directory => IO.FS.createDirAll (systemPath place)
      | .file bytes => IO.FS.writeBinFile (systemPath place) ⟨bytes.toArray⟩

def now : IO Timestamp := do
  let nanos := (← Std.Time.Timestamp.now).toNanosecondsSinceUnixEpoch.val
  return { unix := nanos / 1000000000, nanos := (nanos % 1000000000).toNat }

def environment (name : String) : IO (Option Text) :=
  return (← IO.getEnv name).map String.toList

def surroundings (flags : Flags) : IO Surroundings := do
  let now ← now
  return {
    tree := ← surroundingFiles flags
    network := { isUp := false, server := fun _ => .refuse }
    timing := fun _ => { startedAt := now }
    now
    color := TextStyle.isWanted (← environment "CLICOLOR_FORCE") (← environment "CLICOLOR")
      (← environment "NO_COLOR") (← (← IO.getStdout).isTty) }

end Launch
end HttpContract

open HttpContract in
def main (arguments : List String) : IO UInt32 := do
  let _ : DomainNames := .asciiOnly
  let words := arguments.map String.toList
  let flags := (CommandLine.parse words).toOption.getD {}
  let world ← Launch.surroundings flags
  let printed := Program.main world words
  Launch.store world.tree printed.tree
  (← IO.getStdout).putStr (String.ofList printed.output)
  (← IO.getStderr).putStr (String.ofList (printed.complaint.getD []))
  return printed.exitCode.toUInt32
