import HttpContract.FileTree.Basic

/-! Making directories, together with those on the way. -/
namespace HttpContract
namespace FileTree

/-- Makes the directory that the parts of a path lead to, given from the last part to the first. -/
def makeAt (tree : FileTree) (start : Place) : (partsReversed : List Text) →
    Except FileFault FileTree
  | [] => .error .occupied
  | last :: before => do
    let parent ← tree.walk start (before.reverse ++ [['.']])
    if last = ['.'] ∨ last = ['.', '.'] then .error .occupied
    else if (Utf8.encode last).length > maxName then .error .nameTooLong
    else if (tree.lookup (parent ++ [last])).isSome then .error .occupied
    else .ok (tree.put (parent ++ [last]) .directory)

/-- Whether the parts of a path, given from the last to the first, lead to a directory. -/
def isDirectoryAt (tree : FileTree) (start : Place) (partsReversed : List Text) : Bool :=
  (tree.walk start (partsReversed.reverse ++ [['.']])).toOption.isSome

/-- A part that leads nowhere else. -/
def isStay (part : Text) : Bool := part == ['.']

/-- The parts before the last name, without what stays in place at their end. -/
def parentParts (partsReversed : List Text) : List Text :=
  ((partsReversed.dropWhile isStay).drop 1).dropWhile isStay

theorem length_parentParts_lt (part : Text) (parts : List Text) :
    (parentParts (part :: parts)).length < (part :: parts).length := by
  have outer := (List.dropWhile_suffix isStay
    (l := ((part :: parts).dropWhile isStay).drop 1)).length_le
  have inner := (List.dropWhile_suffix isStay (l := part :: parts)).length_le
  rw [List.length_drop] at outer
  simp only [List.length_cons] at inner
  simp only [parentParts, List.length_cons]
  omega

/-- Makes the directory, and before it those on the way that are missing. What was made stays if a
later one fails. -/
def makeAllAt (tree : FileTree) (start : Place) : (partsReversed : List Text) →
    FileTree × Except FileFault Unit
  | [] => (tree, .ok ())
  | part :: parts =>
    let accept (tree : FileTree) (fault : FileFault) : FileTree × Except FileFault Unit :=
      if tree.isDirectoryAt start (part :: parts) then (tree, .ok ()) else (tree, .error fault)
    match tree.makeAt start (part :: parts) with
    | .ok made => (made, .ok ())
    | .error .notFound =>
      match makeAllAt tree start (parentParts (part :: parts)) with
      | (made, .error fault) => (made, .error fault)
      | (made, .ok ()) =>
        match made.makeAt start (part :: parts) with
        | .ok all => (all, .ok ())
        | .error fault => accept made fault
    | .error fault => accept tree fault
termination_by partsReversed => partsReversed.length
decreasing_by exact length_parentParts_lt part parts

/-- Makes a directory and those on the way. The empty path asks for nothing. -/
def makeAll (tree : FileTree) (path : Text) : FileTree × Except FileFault Unit :=
  if path = [] then (tree, .ok ())
  else match checkPath path with
    | .error fault => (tree, .error fault)
    | .ok () => tree.makeAllAt (tree.startOf path) (partsOf path).reverse

/-- The tree with directories at a place and on the way to it, where nothing stands yet. -/
def withDirectories (tree : FileTree) (place : Place) : FileTree :=
  (List.range (place.length + 1)).foldl (fun tree depth =>
    if (tree.lookup (place.take depth)).isSome then tree
    else tree.put (place.take depth) .directory) tree

def ofEntries (workingDirectory : Place) (entries : List (Text × FileEntry)) : FileTree :=
  entries.foldl (fun tree (path, entry) =>
    let place := workingDirectory ++ partsOf path
    match entry with
    | .directory => tree.withDirectories place
    | .file _ => (tree.withDirectories place.dropLast).put place entry)
    (withDirectories { workingDirectory } workingDirectory)

end FileTree
end HttpContract
