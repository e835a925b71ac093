import HttpContract.Definitions.Reading
import HttpContract.FileTree.Basic
import HttpContract.Variables.Declaration

/-! Request-definition documents: the variables, test cases and warnings of a whole text
or of a file. -/
namespace HttpContract

structure Document where
  table : VariableTable
  cases : List TestCase
  warnings : List Warning
  deriving DecidableEq, Inhabited

namespace Document

/-- Reads a text. Nothing is refused: what cannot be used comes back as a warning, those of the
declarations first and then those of the blocks in order. -/
def ofText (protectedHeads : List Text) (text : Text) : Document :=
  let scan := VariableScan.ofText text
  let readings := (Block.ofText protectedHeads text).map fun block => block.testCase? scan.table
  { table := scan.table
    cases := readings.filterMap Prod.fst
    warnings := scan.malformed.map .malformedVariable ++ readings.flatMap Prod.snd }

def load (tree : FileTree) (protectedHeads : List Text) (path : Text) : Except RunError Document :=
  match tree.read path with
  | .ok text => .ok (ofText protectedHeads text)
  | .error .notFound => .error (.inputNotFound path)
  | .error fault => .error (.unreadableInput path fault)

end Document
end HttpContract
