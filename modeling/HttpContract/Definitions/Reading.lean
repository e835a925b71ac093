import HttpContract.RunError
import HttpContract.Definitions.Naming
import HttpContract.Definitions.RequestLine
import HttpContract.Definitions.Warning
import HttpContract.Variables.Reference

/-! Reading one block: request line, headers and body, line by line. -/
namespace HttpContract

namespace Block

def firstLine (block : Block) : Nat := block.line + if block.heading.isSome then 1 else 0

end Block

/-- What the lines read so far have given. The body is open as soon as it has a line. -/
structure BlockReading where
  request : Option RequestLine := none
  headers : HeaderList := {}
  body : List Text := []
  extra : List Nat := []
  deriving DecidableEq, Inhabited

namespace BlockReading

/-- Takes one numbered line into account. The first request line counts, later ones are noted; a
line that starts with a brace opens the body, which runs to the end of the block; a line with a
colon behind the request line is a header; everything else is ignored. -/
def addLine (reading : BlockReading) (line : Text) (number : Nat) : BlockReading :=
  let trimmed := Text.trim line
  if !reading.body.isEmpty then { reading with body := reading.body ++ [line] }
  else match RequestLine.ofText? trimmed with
    | some request =>
      if reading.request.isSome then { reading with extra := reading.extra ++ [number] }
      else { reading with request := some request }
    | none =>
      if Text.startsWith ['\x7b'] trimmed then { reading with body := [line] }
      else if reading.request.isNone then reading
      else match Text.splitFirst? ':' trimmed with
        | none => reading
        | some (key, value) =>
          let name := Text.trim key
          if name.isEmpty then reading
          else { reading with headers := reading.headers.insert name (Text.trim value) }

def ofBlock (block : Block) : BlockReading :=
  (block.lines.zipIdx block.firstLine).foldl
    (fun reading (line, number) => reading.addLine line number) {}

end BlockReading

namespace Block

/-- The test case of a block, and what is worth a warning. A block without a request target gives
no case. Variables are replaced in the target only. -/
def testCase? (block : Block) (table : VariableTable) : Option TestCase × List Warning :=
  let reading := BlockReading.ofBlock block
  let extra := reading.extra.map Warning.extraRequestLine
  match reading.request.filter fun request => !request.target.isEmpty with
  | none => (none, extra ++ [.unusableBlock block.line])
  | some request =>
    let heading := block.heading.bind Naming.ofHeading?
    let expected := (heading.map Naming.inferStatus).getD [TestCase.defaultStatus]
    let path := table.interpolate request.target
    let name :=
      Naming.sanitize (heading.getD (Naming.synthesize request.method path.text))
    let test := (TestCase.new name request.method path.text).withExpected expected
    let body :=
      if reading.body.isEmpty then none else some (Text.join ['\n'] reading.body)
    (some { test with headers := reading.headers, body },
      extra ++ path.unresolved.map fun missing => .unresolvedVariable missing name)

def maxLine : Nat := 18446744073709551615

/-- Reads a block that may stand anywhere. Nothing can be said of a line behind the greatest number;
no document is that long. -/
def read (block : Block) (table : VariableTable) : Except Crash (Option TestCase × List Warning) :=
  if block.firstLine > maxLine ∨ (BlockReading.ofBlock block).extra.any (· > maxLine) then
    .error .linesOverflow
  else .ok (block.testCase? table)

end Block
end HttpContract
