import HttpContract.Definitions.Block
import HttpContract.TestCase
import HttpContract.Unicode.LowerCase

/-! Names of test cases, and the status that a name promises. -/
namespace HttpContract
namespace Naming

open Unicode

/-- Names that contain one of the needles promise the status. -/
structure StatusRule where
  needles : List Text
  status : StatusCode
  deriving DecidableEq, Inhabited

def statusRules : List StatusRule :=
  [⟨["invalid", "400"], 400⟩, ⟨["not found", "404"], 404⟩, ⟨["unauthorized", "401"], 401⟩]

/-- The codes that a name promises: those of the first rule that its lower-case form meets. -/
def inferStatus (name : Text) : List StatusCode :=
  let lowered := lower name
  let rule := statusRules.find? fun rule => rule.needles.any fun needle =>
    Text.contains needle lowered
  [(rule.map StatusRule.status).getD TestCase.defaultStatus]

/-- Keeps letters, numbers and underscores, turns hyphens and blanks into underscores, and drops
everything else. -/
def sanitize (name : Text) : Text :=
  (name.filter fun c => isAlphanumeric c || c == '_' || c == '-' || isBlank c).map
    fun c => if c == '-' || isBlank c then '_' else c

/-- The name of a case without a heading, made from its request. -/
def synthesize (method : Method) (path : Text) : Text :=
  let plainPath := path.takeWhile fun c => c != '?'
  method.text ++ "_" ++ plainPath.map (fun c => if c = '/' then '_' else c) ++
    "_Should_Return_SuccessStatusCode"

/-- The name in a heading; a heading without one names nothing. -/
def ofHeading? (heading : Text) : Option Text := do
  let rest ← Text.strip? Block.mark (Text.trim heading)
  let name := Text.trim rest
  if name.isEmpty then none else some name

end Naming
end HttpContract
