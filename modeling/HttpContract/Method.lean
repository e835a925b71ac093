import HttpContract.Text.Basic

/-! The verbs of a request line. -/
namespace HttpContract

inductive Method where
  | get | post | put | delete | patch
  deriving DecidableEq, Inhabited, Repr

namespace Method

def all : List Method := [get, post, put, delete, patch]

def text : Method → Text
  | get => "GET"
  | post => "POST"
  | put => "PUT"
  | delete => "DELETE"
  | patch => "PATCH"

/-- Only the upper-case spelling is a verb. -/
def ofText? (spelling : Text) : Option Method := all.find? fun method => method.text == spelling

def unsupportedMessage (spelling : Text) : Text :=
  "Unsupported HTTP method `" ++ spelling ++ "`"

end Method
end HttpContract
