import HttpContract.Headers.List
import HttpContract.Headers.Map

/-! How written headers are attached to a request. Headers that describe the payload need a body;
the content type is implied by the body and never taken from the list. -/
namespace HttpContract

inductive DropReason where
  | invalidName (name : Text)
  | invalidValue (name : Text)
  | needsBody (name : Text)
  deriving DecidableEq, Inhabited

def DropReason.message : DropReason → Text
  | .invalidName name => "Invalid header name `" ++ name ++ "`: invalid HTTP header name"
  | .invalidValue name =>
    "Invalid header value for `" ++ name ++ "`: failed to parse header value"
  | .needsBody name => "Content header `" ++ name ++ "` requires a request body"

inductive Attachment where
  | request
  | content
  | skipped
  | dropped (reason : DropReason)
  deriving DecidableEq, Inhabited

/-- Header fields in two slots: those of the request and those of its payload. -/
structure AttachedHeaders where
  request : HeaderMap := {}
  content : HeaderMap := {}
  deriving DecidableEq, Inhabited

namespace AttachedHeaders

def contentNames : List Text :=
  ["allow", "content-disposition", "content-encoding", "content-language", "content-length",
    "content-location", "content-md5", "content-range", "expires", "last-modified"]

def isContentName (name : Text) : Bool :=
  contentNames.any fun candidate => Text.sameAscii candidate name

def impliedName : Text := "content-type"

/-- A character of a field name: an ASCII letter or digit, or one of fifteen marks. -/
def isTokenChar (c : Char) : Bool :=
  c.isAlphanum || c ∈ ['!', '#', '$', '%', '&', '\'', '*', '+', '-', '.', '^', '_', '`', '|', '~']

/-- A field name has between 1 and 65535 token characters. -/
def isValidName (name : Text) : Bool :=
  !name.isEmpty && name.length ≤ 65535 && name.all isTokenChar

/-- A field value has no control characters except tabs. -/
def isValidValue (value : Text) : Bool :=
  value.all fun c => c == '\t' || (32 ≤ c.toNat && c.toNat != 127)

/-- What becomes of a header, which depends on nothing but the header and the body flag. -/
def outcome (name value : Text) (hasBody : Bool) : Attachment :=
  if Text.sameAscii name impliedName then .skipped
  else if !isValidName name then .dropped (.invalidName name)
  else if !isValidValue value then .dropped (.invalidValue name)
  else if !isContentName name then .request
  else if hasBody then .content
  else .dropped (.needsBody name)

def attach (attached : AttachedHeaders) (name value : Text) (hasBody : Bool) :
    AttachedHeaders × Attachment :=
  let result := outcome name value hasBody
  match result with
  | .request => ({ attached with request := attached.request.append name value }, result)
  | .content => ({ attached with content := attached.content.append name value }, result)
  | .skipped | .dropped _ => (attached, result)

def ofList (headers : HeaderList) (hasBody : Bool) : AttachedHeaders :=
  headers.entries.foldl (fun attached (name, value) => (attached.attach name value hasBody).1) {}

def merged (attached : AttachedHeaders) : HeaderMap := attached.request.merge attached.content

end AttachedHeaders
end HttpContract
