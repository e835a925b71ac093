import HttpContract.RunError
import HttpContract.Headers.Attachment
import HttpContract.TestCase
import HttpContract.Transport.Failure

/-! Requests as they are sent, made from a test case and a base address. -/
namespace HttpContract

structure Request where
  method : Method
  url : Url
  headers : HeaderMap
  body : Option Text
  deriving DecidableEq, Inhabited

namespace Request

variable [DomainNames]

def jsonContentType : Text := "application/json; charset=utf-8"

/-- The URL of a target, or why it has none. An absolute target replaces the base entirely. -/
def resolve (base : Url) (target : Text) : Except Crash (Except TransportError Url) :=
  match base.join (Text.trim target) with
  | .ok url => .ok (.ok url)
  | .error .dotsBehindDrive => .error .dotsBehindDrive
  | .error cause => .ok (.error (.unresolvable target cause))

/-- An empty body is no body. -/
def bodyOf (test : TestCase) : Option Text := test.body.filter fun body => !body.isEmpty

/-- The header fields of a case; a body brings its content type. -/
def headersOf (test : TestCase) : HeaderMap :=
  let hasBody := (bodyOf test).isSome
  let attached := (AttachedHeaders.ofList test.headers hasBody).merged
  if hasBody then attached.insert AttachedHeaders.impliedName jsonContentType else attached

def toUrl (test : TestCase) (url : Url) : Request :=
  { method := test.method, url, headers := headersOf test, body := bodyOf test }

def prepare (base : Url) (test : TestCase) : Except Crash (Except TransportError Request) :=
  (resolve base test.path).map fun url => url.map (toUrl test)

/-- Reads a base address, blanks around it allowed. -/
def baseUrl (address : Text) : Except UrlError Url := Url.parse none (Text.trim address)

end Request
end HttpContract
