import HttpContract.Url.Parse

/-! Why a request gets no response, in words and as a code. -/
namespace HttpContract

inductive FailureKind where
  | invalidUrl | dns | connect | tls | timeout | read | canceled
  deriving DecidableEq, Inhabited

def FailureKind.code : FailureKind → Text
  | invalidUrl => "INVALID_URL"
  | dns => "DNS_ERROR"
  | connect => "CONNECT_ERROR"
  | tls => "TLS_ERROR"
  | timeout => "TIMEOUT"
  | read => "READ_ERROR"
  | canceled => "CANCELED"

inductive SendFault where
  | schemeNotAllowed
  | notUri
  | networkUnreachable
  | connectionRefused
  | closedEarly
  | timedOut
  | tooManyRedirects
  deriving DecidableEq, Inhabited

namespace SendFault

def describe (fault : SendFault) (url : Text) : Text :=
  let sending : Text := "error sending request for url (" ++ url ++ "): "
  match fault with
  | schemeNotAllowed => "builder error for url (" ++ url ++ "): URL scheme is not allowed"
  | notUri => "builder error for url (" ++ url ++ "): Parsed Url is not a valid Uri"
  | networkUnreachable =>
    sending ++ "client error (Connect): tcp connect error: Network is unreachable (os error 101)"
  | connectionRefused =>
    sending ++ "client error (Connect): tcp connect error: Connection refused (os error 111)"
  | closedEarly =>
    sending ++ "client error (SendRequest): connection closed before message completed"
  | timedOut => sending ++ "operation timed out"
  | tooManyRedirects =>
    "error following redirect for url (" ++ url ++ "): too many redirects"

/-- The code that the fault has when the words say no more. -/
def plainKind : SendFault → FailureKind
  | schemeNotAllowed | notUri => .invalidUrl
  | networkUnreachable | connectionRefused => .connect
  | closedEarly | tooManyRedirects => .read
  | timedOut => .timeout

def dnsWords : List Text := ["dns", "failed to lookup address"]

def tlsWords : List Text := ["tls", "ssl", "certificate"]

/-- The code of a description: a timeout is one whatever the words are; then the words decide,
those of the URL included; then the fault. -/
def kind (fault : SendFault) (url : Text) : FailureKind :=
  let words := Text.lowerAscii (fault.describe url)
  let mentions (needles : List Text) : Bool := needles.any fun needle => Text.contains needle words
  if fault = timedOut then .timeout
  else if mentions dnsWords then .dns
  else if mentions tlsWords then .tls
  else fault.plainKind

end SendFault

structure TransportError where
  kind : FailureKind
  message : Text
  deriving DecidableEq, Inhabited

namespace TransportError

def text (error : TransportError) : Text :=
  error.message ++ " (" ++ error.kind.code ++ ")"

def unresolvable (target : Text) (cause : UrlError) : TransportError :=
  ⟨.invalidUrl, "Invalid request target `" ++ target ++ "`: " ++ cause.message⟩

def ofFault (fault : SendFault) (url : Url) : TransportError :=
  ⟨fault.kind url.text, "Request failed: " ++ fault.describe url.text⟩

end TransportError
end HttpContract
