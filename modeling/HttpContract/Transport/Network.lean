import HttpContract.Transport.Request
import HttpContract.Url.Uri

/-! What lies on the other side of a request: a network that is up or down, and a server whose
answer depends on the request alone. Redirects are followed up to a limit. -/
namespace HttpContract

/-- A response as the server sends it. A response that is cut ends before its declared length. -/
structure Reply where
  status : StatusCode := 200
  body : Utf8.Bytes := []
  location : Option Text := none
  cut : Bool := false
  deriving DecidableEq, Inhabited

inductive ServerAction where
  | reply (reply : Reply)
  | close
  | hang
  | refuse
  deriving DecidableEq, Inhabited

abbrev Server := Request → ServerAction

structure Network where
  isUp : Bool
  server : Server

/-- A response as it is judged. The body is absent if it could not be read. -/
structure Response where
  status : StatusCode
  body : Option Text
  deriving DecidableEq, Inhabited

def Response.isSuccess (response : Response) : Bool :=
  200 ≤ response.status && response.status < 300

/-- What a server does with requests of one method and URL, without credentials and fragment. -/
structure Route where
  method : Text
  url : Text
  action : ServerAction

namespace Server

/-- A server with routes and authorities where nothing listens. It does not find what has no
route. -/
def ofRoutes (routes : List Route) (silent : List Text) : Server := fun request =>
  let authority := (request.url.authority.map fun authority => authority.withoutUserInfo.text)
  let url := request.url.withoutUserInfo.withoutFragment.text
  if silent.any fun other => authority == some other then .refuse
  else match routes.find? fun route => route.method == request.method.text && route.url == url with
    | some route => route.action
    | none => .reply { status := 404 }

end Server

namespace Reply

def hasNoBody (status : StatusCode) : Bool := status == 204 || status == 304

/-- The reply as a response: the bytes are read as UTF-8, whatever they are. -/
def response (reply : Reply) : Response :=
  { status := reply.status
    body :=
      if hasNoBody reply.status then some []
      else if reply.cut then none
      else some (Utf8.decodeLossy reply.body) }

def isRedirect (status : StatusCode) : Bool :=
  status == 301 || status == 302 || status == 303 || status == 307 || status == 308

/-- Whether a redirect is followed without the body, by a plain request for the new place. -/
def becomesGet (status : StatusCode) (method : Method) : Bool :=
  status == 303 || ((status == 301 || status == 302) && method == .post)

/-- The place that a reply leads to, if it is a redirect and its location makes a URI. -/
def place? [DomainNames] (reply : Reply) (url : Url) : Option Url :=
  if !isRedirect reply.status then none
  else reply.location.bind fun location => (url.join location).toOption.bind Url.uri?

/-- The fields that tell of a body. -/
def payloadFields : List Text :=
  ["content-type", "content-length", "content-encoding", "transfer-encoding"]

/-- The fields that are meant for one server alone. -/
def credentialFields : List Text :=
  ["authorization", "cookie", "cookie2", "proxy-authorization", "www-authenticate"]

def asksSame (url next : Url) : Bool :=
  (url.authority.map fun authority => authority.host.text) ==
      (next.authority.map fun authority => authority.host.text) &&
    url.knownPort? == next.knownPort?

/-- The URL that a redirected request came from, which an unprotected server is not told of. -/
def referer? (url next : Url) : Option Text :=
  if url.scheme = "https" ∧ next.scheme = "http" then none
  else some url.withoutUserInfo.withoutFragment.text

/-- The fields of a redirected request: those of the body go with it, and another server gets no
credentials. -/
def redirectedHeaders (headers : HeaderMap) (hasBody : Bool) (url next : Url) : HeaderMap :=
  let kept := headers.without ((if hasBody then [] else payloadFields) ++
    if asksSame url next then [] else credentialFields)
  match referer? url next with
  | none => kept
  | some referer => kept.insert "referer" referer

def redirect? [DomainNames] (reply : Reply) (request : Request) : Option Request :=
  (reply.place? request.url).map fun url =>
    if becomesGet reply.status request.method then
      { method := .get, url, body := none
        headers := redirectedHeaders request.headers false request.url url }
    else
      { request with
        url, headers := redirectedHeaders request.headers true request.url url }

end Reply

/-- The requests that were handed to the network, and what came of the last one. -/
structure Exchange where
  sent : List Request
  outcome : Except TransportError Response

namespace Network

def maxRedirects : Nat := 10

def allowedSchemes : List Text := ["http", "https"]

def isAllowed (url : Url) : Bool := allowedSchemes.contains url.scheme

variable [DomainNames]

/-- Sends a request, following at most `redirects` redirects. A failure of the transport is told of
the first URL, whichever request it befalls. -/
def follow (network : Network) (first : Url) : (redirects : Nat) → Request → Exchange
  | redirects, request =>
    let fail (fault : SendFault) (url : Url) : Exchange :=
      ⟨[request], .error (TransportError.ofFault fault url)⟩
    if !network.isUp then fail .networkUnreachable first
    else match network.server request with
      | .refuse => fail .connectionRefused first
      | .close => fail .closedEarly first
      | .hang => fail .timedOut first
      | .reply reply =>
        match reply.redirect? request, redirects with
        | none, _ => ⟨[request], .ok reply.response⟩
        | some _, 0 => fail .tooManyRedirects request.url.withoutFragment
        | some next, redirects + 1 =>
          if !isAllowed next.url then fail .schemeNotAllowed next.url
          else
            let rest := follow network first redirects next
            ⟨request :: rest.sent, rest.outcome⟩

/-- Sends a request. Credentials of its URL are not part of what is asked for; the header field that
they become is left out. -/
def send (network : Network) (request : Request) : Exchange :=
  let url := request.url.withoutReadableUserInfo
  if !isAllowed url then ⟨[], .error (TransportError.ofFault .schemeNotAllowed url)⟩
  else if !url.isUri then ⟨[], .error (TransportError.ofFault .notUri url)⟩
  else network.follow url maxRedirects { request with url }

end Network
end HttpContract
