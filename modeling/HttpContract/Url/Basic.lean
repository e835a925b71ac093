import HttpContract.Url.Host

/-! URLs as their parts, and their one written form. -/
namespace HttpContract

/-- Who is asked: credentials, host and port. An empty password is no password, and the default
port of the scheme is not kept. -/
structure Authority where
  username : Text := []
  password : Text := []
  host : Host
  port : Option Nat := none
  deriving DecidableEq, Inhabited

/-- A path is a single text that nothing is relative to, or a list of segments. -/
inductive UrlPath where
  | opaquePath (text : Text)
  | segments (list : List Text)
  deriving DecidableEq, Inhabited

/-- All parts are percent-encoded. -/
structure Url where
  scheme : Text
  authority : Option Authority
  path : UrlPath
  query : Option Text := none
  fragment : Option Text := none
  deriving DecidableEq, Inhabited

namespace Url

def defaultPort? (scheme : Text) : Option Nat :=
  if scheme = "http" ∨ scheme = "ws" then some 80
  else if scheme = "https" ∨ scheme = "wss" then some 443
  else if scheme = "ftp" then some 21
  else none

/-- Schemes whose URLs always have a host and a path, files apart. -/
def isSpecialScheme (scheme : Text) : Bool :=
  (defaultPort? scheme).isSome || scheme == ("file" : Text)

def isSpecial (url : Url) : Bool := isSpecialScheme url.scheme

def knownPort? (url : Url) : Option Nat :=
  (url.authority.bind Authority.port).or (defaultPort? url.scheme)

/-- The segments of a path that can be a base. -/
def segments? (url : Url) : Option (List Text) :=
  match url.path with
  | .segments list => some list
  | .opaquePath _ => none

end Url

namespace Authority

def userInfoText (authority : Authority) : Text :=
  if authority.username = [] ∧ authority.password = [] then []
  else authority.username ++
    (if authority.password = [] then [] else ':' :: authority.password) ++ ['@']

def text (authority : Authority) : Text :=
  userInfoText authority ++ authority.host.text ++
    match authority.port with
    | none => []
    | some port => ':' :: Text.decimal port

def withoutUserInfo (authority : Authority) : Authority :=
  { authority with username := [], password := [] }

end Authority

namespace UrlPath

def text : UrlPath → Text
  | .opaquePath text => text
  | .segments list => list.flatMap fun segment => '/' :: segment

/-- Whether the written path would be taken for an authority if none stands before it. -/
def looksLikeAuthority : UrlPath → Bool
  | .segments ([] :: _ :: _) => true
  | _ => false

end UrlPath

namespace Url

def authorityText (url : Url) : Text :=
  match url.authority with
  | some authority => "//" ++ authority.text
  | none => if url.path.looksLikeAuthority then "/." else []

def text (url : Url) : Text :=
  url.scheme ++ [':'] ++ url.authorityText ++ url.path.text ++
    (match url.query with
      | none => []
      | some query => '?' :: query) ++
    match url.fragment with
    | none => []
    | some fragment => '#' :: fragment

def withoutUserInfo (url : Url) : Url :=
  { url with authority := url.authority.map Authority.withoutUserInfo }

def withoutFragment (url : Url) : Url := { url with fragment := none }

end Url
end HttpContract
