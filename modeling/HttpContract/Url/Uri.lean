import HttpContract.Url.Basic
import HttpContract.Url.Percent

/-! The URLs that can be sent. A URI admits fewer hosts than a URL does and has no fragment, and the
credentials of a URL are sent apart from it. -/
namespace HttpContract

def isUriChar (c : Char) : Bool :=
  c.isAlphanum || c ∈ ['!', '$', '&', '\'', '(', ')', '*', '+', ',', '-', '.', ':', ';', '=', '[',
    ']', '_', '~']

namespace Authority

/-- Whether there are credentials that are written in UTF-8. A name that is not hides the password
as well. -/
def hasReadableUserInfo (authority : Authority) : Bool :=
  let isReadable (part : Text) : Bool := (Utf8.decode? (Percent.decode part)).isSome
  isReadable authority.username &&
    (authority.username != [] || (authority.password != [] && isReadable authority.password))

end Authority

namespace Url

/-- How long a URL may be, its fragment included, to be a URI. -/
def maxUriLength : Nat := 65534

def maxSchemeLength : Nat := 64

def readsAsAuthority (text : Text) : Bool :=
  let host := (text.reverse.takeWhile (· != '@')).reverse
  let front := text.take (text.length - host.length)
  !host.isEmpty && host.all (fun c => isUriChar c && c != '[' && c != ']') &&
    host.count ':' ≤ 1 && front.all fun c => isUriChar c || c == '@' || c == '%'

/-- Whether a URL is also a URI. All parts but the host are encoded so that they are; a URL without
an authority has to read as one. -/
def isUri (url : Url) : Bool :=
  url.text.length ≤ maxUriLength &&
    match url.authority with
    | none => readsAsAuthority url.text
    | some authority =>
      !authority.host.text.isEmpty && authority.host.text.all isUriChar &&
        url.scheme.length ≤ maxSchemeLength

/-- The URI that a URL stands for, if it is one. An empty path is a slash. -/
def uri? (url : Url) : Option Url :=
  if !url.isUri then none
  else some { url with
    fragment := none
    path := if url.path = .segments [] then .segments [[]] else url.path }

def withoutReadableUserInfo (url : Url) : Url :=
  if url.authority.any Authority.hasReadableUserInfo then url.withoutUserInfo else url

end Url
end HttpContract
