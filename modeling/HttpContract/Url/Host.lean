import HttpContract.Url.Address
import HttpContract.Url.Percent

/-! Hosts: domains, which special schemes have written in lower-case ASCII, and numeric
addresses. -/
namespace HttpContract

/-- The rules for international domain names, which are not part of this library: how a domain is
written in lower-case ASCII that holds other characters, or a label that stands for some; none if
it is no domain. -/
class DomainNames where
  toAscii? : Text → Option Text

/-- No rules but that ASCII stays as it is. -/
abbrev DomainNames.asciiOnly : DomainNames where
  toAscii? written :=
    if written.all (·.toNat < 0x80) then some (Text.lowerAscii written) else none

inductive Host where
  | domain (name : Text)
  | ipv4 (address : Nat)
  | ipv6 (pieces : List Nat)
  deriving DecidableEq, Inhabited

namespace Host

def text : Host → Text
  | domain name => name
  | ipv4 address => Ipv4.text address
  | ipv6 pieces => ['['] ++ Ipv6.text pieces ++ [']']

/-- Characters that neither kind of host may hold. -/
def isForbidden (c : Char) : Bool :=
  c ∈ ['\x00', '\t', '\n', '\r', ' ', '#', '/', ':', '<', '>', '?', '@', '[', '\\', ']', '^', '|']

def isForbiddenInDomain (c : Char) : Bool :=
  isForbidden c || c == '%' || Percent.controls c

def bracketed? (inside : Text) : Except UrlError Host :=
  match inside.getLast? with
  | some ']' => match Ipv6.ofText? inside.dropLast with
    | some pieces => .ok (.ipv6 pieces)
    | none => .error .invalidIpv6
  | _ => .error .invalidIpv6

/-- A label that stands for other characters than its own. -/
def isEncodedLabel (label : Text) : Bool := Text.startsWith "xn--" (Text.lowerAscii label)

def domainName? [DomainNames] (written : Text) : Option Text :=
  if written.all (·.toNat < 0x80) && !(Text.splitAt '.' written).any isEncodedLabel then
    some (Text.lowerAscii written)
  else DomainNames.toAscii? written

/-- The host of a special scheme. Percent-encoded characters are decoded first. -/
def special [DomainNames] (text : Text) : Except UrlError Host :=
  match text with
  | '[' :: inside => bracketed? inside
  | _ =>
    match (Utf8.decode? (Percent.decode text)).bind domainName? with
    | none => .error .invalidDomain
    | some name =>
      if name.any isForbiddenInDomain then .error .invalidDomain
      else if name.isEmpty then .error .emptyHost
      else if Ipv4.looksNumeric name then
        match Ipv4.ofText? name with
        | some address => .ok (.ipv4 address)
        | none => .error .invalidIpv4
      else .ok (.domain name)

def opaqueHost (text : Text) : Except UrlError Host :=
  match text with
  | '[' :: inside => bracketed? inside
  | _ =>
    if text.any isForbidden then .error .invalidOpaqueHost
    else .ok (.domain (Percent.encode Percent.controls text))

end Host
end HttpContract
