import HttpContract.Text.Basic

/-! Why a text is not a URL. -/
namespace HttpContract

inductive UrlError where
  | emptyHost
  | invalidDomain
  | invalidOpaqueHost
  | invalidPort
  | invalidIpv4
  | invalidIpv6
  | relativeWithoutBase
  | relativeWithOpaqueBase
  | dotsBehindDrive
  deriving DecidableEq, Inhabited

def UrlError.message : UrlError → Text
  | emptyHost => "empty host"
  | invalidDomain => "invalid international domain name"
  | invalidOpaqueHost => "invalid domain character"
  | invalidPort => "invalid port number"
  | invalidIpv4 => "invalid IPv4 address"
  | invalidIpv6 => "invalid IPv6 address"
  | relativeWithoutBase => "relative URL without a base"
  | relativeWithOpaqueBase => "relative URL with a cannot-be-a-base base"
  | dotsBehindDrive => "double dots behind a drive letter"

end HttpContract
