import HttpContract.Url.Path

/-! Reading URLs, absolute or relative to a base. -/
namespace HttpContract
namespace Url

def trimEdges (input : Text) : Text :=
  let isEdge (c : Char) : Bool := c.toNat ≤ 0x20
  ((input.dropWhile isEdge).reverse.dropWhile isEdge).reverse

def dropCounted : Nat → Text → Text
  | 0, text => text
  | _ + 1, [] => []
  | number + 1, c :: text =>
    if UrlPath.counts c then dropCounted number text else dropCounted (number + 1) text

def isSlash (c : Char) : Bool := c == '/' || c == '\\'

/-- The scheme, in lower case, and what follows its colon. -/
def scheme? (text : Text) : Option (Text × Text) :=
  match text with
  | [] => none
  | first :: _ =>
    if !first.isAlpha then none
    else match Text.splitFirst? ':' text with
      | none => none
      | some (scheme, rest) =>
        if scheme.all fun c => c.isAlphanum || c == '+' || c == '-' || c == '.' then
          some (Text.lowerAscii scheme, rest)
        else none

def splitTail (isSpecial : Bool) (text : Text) : Text × Option Text × Option Text :=
  let (before, fragment) := match Text.splitFirst? '#' text with
    | none => (text, none)
    | some (before, fragment) => (before, some (Percent.encode Percent.fragmentSet fragment))
  let set := if isSpecial then Percent.specialQuerySet else Percent.querySet
  match Text.splitFirst? '?' before with
  | none => (before, none, fragment)
  | some (path, query) => (path, some (Percent.encode set query), fragment)

def splitLast? (mark : Char) (text : Text) : Option (Text × Text) :=
  (Text.splitFirst? mark text.reverse).map fun (after, before) => (before.reverse, after.reverse)

/-- The text of an authority: up to a slash, and a backslash too for special schemes. Query and
fragment are cut off already. -/
def authorityEnd (isSpecial : Bool) (c : Char) : Bool := c == '/' || (isSpecial && c == '\\')

/-- A port in decimal up to 65535. Nothing written, or the default port, is no port. A backslash
ends it for every scheme. -/
def port? (scheme written : Text) : Except UrlError (Option Nat) :=
  if written = [] then .ok none
  else match Text.natOfDigits? 10 written with
    | none => .error .invalidPort
    | some port =>
      if port > 65535 then .error .invalidPort
      else .ok (if defaultPort? scheme = some port then none else some port)

/-- Splits a host from its port at the first colon outside of square brackets. -/
def splitHost (inBrackets : Bool) : Text → Text × Option Text
  | [] => ([], none)
  | c :: rest =>
    if c = ':' ∧ !inBrackets then ([], some rest)
    else
      let (host, port) := splitHost (c == '[' || (inBrackets && c != ']')) rest
      (c :: host, port)

def credentials (written : Text) : Text × Text :=
  let encode := Percent.encode Percent.userInfoSet
  match Text.splitFirst? ':' written with
  | none => (encode written, [])
  | some (username, password) => (encode username, encode password)

variable [DomainNames]

def ofAuthority (scheme rest : Text) : Except UrlError Url := do
  let special := isSpecialScheme scheme
  let (before, query, fragment) := splitTail special rest
  let written := before.takeWhile fun c => !authorityEnd special c
  let behind := before.drop written.length
  let (userInfo, hostAndPort) := match splitLast? '@' written with
    | none => (none, written)
    | some (userInfo, hostAndPort) => (some userInfo, hostAndPort)
  if userInfo = some [] ∧ hostAndPort = [] ∧ behind ++ rest.drop before.length ≠ [] then
    throw .emptyHost
  let (username, password) := (userInfo.map credentials).getD ([], [])
  let (hostText, portText) := splitHost false hostAndPort
  if hostText = [] ∧ (special ∨ portText.isSome) then throw .emptyHost
  let host ← if special then Host.special hostText else Host.opaqueHost hostText
  let portDigits := (portText.getD []).takeWhile (· != '\\')
  let port ← port? scheme portDigits
  if hostText = [] ∧ (username ≠ [] ∨ password ≠ []) then throw .emptyHost
  let pathText := (portText.getD []).drop portDigits.length ++ behind
  let segments ← match pathText with
    | [] => pure (if special then [[]] else [])
    | c :: path =>
      if c = '/' ∨ (special ∧ c = '\\') then UrlPath.ofText special {} path
      else UrlPath.ofText special {} pathText
  return { scheme, query, fragment, path := .segments segments
           authority := some { username, password, host, port } }

def ofPlainScheme (scheme rest : Text) : Except UrlError Url :=
  match Text.strip? "//" rest with
  | some rest => ofAuthority scheme rest
  | none => do
    let (before, query, fragment) := splitTail false rest
    let path ← match before with
      | '/' :: path => UrlPath.segments <$> UrlPath.ofText false {} path
      | _ => pure (.opaquePath (Percent.encode Percent.controls before))
    return { scheme, authority := none, path, query, fragment }

def ofRelative (base : Url) (baseSegments : List Text) (text : Text) : Except UrlError Url :=
  let special := base.isSpecial
  let (before, query, fragment) := splitTail special text
  let withPath (draft : UrlPath.Draft) (path : Text) : Except UrlError Url := do
    return { base with query, fragment, path := .segments (← UrlPath.ofText special draft path) }
  match before with
  | [] =>
    .ok { base with query := if query.isSome then query else base.query, fragment }
  | first :: path =>
    if isSlash first then
      match path with
      | second :: _ =>
        if isSlash second then
          ofAuthority base.scheme
            ((Text.strip? "//" text).getD (text.dropWhile isSlash))
        else withPath {} path
      | [] => withPath {} path
    else withPath (.ofBase false baseSegments) before

/-- Reads what follows the scheme of a file, or a reference relative to a file. `written` is the
text with the characters that do not count. -/
def ofFile (base : Option Url) (written text : Text) : Except UrlError Url := do
  let (before, query, fragment) := splitTail true text
  let baseSegments := (base.bind segments?).getD []
  let baseHost := ((base.bind Url.authority).map Authority.host).getD (.domain [])
  let noHost := Host.domain []
  let built (draft : UrlPath.Draft) (path : Text) : Except UrlError UrlPath.Draft :=
    let behind := dropCounted (before.length - path.length) written
    draft.addAll true (UrlPath.Piece.listOf true (behind.takeWhile fun c => c != '?' && c != '#'))
  let file (host : Host) (draft : UrlPath.Draft) : Url :=
    { scheme := "file", authority := some { host }, query, fragment
      path := .segments (UrlPath.dropEmpty draft.segments) }
  let read (host : Host) (draft : UrlPath.Draft) (path : Text) : Except UrlError Url :=
    file host <$> built draft path
  let startsWithDrive (path : Text) : Bool :=
    UrlPath.isDrive (path.takeWhile fun c => !isSlash c)
  match before with
  | [] => match base with
    | none => read noHost {} []
    | some base =>
      return { base with query := if query.isSome then query else base.query, fragment }
  | first :: path =>
    if !isSlash first then
      if startsWithDrive before then read noHost {} before
      else read baseHost (.ofBase true baseSegments) before
    else if path.head?.any isSlash then
      let behind := path.drop 1
      let hostText := behind.takeWhile fun c => !isSlash c
      if UrlPath.isDrive hostText then read noHost {} behind
      else
        let host ← if hostText = [] then pure noHost else Host.special hostText
        let rest := behind.drop hostText.length
        if host = noHost ∨ host = .domain "localhost" then read noHost {} rest
        else
          let draft ← built {} (rest.drop 1)
          return file (if draft.hasDrive then noHost else host) draft
    else if startsWithDrive path then read noHost {} path
    else match baseSegments.head?.filter UrlPath.isNormalDrive with
      | some drive => read noHost { held := drive } before
      | none => read baseHost {} path

def parse (base : Option Url) (input : Text) : Except UrlError Url :=
  let written := trimEdges input
  let text := written.filter UrlPath.counts
  match scheme? text with
  | some (scheme, rest) =>
    let sameScheme := base.filter fun base => base.scheme == scheme
    if scheme = "file" then ofFile sameScheme (dropCounted (text.length - rest.length) written) rest
    else if isSpecialScheme scheme then
      match sameScheme.bind fun base => base.segments?.map fun segments => (base, segments) with
      | some (base, segments) =>
        if (rest.takeWhile isSlash).length < 2 then ofRelative base segments rest
        else ofAuthority scheme (rest.dropWhile isSlash)
      | none => ofAuthority scheme (rest.dropWhile isSlash)
    else ofPlainScheme scheme rest
  | none =>
    match base with
    | none => .error .relativeWithoutBase
    | some base =>
      match text, base.segments? with
      | '#' :: fragment, _ =>
        .ok { base with fragment := some (Percent.encode Percent.fragmentSet fragment) }
      | _, none => .error .relativeWithOpaqueBase
      | _, some segments =>
        if base.scheme = "file" then ofFile (some base) written text
        else ofRelative base segments text

def join (base : Url) (text : Text) : Except UrlError Url := parse (some base) text

end Url
end HttpContract
