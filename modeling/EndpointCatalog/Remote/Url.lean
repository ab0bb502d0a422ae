/-
EndpointCatalog.Remote.Url — the parts of a URL.

* `Url.ofString` splits a URL into scheme, authority, path and what follows.
  Tabs and line breaks inside a URL and blanks before it do not count.
* `Url.host?` is the host, in lower case.
-/
import EndpointCatalog.Remote.Address
import EndpointCatalog.Text.Quoted

namespace EndpointCatalog.Remote

/-- The parts of a URL that name a place. -/
structure Url where
  scheme : List Char
  authority : List Char
  path : List Char
deriving DecidableEq, Repr

/-- What is wrong with the authority of a URL. -/
inductive UrlError where
  | unbalancedBrackets
  | futureAddress
  | bracketedIPv4
  | noAddress (host : List Char)
  | ambiguous (authority : List Char)
deriving DecidableEq, Repr

/-- The wording of a fault. -/
def UrlError.message : UrlError → String
  | .unbalancedBrackets => "Invalid IPv6 URL"
  | .futureAddress => "IPvFuture address is invalid"
  | .bracketedIPv4 => "An IPv4 address cannot be in brackets"
  | .noAddress host =>
    quotedString (String.ofList host) ++ " does not appear to be an IPv4 or IPv6 address"
  | .ambiguous authority =>
    "netloc '" ++ String.ofList authority ++
      "' contains invalid characters under NFKC normalization"

namespace Url

/-- Characters of other scripts whose compatibility forms contain one of the characters that
separate the parts of a URL. -/
def separatorLookalikes : List Nat :=
  [0x2047, 0x2048, 0x2049, 0x2100, 0x2101, 0x2105, 0x2106, 0x2A74, 0xFE13, 0xFE16, 0xFE55, 0xFE56,
   0xFE5F, 0xFE6B, 0xFF03, 0xFF0F, 0xFF1A, 0xFF1F, 0xFF20]

/-- The schemes whose last path segment may carry parameters. -/
def parameterSchemes : List String :=
  ["", "ftp", "hdl", "prospero", "http", "imap", "https", "shttp", "rtsp", "rtsps", "rtspu", "sip",
   "sips", "mms", "sftp", "tel"]

/-- Splits at the first item that satisfies `p`; the item belongs to neither part. -/
def cutAt (p : Char → Bool) (cs : List Char) : List Char × List Char :=
  (cs.takeWhile fun c => !p c, (cs.dropWhile fun c => !p c).drop 1)

/-- What follows the last item that satisfies `p`; everything if there is none. -/
def afterLast (p : Char → Bool) (cs : List Char) : List Char :=
  (cs.reverse.takeWhile fun c => !p c).reverse

/-- Drops blanks and controls in front, and tabs and line breaks everywhere. -/
def cleaned (cs : List Char) : List Char :=
  (cs.dropWhile fun c => c.toNat ≤ 0x20).filter fun c => c ≠ '\t' && c ≠ '\r' && c ≠ '\n'

/-- Whether a character may stand in a scheme. -/
def isSchemeChar (c : Char) : Bool :=
  c.isAlpha || c.isDigit || c == '+' || c == '-' || c == '.'

/-- The scheme in lower case, and what follows its colon. -/
def splitScheme (cs : List Char) : List Char × List Char :=
  let (name, rest) := cutAt (· == ':') cs
  if cs.contains ':' && name.head?.any Char.isAlpha && name.all isSchemeChar then
    (name.map Char.toLower, rest)
  else ([], cs)

/-- The authority after two slashes, and what follows it. -/
def splitAuthority (cs : List Char) : List Char × List Char :=
  match cs with
  | '/' :: '/' :: rest =>
    let ends (c : Char) : Bool := c == '/' || c == '?' || c == '#'
    (rest.takeWhile fun c => !ends c, rest.dropWhile fun c => !ends c)
  | _ => ([], cs)

/-- The host and what stands around its brackets: before, inside and behind. -/
def hostParts (authority : List Char) : List Char × Option (List Char × List Char) :=
  let hostAndPort := afterLast (· == '@') authority
  if hostAndPort.contains '[' then
    let (before, bracketed) := cutAt (· == '[') hostAndPort
    (before, some (cutAt (· == ']') bracketed))
  else ((cutAt (· == ':') hostAndPort).1, none)

/-- The fault of a host that is to be an address. -/
def checkAddress (host : List Char) : Except UrlError Unit :=
  if host.head? = some 'v' then
    if isFutureAddress host then .ok () else .error .futureAddress
  else if isIPv4 host then .error .bracketedIPv4
  else if isIPv6 host then .ok ()
  else .error (.noAddress host)

/-- The fault of the brackets in an authority. -/
def checkBrackets (authority : List Char) : Except UrlError Unit :=
  let opened := authority.contains '['
  let closed := authority.contains ']'
  if opened != closed then .error .unbalancedBrackets
  else if !opened then .ok ()
  else match hostParts authority with
    | (before, some (host, behind)) =>
      if !before.isEmpty then .error .unbalancedBrackets
      else if !behind.isEmpty && behind.head? != some ':' then .error .unbalancedBrackets
      else checkAddress host
    | (host, none) => checkAddress host

/-- The fault of an authority with characters that could be taken for separators. -/
def checkLookalikes (authority : List Char) : Except UrlError Unit :=
  if authority.any fun c => separatorLookalikes.contains c.toNat then
    .error (.ambiguous authority)
  else .ok ()

/-- Cuts the parameters off the last segment of a path. -/
def dropParameters (path : List Char) : List Char :=
  let last := afterLast (· == '/') path
  path.take (path.length - last.length) ++ last.takeWhile (· ≠ ';')

/-- Splits a URL. -/
def ofString (s : String) : Except UrlError Url := do
  let (scheme, rest) := splitScheme (cleaned s.toList)
  let (authority, rest) := splitAuthority rest
  checkBrackets authority
  checkLookalikes authority
  let path := (cutAt (· == '?') (cutAt (· == '#') rest).1).1
  if parameterSchemes.contains (String.ofList scheme) then
    pure ⟨scheme, authority, dropParameters path⟩
  else pure ⟨scheme, authority, path⟩

/-- The host in lower case, a zone excepted; `none` if there is none. -/
def host? (url : Url) : Option (List Char) :=
  let host := match hostParts url.authority with
    | (_, some (host, _)) => host
    | (host, none) => host
  if host.isEmpty then none
  else some ((host.takeWhile (· ≠ '%')).map Char.toLower ++ host.dropWhile (· ≠ '%'))

end Url

end EndpointCatalog.Remote
