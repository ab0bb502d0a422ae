/-
EndpointCatalog.Remote.Address — numeric addresses in URLs.

A host in brackets is an IPv6 address, optionally with a zone, or an
address of a future version.
-/
import EndpointCatalog.Path

namespace EndpointCatalog.Remote

/-- Whether a character is a hexadecimal digit. -/
def isHexDigit (c : Char) : Bool :=
  c.isDigit || ('a' ≤ c && c ≤ 'f') || ('A' ≤ c && c ≤ 'F')

/-- The number that decimal digits stand for. -/
def decimalOf (cs : List Char) : Nat := cs.foldl (fun n c => n * 10 + (c.toNat - 48)) 0

/-- Whether some characters are a byte in decimal, without leading zeros. -/
def isDecimalByte (cs : List Char) : Bool :=
  !cs.isEmpty && cs.all Char.isDigit && decide (cs.length ≤ 3) &&
    (decide (cs.length = 1) || cs.head? != some '0') && decide (decimalOf cs ≤ 255)

/-- Whether some characters are an IPv4 address. -/
def isIPv4 (cs : List Char) : Bool :=
  let parts := splitAt (· == '.') cs
  parts.length == 4 && parts.all isDecimalByte

/-- Whether some characters are a group of an IPv6 address. -/
def isHexGroup (cs : List Char) : Bool :=
  !cs.isEmpty && cs.all isHexDigit && decide (cs.length ≤ 4)

/-- The groups of an IPv6 address, an IPv4 address at its end standing for two groups; `none` if
such an end is no address. -/
def groupsOf? (cs : List Char) : Option (List (List Char)) :=
  let parts := splitAt (· == ':') cs
  if parts.length < 3 then none
  else
    let last := parts.getLast?.getD []
    if last.contains '.' then
      if isIPv4 last then some (parts.dropLast ++ [['0'], ['0']]) else none
    else some parts

/-- Whether groups without a gap are an address. -/
def isFullAddress (groups : List (List Char)) : Bool :=
  groups.length == 8 && groups.all isHexGroup

/-- Whether the groups on one side of a gap are in order; an empty outermost group means that
nothing stands on that side. -/
def isGapSide (groups : List (List Char)) (outermost : List Char) : Bool :=
  (outermost.isEmpty && groups.length == 1) || groups.all isHexGroup

/-- Whether groups are an address, with a gap at most once. -/
def areGroups (groups : List (List Char)) : Bool :=
  if 9 < groups.length then false
  else
    let inside := (groups.drop 1).dropLast
    match inside.filter List.isEmpty with
    | [] => isFullAddress groups
    | [_] =>
      let before := (inside.takeWhile fun g => !g.isEmpty).length + 1
      let high := groups.take before
      let low := groups.drop (before + 1)
      let first := high.head?.getD []
      let last := low.getLast?.getD []
      let written := (if first.isEmpty then 0 else high.length) +
        (if last.isEmpty then 0 else low.length)
      isGapSide high first && isGapSide low last && written < 8
    | _ => false

/-- Whether some characters are an IPv6 address; a zone follows a percent sign. -/
def isIPv6 (cs : List Char) : Bool :=
  let address := cs.takeWhile (· ≠ '%')
  let zone := cs.dropWhile (· ≠ '%')
  let zoneOk := match zone with
    | [] => true
    | _ :: name => !name.isEmpty && !name.contains '%'
  !address.isEmpty && decide (address.length ≤ 45) && zoneOk && (groupsOf? address).any areGroups

/-- Whether some characters name an address of a future version. -/
def isFutureAddress (cs : List Char) : Bool :=
  match cs with
  | 'v' :: rest =>
    let version := rest.takeWhile isHexDigit
    match rest.dropWhile isHexDigit with
    | '.' :: address => !version.isEmpty && !address.isEmpty
    | _ => false
  | _ => false

end EndpointCatalog.Remote
