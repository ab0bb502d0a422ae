/-
EndpointCatalog.Number.Shortest — the fewest digits that read back.

* `shortestDigits?` tries 1, 2, … 17 digits; for each it takes the two
  neighbours of the value on that decimal grid and keeps the nearer one
  that rounds to the same pattern.
* `FloatFormat` says where positional notation ends and how the rest is
  spelled; `render` writes a number in such a format.
-/
import EndpointCatalog.Number.Binary64

namespace EndpointCatalog

namespace Binary64

/-- Decimal exponent of a positive quotient: `10^k ≤ num / den < 10^(k+1)`. -/
def decimalExponent (num den : Nat) : Int :=
  if den ≤ num then ((Nat.toDigits 10 (num / den)).length : Int) - 1
  else -((Nat.toDigits 10 ((den - 1) / num)).length : Int)

/-- The grid of `count` significant digits around a positive quotient: the digits just below
(or at) the quotient, and the exponent of their last place. -/
def gridBelow (count : Nat) (num den : Nat) : Nat × Int :=
  let place : Int := decimalExponent num den - (count : Int) + 1
  if 0 ≤ place then (num / (den * tenTo place.toNat), place)
  else (num * tenTo (-place).toNat / den, place)

/-- Whether twice the quotient lies above the sum of the grid point and its successor. -/
def nearerAbove (num den : Nat) (digits : Nat) (place : Int) : Bool :=
  if 0 ≤ place then decide ((2 * digits + 1) * den * tenTo place.toNat < 2 * num)
  else decide ((2 * digits + 1) * den < 2 * num * tenTo (-place).toNat)

/-- The better of the two grid neighbours that read back as `x`, if any does. -/
def gridHit? (x : Binary64) (count num den : Nat) : Option (Nat × Int) :=
  let (digits, place) := gridBelow count num den
  let readsBack (d : Nat) : Bool := (ofDecimal false d place).magnitude == x.magnitude
  match readsBack digits, readsBack (digits + 1) with
  | true, true =>
    if nearerAbove num den digits place then some (digits + 1, place) else some (digits, place)
  | true, false => some (digits, place)
  | false, true => some (digits + 1, place)
  | false, false => none

/-- Digits and exponent of the shortest decimal that reads back; `none` for zero, for
infinities and for what is no number. -/
def shortestDigits? (x : Binary64) : Option (Nat × Int) :=
  match x.toRatio? with
  | none => none
  | some (num, den) =>
    if num = 0 then none
    else (List.range 17).findSome? fun i => gridHit? x (i + 1) num den

end Binary64

/-- How a number is spelled. -/
structure FloatFormat where
  /-- Least decimal exponent that is written positionally. -/
  leastPositional : Int
  /-- Least decimal exponent that is no longer written positionally. -/
  firstScientific : Int
  /-- Least number of exponent digits. -/
  exponentWidth : Nat
  /-- Spelling of infinity, without sign. -/
  infinity : String
  /-- Spelling of what is no number. -/
  nan : String

/-- Drops the zeros at the end of some digits. -/
def dropTrailingZeros (ds : List Char) : List Char :=
  (ds.reverse.dropWhile (· == '0')).reverse

/-- Digits written positionally; whole numbers keep one digit after the point. -/
def positional (ds : List Char) (exponent : Int) : List Char :=
  if exponent < 0 then
    '0' :: '.' :: (List.replicate ((-exponent).toNat - 1) '0' ++ ds)
  else
    let whole := exponent.toNat + 1
    let padded := ds ++ List.replicate (whole - ds.length) '0'
    let fraction := padded.drop whole
    padded.take whole ++ '.' :: (if fraction.isEmpty then ['0'] else fraction)

/-- Digits written with an exponent. -/
def scientific (width : Nat) (ds : List Char) (exponent : Int) : List Char :=
  let size := Nat.toDigits 10 exponent.natAbs
  let shown := List.replicate (width - size.length) '0' ++ size
  let mantissa := match ds with
    | [] => []
    | [d] => [d]
    | d :: rest => d :: '.' :: rest
  mantissa ++ 'e' :: (if exponent < 0 then '-' else '+') :: shown

/-- Writes a number in a format. -/
def Binary64.render (format : FloatFormat) (x : Binary64) : String :=
  if x.isNaN then format.nan
  else
    let sign := if x.isNegative then "-" else ""
    if x.isInfinite then sign ++ format.infinity
    else
      match x.shortestDigits? with
      | none => sign ++ "0.0"
      | some (digits, place) =>
        let all := Nat.toDigits 10 digits
        let exponent := place + (all.length : Int) - 1
        let ds := dropTrailingZeros all
        let body :=
          if format.leastPositional ≤ exponent && exponent < format.firstScientific then
            positional ds exponent
          else scientific format.exponentWidth ds exponent
        sign ++ String.ofList body

end EndpointCatalog
