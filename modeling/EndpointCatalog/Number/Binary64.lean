/-
EndpointCatalog.Number.Binary64 — double-precision numbers as bit patterns.

A number is its IEEE-754 binary64 pattern, so two numbers are equal exactly
when their patterns are.

* `ofRatio` rounds a quotient of naturals to the nearest pattern, ties to
  the even one.
* `toRatio?` is the exact value of a finite pattern.
* `ofDecimal` rounds `digits · 10^exponent`.
-/

namespace EndpointCatalog

/-- A double-precision number, by its bit pattern. -/
structure Binary64 where
  /-- Sign, eleven exponent bits, fifty-two fraction bits. -/
  bits : UInt64
deriving DecidableEq, Repr

/-- Quotient rounded to the nearest integer, a half going to the even neighbour. -/
def roundHalfEven (num den : Nat) : Nat :=
  let q := num / den
  let r := num % den
  if 2 * r < den then q
  else if den < 2 * r then q + 1
  else if q % 2 = 0 then q else q + 1

/-- A power of ten. -/
def tenTo (n : Nat) : Nat := Nat.pow 10 n

namespace Binary64

/-- The sign bit. -/
def signBit : Nat := 0x8000000000000000

/-- The lowest bit of the exponent: as many as the fractions of one exponent. -/
def exponentBit : Nat := 0x10000000000000

/-- The pattern without its sign bit. -/
def magnitude (x : Binary64) : Nat := x.bits.toNat % signBit

/-- Whether the sign bit is set. -/
def isNegative (x : Binary64) : Bool := decide (signBit ≤ x.bits.toNat)

/-- The magnitude pattern of infinity. -/
def infinityMagnitude : Nat := 0x7FF0000000000000

/-- A pattern from a sign and a magnitude. -/
def ofMagnitude (negative : Bool) (magnitude : Nat) : Binary64 :=
  ⟨UInt64.ofNat (if negative then signBit + magnitude else magnitude)⟩

/-- Infinity with a sign. -/
def infinity (negative : Bool) : Binary64 := ofMagnitude negative infinityMagnitude

/-- The quiet not-a-number pattern with a sign. -/
def nan (negative : Bool) : Binary64 := ofMagnitude negative 0x7FF8000000000000

/-- Whether the pattern stands for no number. -/
def isNaN (x : Binary64) : Bool := decide (infinityMagnitude < x.magnitude)

/-- Whether the pattern is an infinity. -/
def isInfinite (x : Binary64) : Bool := x.magnitude == infinityMagnitude

/-- Flips the sign bit. -/
def neg (x : Binary64) : Binary64 := ofMagnitude (!x.isNegative) x.magnitude

instance : Neg Binary64 := ⟨neg⟩

/-- Exponent of the last place that a quotient keeps: `num / den` lies in
`[2^52, 2^53)` units of `2^place`, subnormal quotients excepted. -/
def lastPlace (num den : Nat) : Int :=
  let guess : Int := (Nat.log2 num : Int) - (Nat.log2 den : Int)
  let reaches : Bool :=
    if 0 ≤ guess then decide (den <<< guess.toNat ≤ num)
    else decide (den ≤ num <<< (-guess).toNat)
  let top := if reaches then guess else guess - 1
  max (top - 52) (-1074)

/-- Magnitude pattern nearest to `num / den`. -/
def magnitudeOfRatio (num den : Nat) : Nat :=
  if num = 0 then 0
  else
    let place := lastPlace num den
    let units :=
      if 0 ≤ place then roundHalfEven num (den <<< place.toNat)
      else roundHalfEven (num <<< (-place).toNat) den
    let pattern :=
      if units < exponentBit then units
      else (place + 1075).toNat * exponentBit + (units - exponentBit)
    min pattern infinityMagnitude

/-- The number nearest to `± num / den`, a tie going to the even pattern. -/
def ofRatio (negative : Bool) (num den : Nat) : Binary64 :=
  ofMagnitude negative (magnitudeOfRatio num den)

/-- The number nearest to `± digits · 10^exponent`. -/
def ofDecimal (negative : Bool) (digits : Nat) (exponent : Int) : Binary64 :=
  if digits = 0 then ofMagnitude negative 0
  else
    let size : Int := (Nat.log2 digits : Int) * 30103 / 100000 + exponent
    if 400 < size then infinity negative
    else if size < -400 then ofMagnitude negative 0
    else if 0 ≤ exponent then ofRatio negative (digits * tenTo exponent.toNat) 1
    else ofRatio negative digits (tenTo (-exponent).toNat)

/-- The exact size of the number as a quotient `num / den`; `none` for
infinities and for what is no number. -/
def toRatio? (x : Binary64) : Option (Nat × Nat) :=
  let m := x.magnitude
  if infinityMagnitude ≤ m then none
  else
    let exponent := m / exponentBit
    let fraction := m % exponentBit
    if exponent = 0 then some (fraction, 1 <<< 1074)
    else
      let units := exponentBit + fraction
      if 1075 ≤ exponent then some (units <<< (exponent - 1075), 1)
      else some (units, 1 <<< (1075 - exponent))

/-- The integer that the number is, if it is one. -/
def toInt? (x : Binary64) : Option Int :=
  match x.toRatio? with
  | none => none
  | some (num, den) =>
    if num % den = 0 then
      let n : Int := (num / den : Nat)
      some (if x.isNegative then -n else n)
    else none

end Binary64

end EndpointCatalog
