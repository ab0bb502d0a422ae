/-
EndpointCatalog.Number.Literal — number literals as they are written.

A literal keeps what it says: integer spellings are integers of any size,
the rest are double-precision numbers, and text that is no number stays
text.

* `readInteger?` reads signs, the prefixes of bases 16, 8 and 2, and digits
  with single underscores between them; a decimal integer with a superfluous
  leading zero is none, and one of more than `longestInteger` digits neither.
* `readFloat?` reads decimal fractions with an exponent, and the names of
  infinity and of what is no number.
* `readNumber` tries both in this order on the trimmed text.
-/
import EndpointCatalog.Text.Blank
import EndpointCatalog.Number.Binary64

namespace EndpointCatalog

/-- What a number literal says. -/
inductive NumberLiteral where
  | int (n : Int)
  | float (x : Binary64)
  | other (t : Text)
deriving DecidableEq

/-! ## Spelling -/

/-- Decimal digits of all scripts as ASCII, blanks as spaces, and all else outside ASCII as `?`. -/
def asciiSpelling (t : Text) : List Char :=
  t.map fun p =>
    if p.val < 0x80 then Char.ofNat p.val
    else if isBlankPoint p.val then ' '
    else match digitValue? p.val with
      | some d => Char.ofNat (0x30 + d)
      | none => '?'

/-- The value of a digit in some base. -/
def digitIn? (base : Nat) (c : Char) : Option Nat :=
  let value :=
    if '0' ≤ c && c ≤ '9' then some (c.toNat - '0'.toNat)
    else if 'a' ≤ c && c ≤ 'z' then some (c.toNat - 'a'.toNat + 10)
    else if 'A' ≤ c && c ≤ 'Z' then some (c.toNat - 'A'.toNat + 10)
    else none
  value.filter (· < base)

/-- Digits in a base with single underscores between them; `none` if other characters occur. -/
def groupedDigits? (base : Nat) : List Char → Option (List Nat)
  | [] => none
  | [c] => (digitIn? base c).map ([·])
  | c :: '_' :: rest => do
    let d ← digitIn? base c
    let ds ← groupedDigits? base rest
    pure (d :: ds)
  | c :: rest => do
    let d ← digitIn? base c
    let ds ← groupedDigits? base rest
    pure (d :: ds)

/-- The number that some digits stand for. -/
def ofDigits (base : Nat) (ds : List Nat) : Nat := ds.foldl (fun n d => n * base + d) 0

/-- A leading sign: whether it is a minus, and the rest. -/
def splitSign : List Char → Bool × List Char
  | '-' :: rest => (true, rest)
  | '+' :: rest => (false, rest)
  | cs => (false, cs)

/-! ## Integers -/

/-- A decimal integer with more digits than this is not read as an integer. -/
def longestInteger : Nat := 4300

/-- Digits after a base prefix; one underscore may stand before them. -/
def prefixedDigits? (base : Nat) : List Char → Option Nat
  | '_' :: rest => (groupedDigits? base rest).map (ofDigits base)
  | cs => (groupedDigits? base cs).map (ofDigits base)

/-- An unsigned integer in one of the four bases. -/
def readMagnitude? : List Char → Option Nat
  | '0' :: 'x' :: rest => prefixedDigits? 16 rest
  | '0' :: 'X' :: rest => prefixedDigits? 16 rest
  | '0' :: 'o' :: rest => prefixedDigits? 8 rest
  | '0' :: 'O' :: rest => prefixedDigits? 8 rest
  | '0' :: 'b' :: rest => prefixedDigits? 2 rest
  | '0' :: 'B' :: rest => prefixedDigits? 2 rest
  | cs => do
    let ds ← groupedDigits? 10 cs
    if longestInteger < ds.length then none
    else if ds.head? = some 0 ∧ ds.any (· ≠ 0) then none
    else pure (ofDigits 10 ds)

/-- A signed integer. -/
def readInteger? (cs : List Char) : Option Int :=
  let (negative, rest) := splitSign cs
  (readMagnitude? rest).map fun n => if negative then -(n : Int) else n

/-! ## Fractions -/

/-- Drops underscores that stand between two digits; `none` if one stands elsewhere. -/
def dropSeparators? (previous : Option Char) : List Char → Option (List Char)
  | [] => some []
  | '_' :: rest =>
    if previous.any Char.isDigit && rest.head?.any Char.isDigit then
      dropSeparators? (some '_') rest
    else none
  | c :: rest => (dropSeparators? (some c) rest).map (c :: ·)

/-- ASCII lower case. -/
def asciiLower (cs : List Char) : List Char := cs.map Char.toLower

/-- A decimal fraction: digits, point, digits, exponent. -/
def readDecimal? (negative : Bool) (cs : List Char) : Option Binary64 :=
  let whole := cs.takeWhile Char.isDigit
  let afterWhole := cs.dropWhile Char.isDigit
  let (fraction, afterFraction) := match afterWhole with
    | '.' :: rest => (rest.takeWhile Char.isDigit, rest.dropWhile Char.isDigit)
    | _ => ([], afterWhole)
  if whole.isEmpty && fraction.isEmpty then none
  else
    let digits := ofDigits 10 ((whole ++ fraction).map fun c => c.toNat - '0'.toNat)
    let scale : Int := -(fraction.length : Int)
    match afterFraction with
    | [] => some (Binary64.ofDecimal negative digits scale)
    | e :: rest =>
      if e == 'e' || e == 'E' then
        let (down, ds) := splitSign rest
        if ds.isEmpty || !ds.all Char.isDigit then none
        else
          let size : Int := ofDigits 10 (ds.map fun c => c.toNat - '0'.toNat)
          some (Binary64.ofDecimal negative digits (scale + if down then -size else size))
      else none

/-- A double-precision number: a decimal fraction, an infinity or what is no number. -/
def readFloat? (cs : List Char) : Option Binary64 := do
  let plain ← dropSeparators? none cs
  let (negative, rest) := splitSign plain
  let name := String.ofList (asciiLower rest)
  if name == "inf" || name == "infinity" then pure (Binary64.infinity negative)
  else if name == "nan" then pure (Binary64.nan negative)
  else readDecimal? negative rest

/-! ## Literals -/

/-- What a number literal says; text that is no number is kept, trimmed. -/
def readNumber (raw : Text) : NumberLiteral :=
  let text := raw.trim
  let spelled := asciiSpelling text
  match readInteger? spelled with
  | some n => .int n
  | none =>
    match readFloat? spelled with
    | some x => .float x
    | none => .other text

end EndpointCatalog
