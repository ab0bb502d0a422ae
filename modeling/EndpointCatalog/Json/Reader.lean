/-
EndpointCatalog.Json.Reader — JSON text to trees.

* Whole numbers are integers of any size (up to `longestInteger` digits),
  other numbers are double-precision; `NaN`, `Infinity` and `-Infinity` are
  read as numbers.
* Of two equal keys the last wins, in the position of the first.
* An escaped surrogate half stands alone unless the other half follows it.
-/
import EndpointCatalog.Tree
import EndpointCatalog.Number.Literal

namespace EndpointCatalog.Json

/-- Drops the blanks that may stand between tokens. -/
def skipBlanks (cs : List Char) : List Char :=
  cs.dropWhile fun c => c == ' ' || c == '\t' || c == '\n' || c == '\r'

/-- Four hexadecimal digits and what follows them. -/
def readUnit? : List Char → Option (Nat × List Char)
  | a :: b :: c :: d :: rest => do
    let ds ← [a, b, c, d].mapM (digitIn? 16)
    pure (ofDigits 16 ds, rest)
  | _ => none

/-- What a one-letter escape stands for. -/
def simpleEscape? (c : Char) : Option Char :=
  match c with
  | '"' => some '"'
  | '\\' => some '\\'
  | '/' => some '/'
  | 'b' => some '\x08'
  | 'f' => some '\x0c'
  | 'n' => some '\n'
  | 'r' => some '\r'
  | 't' => some '\t'
  | _ => none

/-- The second half that follows a first half, if it does. -/
def readLowHalf? : List Char → Option (CodePoint × List Char)
  | '\\' :: 'u' :: rest => do
    let (unit, after) ← readUnit? rest
    let p ← CodePoint.ofNat? unit
    if p.isLow then pure (p, after) else none
  | _ => none

/-- The rest of a string after its opening quote; `done` holds what was read, last first. -/
def readString? : Nat → Text → List Char → Option (Text × List Char)
  | 0, _, _ => none
  | fuel + 1, done, cs =>
    match cs with
    | [] => none
    | '"' :: rest => some (done.reverse, rest)
    | '\\' :: 'u' :: rest => do
      let (unit, after) ← readUnit? rest
      let p ← CodePoint.ofNat? unit
      match if p.isHigh then readLowHalf? after else none with
      | some (low, after') => readString? fuel (CodePoint.ofPair p low :: done) after'
      | none => readString? fuel (p :: done) after
    | '\\' :: c :: rest =>
      match simpleEscape? c with
      | some p => readString? fuel (CodePoint.ofChar p :: done) rest
      | none => none
    | c :: rest =>
      if c.toNat < 0x20 then none else readString? fuel (CodePoint.ofChar c :: done) rest

/-- A fraction part: a point and at least one digit. -/
def readFraction : List Char → List Char × List Char
  | '.' :: rest =>
    match rest.takeWhile Char.isDigit with
    | [] => ([], '.' :: rest)
    | ds => (ds, rest.dropWhile Char.isDigit)
  | cs => ([], cs)

/-- An exponent part: its value, if there is one. -/
def readExponent : List Char → Option Int × List Char
  | e :: rest =>
    if e == 'e' || e == 'E' then
      let (negative, after) := splitSign rest
      match after.takeWhile Char.isDigit with
      | [] => (none, e :: rest)
      | ds =>
        let size : Int := ofDigits 10 (ds.map fun c => c.toNat - '0'.toNat)
        (some (if negative then -size else size), after.dropWhile Char.isDigit)
    else (none, e :: rest)
  | [] => (none, [])

/-- An unsigned number. -/
def readNumber? (negative : Bool) (cs : List Char) : Option (Tree × List Char) :=
  let whole := match cs with
    | '0' :: _ => ['0']
    | _ => cs.takeWhile Char.isDigit
  let afterWhole := cs.drop whole.length
  if whole.isEmpty then none
  else
    let (fraction, afterFraction) := readFraction afterWhole
    let (exponent, after) := readExponent afterFraction
    let digits := ofDigits 10 ((whole ++ fraction).map fun c => c.toNat - '0'.toNat)
    if fraction.isEmpty && exponent.isNone then
      if longestInteger < whole.length then none
      else some (.int (if negative then -(digits : Int) else digits), after)
    else
      let scale := exponent.getD 0 - (fraction.length : Int)
      some (.float (Binary64.ofDecimal negative digits scale), after)

/-- A keyword and what follows it. -/
def dropWord? (word : String) (cs : List Char) : Option (List Char) :=
  if word.toList.isPrefixOf cs then some (cs.drop word.length) else none

mutual

/-- One value, at a place where no blanks precede it. -/
def readValue? : Nat → List Char → Option (Tree × List Char)
  | 0, _ => none
  | fuel + 1, cs =>
    match cs with
    | '"' :: rest => (readString? (rest.length + 1) [] rest).map fun (t, after) => (.text t, after)
    | '[' :: rest =>
      match skipBlanks rest with
      | ']' :: after => some (.list [], after)
      | items => (readItems? fuel [] items).map fun (ts, after) => (.list ts, after)
    | '\x7b' :: rest =>
      match skipBlanks rest with
      | '\x7d' :: after => some (.map [], after)
      | members =>
        (readMembers? fuel [] members).map fun (es, after) => (.map (Entries.ofPairs es), after)
    | 'N' :: _ =>
      (dropWord? "NaN" cs).map fun after => (.float (Binary64.nan false), after)
    | 'I' :: _ =>
      (dropWord? "Infinity" cs).map fun after => (.float (Binary64.infinity false), after)
    | '-' :: 'I' :: rest =>
      (dropWord? "nfinity" rest).map fun after => (.float (Binary64.infinity true), after)
    | '-' :: rest => readNumber? true rest
    | 't' :: _ => (dropWord? "true" cs).map fun after => (.bool true, after)
    | 'f' :: _ => (dropWord? "false" cs).map fun after => (.bool false, after)
    | 'n' :: _ => (dropWord? "null" cs).map fun after => (.null, after)
    | _ => readNumber? false cs

/-- The items of a list up to its closing bracket; `done` holds those read, last first. -/
def readItems? : Nat → List Tree → List Char → Option (List Tree × List Char)
  | 0, _, _ => none
  | fuel + 1, done, cs =>
    match readValue? fuel cs with
    | none => none
    | some (item, after) =>
      match skipBlanks after with
      | ',' :: rest => readItems? fuel (item :: done) (skipBlanks rest)
      | ']' :: rest => some ((item :: done).reverse, rest)
      | _ => none

/-- The members of a mapping up to its closing brace; `done` holds those read, last first. -/
def readMembers? :
    Nat → List (Text × Tree) → List Char → Option (List (Text × Tree) × List Char)
  | 0, _, _ => none
  | fuel + 1, done, cs =>
    match cs with
    | '"' :: rest =>
      match readString? (rest.length + 1) [] rest with
      | none => none
      | some (key, afterKey) =>
        match skipBlanks afterKey with
        | ':' :: beforeValue =>
          match readValue? fuel (skipBlanks beforeValue) with
          | none => none
          | some (value, after) =>
            match skipBlanks after with
            | ',' :: next => readMembers? fuel ((key, value) :: done) (skipBlanks next)
            | '\x7d' :: next => some (((key, value) :: done).reverse, next)
            | _ => none
        | _ => none
    | _ => none

end

/-- A whole text as one JSON value. -/
def read? (cs : List Char) : Option Tree :=
  match readValue? (2 * cs.length + 2) (skipBlanks cs) with
  | some (value, after) => if (skipBlanks after).isEmpty then some value else none
  | none => none

end EndpointCatalog.Json
