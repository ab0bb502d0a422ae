/-
EndpointCatalog.Estree.Token.Numeral — numbers in scripts.

* A number whose value is whole is an integer, however it is written; any
  other number is a double-precision one.
* A leading zero makes a number octal unless one of its digits is an eight
  or a nine.
-/
import EndpointCatalog.Estree.Token.Escape
import EndpointCatalog.Number.Literal

namespace EndpointCatalog.Estree

/-- A number as it was scanned. -/
structure Numeral where
  value : NumberLiteral
  legacyOctal : Bool
  taken : Nat

/-- Whether what follows a number may follow it: neither a name nor, if so asked, a digit. -/
def endsNumber (digitsToo : Bool) (rest : List Char) : Bool :=
  match rest with
  | [] => true
  | c :: _ => !isNameStart c.toNat && !(digitsToo && c.isDigit)

/-- A number in a base, behind its prefix of some characters. -/
def scanBased (base : Nat) (digitsToo : Bool) (prefixed : Nat) (rest : List Char) :
    Except SyntaxFault Numeral :=
  let ds := rest.takeWhile fun c => (digitIn? base c).isSome
  if ds.isEmpty then .error .illegal
  else if endsNumber digitsToo (rest.drop ds.length) then
    .ok ⟨.int (ofDigits base (ds.filterMap (digitIn? base))), false, prefixed + ds.length⟩
  else .error .illegal

/-- Whether a number that starts with a zero is octal: no eight or nine among its digits. -/
def isLegacyOctal (digits : List Char) : Bool :=
  match digits.dropWhile isOctalDigit with
  | [] => true
  | c :: _ => c != '8' && c != '9'

/-- The value of a decimal number: an integer if it is whole. -/
def decimalValue (written : List Char) : NumberLiteral :=
  match readDecimal? false written with
  | none => .int 0
  | some x =>
    match x.toInt? with
    | some n => .int n
    | none => .float x

/-- The exponent of a decimal number, with its letter. -/
def scanExponent (rest : List Char) : Except SyntaxFault (List Char) :=
  match rest with
  | e :: more =>
    if e = 'e' ∨ e = 'E' then
      let sign := more.takeWhile fun c => c == '+' || c == '-'
      let sign := sign.take 1
      let ds := (more.drop sign.length).takeWhile Char.isDigit
      if ds.isEmpty then .error .illegal else .ok (e :: (sign ++ ds))
    else .ok []
  | [] => .ok []

/-- A decimal number. -/
def scanDecimal (cs : List Char) : Except SyntaxFault Numeral := do
  let whole := cs.takeWhile Char.isDigit
  let rest := cs.drop whole.length
  let fraction := match rest with
    | '.' :: more => '.' :: more.takeWhile Char.isDigit
    | _ => []
  let rest := rest.drop fraction.length
  let exponent ← scanExponent rest
  if endsNumber false (rest.drop exponent.length) then
    let written := whole ++ fraction ++ exponent
    .ok ⟨decimalValue written, false, written.length⟩
  else .error .illegal

/-- A number, which starts with a digit or with a point before a digit. -/
def scanNumeral (cs : List Char) : Except SyntaxFault Numeral :=
  match cs with
  | '0' :: 'x' :: rest => scanBased 16 false 2 rest
  | '0' :: 'X' :: rest => scanBased 16 false 2 rest
  | '0' :: 'b' :: rest => scanBased 2 true 2 rest
  | '0' :: 'B' :: rest => scanBased 2 true 2 rest
  | '0' :: 'o' :: rest => scanBased 8 true 2 rest
  | '0' :: 'O' :: rest => scanBased 8 true 2 rest
  | '0' :: c :: rest =>
    if isOctalDigit c ∧ isLegacyOctal rest then do
      let numeral ← scanBased 8 true 1 (c :: rest)
      pure { numeral with legacyOctal := true }
    else scanDecimal cs
  | _ => scanDecimal cs

end EndpointCatalog.Estree
