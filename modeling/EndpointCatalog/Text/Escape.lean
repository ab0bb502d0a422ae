/-
EndpointCatalog.Text.Escape — escapes in the body of a string or template
literal.

* `unescapePoints` replaces each escape by what it stands for; an unknown
  escape loses its backslash, and a backslash before a line end takes the
  line end with it.
* `unescape` then joins surrogate halves, provided that every half has its
  partner.
-/
import EndpointCatalog.Text

namespace EndpointCatalog.Text

/-- The value of a hexadecimal digit. -/
def hexValue? (p : CodePoint) : Option Nat :=
  let n := p.val
  if 0x30 ≤ n ∧ n ≤ 0x39 then some (n - 0x30)
  else if 0x61 ≤ n ∧ n ≤ 0x66 then some (n - 0x61 + 10)
  else if 0x41 ≤ n ∧ n ≤ 0x46 then some (n - 0x41 + 10)
  else none

/-- The number that hexadecimal digits stand for. -/
def hexNumber (ds : List Nat) : Nat := ds.foldl (fun n d => n * 16 + d) 0

/-- Exactly `count` hexadecimal digits and what follows them. -/
def takeHex? : Nat → Text → Option (List Nat × Text)
  | 0, t => some ([], t)
  | _ + 1, [] => none
  | count + 1, p :: rest =>
    match hexValue? p with
    | none => none
    | some d => (takeHex? count rest).map fun (ds, after) => (d :: ds, after)

/-- All leading hexadecimal digits and what follows them. -/
def spanHex : Text → List Nat × Text
  | [] => ([], [])
  | p :: rest =>
    match hexValue? p with
    | none => ([], p :: rest)
    | some d => let (ds, after) := spanHex rest; (d :: ds, after)

/-- Digits in braces, after the opening brace: the digits and what follows the closing brace. -/
def bracedHex? (t : Text) : Option (List Nat × Text) :=
  match spanHex t with
  | ([], _) => none
  | (ds, p :: after) => if p = '\x7d' then some (ds, after) else none
  | (_, []) => none

/-- What a one-letter escape stands for. -/
def simpleEscape? (p : CodePoint) : Option CodePoint :=
  if p = 'n' then some '\n'
  else if p = 't' then some '\t'
  else if p = 'r' then some '\r'
  else if p = 'b' then some '\x08'
  else if p = 'f' then some '\x0c'
  else if p = 'v' then some '\x0b'
  else if p = '0' then some '\x00'
  else none

/-- Whether a code point ends a line. -/
def isLineEnd (p : CodePoint) : Bool :=
  p == '\n' || p == '\r' || p.val == 0x2028 || p.val == 0x2029

/-- One escape, after its backslash: what it stands for, and how much of the text it takes. -/
def escapeAt (p : CodePoint) (rest : Text) : Text × Nat :=
  let numeric : Option (Text × Nat) :=
    if p = 'u' then
      let braced := match rest with
        | q :: inner => if q = '\x7b' then bracedHex? inner else none
        | [] => none
      match braced with
      | some (ds, after) =>
        let taken := 1 + (rest.length - after.length)
        match CodePoint.ofNat? (hexNumber ds) with
        | some code => some ([code], taken)
        | none => some ('\\' :: p :: rest.take (taken - 1), taken)
      | none =>
        match takeHex? 4 rest with
        | some (ds, _) => (CodePoint.ofNat? (hexNumber ds)).map fun code => ([code], 5)
        | none => none
    else if p = 'x' then
      match takeHex? 2 rest with
      | some (ds, _) => (CodePoint.ofNat? (hexNumber ds)).map fun code => ([code], 3)
      | none => none
    else none
  match numeric with
  | some found => found
  | none =>
    if p = '\r' ∧ rest.head? = some (CodePoint.ofChar '\n') then ([], 2)
    else if isLineEnd p then ([], 1)
    else match simpleEscape? p with
      | some code => ([code], 1)
      | none => ([p], 1)

/-- Replaces the escapes from left to right. `skip` counts the code points that an escape has
already taken. -/
def unescapeFrom (skip : Nat) : Text → Text
  | [] => []
  | p :: rest =>
    match skip with
    | skip + 1 => unescapeFrom skip rest
    | 0 =>
      if p = '\\' then
        match rest with
        | [] => [p]
        | q :: after =>
          let (cooked, taken) := escapeAt q after
          cooked ++ unescapeFrom taken rest
      else p :: unescapeFrom 0 rest

/-- Replaces the escapes of a literal's body. -/
def unescapePoints (t : Text) : Text := unescapeFrom 0 t

/-- Replaces the escapes and joins surrogate halves; a text in which some half has no partner
is left unjoined. -/
def unescape (t : Text) : Text :=
  let cooked := unescapePoints t
  (joinPairs? cooked).getD cooked

end EndpointCatalog.Text
