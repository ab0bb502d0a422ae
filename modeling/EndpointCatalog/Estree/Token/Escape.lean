/-
EndpointCatalog.Estree.Token.Escape — escapes in names, strings and templates.
-/
import EndpointCatalog.Text.Escape
import EndpointCatalog.Estree.Token.Extent

namespace EndpointCatalog.Estree

/-- What an escape stands for, and the characters behind the backslash that it takes. -/
structure Escape where
  stands : Text
  taken : Nat
  /-- Whether it takes a line end. -/
  endsLine : Bool := false
  /-- Whether it is octal. -/
  octal : Bool := false
  /-- Whether it is a tolerated fault. -/
  isFault : Bool := false

/-- The value of a hexadecimal digit. -/
def hexDigit? (c : Char) : Option Nat := Text.hexValue? (CodePoint.ofChar c)

/-- Exactly `count` hexadecimal digits. -/
def hexCode? (count : Nat) (cs : List Char) : Option CodePoint :=
  match Text.takeHex? count (Text.ofChars (cs.take count)) with
  | some (ds, _) => CodePoint.ofNat? (Text.hexNumber ds)
  | none => none

/-- Digits in braces, behind the opening brace: the code point and the characters taken, the
closing brace included. -/
def bracedCode? (cs : List Char) : Option (CodePoint × Nat) :=
  let ds := cs.takeWhile fun c => (hexDigit? c).isSome
  match cs.drop ds.length, ds with
  | _, [] => none
  | '\x7d' :: _, _ =>
    (CodePoint.ofNat? (Text.hexNumber (ds.filterMap hexDigit?))).map fun p => (p, ds.length + 1)
  | _, _ => none

/-- The escape of a line end. -/
def lineEscape? : List Char → Option Escape
  | '\r' :: '\n' :: _ => some ⟨[], 2, true, false, false⟩
  | c :: _ => if isLineEnd c then some ⟨[], 1, true, false, false⟩ else none
  | [] => none

/-- What a one-letter escape stands for. -/
def letterEscape? (c : Char) : Option Char :=
  match c with
  | 'n' => some '\n'
  | 'r' => some '\r'
  | 't' => some '\t'
  | 'b' => some '\x08'
  | 'f' => some '\x0c'
  | 'v' => some '\x0b'
  | _ => none

/-- Whether a character is an octal digit. -/
def isOctalDigit (c : Char) : Bool := '0' ≤ c && c ≤ '7'

/-- An octal escape: up to three digits, three only if the first is at most three. A single zero
counts as none. -/
def octalEscape (first : Char) (rest : List Char) : Escape :=
  let limit := if first.toNat ≤ 0x33 then 2 else 1
  let more := (rest.take limit).takeWhile isOctalDigit
  let code := (first :: more).foldl (fun n c => n * 8 + (c.toNat - 48)) 0
  { stands := (CodePoint.ofNat? code).toList, taken := 1 + more.length,
    octal := first ≠ '0' || !more.isEmpty }

/-- An escape in a string, behind the backslash. At the end of the input it stands for NUL. -/
def stringEscape (cs : List Char) : Except SyntaxFault Escape :=
  match lineEscape? cs, cs with
  | some e, _ => .ok e
  | none, [] => .ok ⟨[CodePoint.ofChar '\x00'], 0, false, false, false⟩
  | none, 'u' :: '\x7b' :: rest =>
    match bracedCode? rest with
    | some (p, taken) => .ok ⟨[p], taken + 2, false, false, false⟩
    | none => .error .illegal
  | none, 'u' :: rest =>
    match hexCode? 4 rest with
    | some p => .ok ⟨[p], 5, false, false, false⟩
    | none => .error .illegal
  | none, 'x' :: rest =>
    match hexCode? 2 rest with
    | some p => .ok ⟨[p], 3, false, false, false⟩
    | none => .error .hexEscape
  | none, c :: rest =>
    match letterEscape? c with
    | some stands => .ok ⟨[CodePoint.ofChar stands], 1, false, false, false⟩
    | none =>
      if isOctalDigit c then .ok (octalEscape c rest)
      else .ok ⟨[CodePoint.ofChar c], 1, false, false, c == '8' || c == '9'⟩

/-- An escape in a template, behind the backslash. -/
def templateEscape (cs : List Char) : Except SyntaxFault Escape :=
  match lineEscape? cs, cs with
  | some e, _ => .ok e
  | none, [] => .ok ⟨[CodePoint.ofChar '\x00'], 0, false, false, false⟩
  | none, 'u' :: '\x7b' :: rest =>
    match bracedCode? rest with
    | some (p, taken) => .ok ⟨[p], taken + 2, false, false, false⟩
    | none => .error .illegal
  | none, 'u' :: rest =>
    match hexCode? 4 rest with
    | some p => .ok ⟨[p], 5, false, false, false⟩
    | none => .ok ⟨[CodePoint.ofChar 'u'], 1, false, false, false⟩
  | none, 'x' :: rest =>
    match hexCode? 2 rest with
    | some p => .ok ⟨[p], 3, false, false, false⟩
    | none => .error .hexEscape
  | none, c :: rest =>
    match letterEscape? c with
    | some stands => .ok ⟨[CodePoint.ofChar stands], 1, false, false, false⟩
    | none =>
      if c = '0' then
        if rest.head?.any Char.isDigit then .error .octalInTemplate
        else .ok ⟨[CodePoint.ofChar '\x00'], 1, false, false, false⟩
      else if isOctalDigit c then .error .octalInTemplate
      else .ok ⟨[CodePoint.ofChar c], 1, false, false, false⟩

/-- An escape in a name, behind the backslash; only without braces it has to be an allowed
character. -/
def nameEscape (isAllowed : Nat → Bool) (cs : List Char) : Except SyntaxFault (CodePoint × Nat) :=
  match cs with
  | 'u' :: '\x7b' :: rest =>
    match bracedCode? rest with
    | some (p, taken) => .ok (p, taken + 2)
    | none => .error .illegal
  | 'u' :: rest =>
    match hexCode? 4 rest with
    | some p => if p.val ≠ 0x5C ∧ isAllowed p.val then .ok (p, 5) else .error .illegal
    | none => .error .illegal
  | _ => .error .illegal

/-! ## Names -/

/-- The rest of a name: its code points, last first, and the characters taken. -/
def scanNameParts (skip : Nat) (found : Text) (taken : Nat) :
    List Char → Except SyntaxFault (Text × Nat)
  | [] => .ok (found, taken)
  | c :: rest =>
    match skip with
    | skip + 1 => scanNameParts skip found taken rest
    | 0 =>
      if c = '\\' then
        match nameEscape isNamePart rest with
        | .ok (p, length) => scanNameParts length (p :: found) (taken + 1 + length) rest
        | .error fault => .error fault
      else if isNamePart c.toNat then
        scanNameParts 0 (CodePoint.ofChar c :: found) (taken + 1) rest
      else .ok (found, taken)

/-- A name, and the characters that it takes. -/
def scanName (cs : List Char) : Except SyntaxFault (Text × Nat) := do
  match cs with
  | [] => .error .illegal
  | '\\' :: rest =>
    let (p, length) ← nameEscape isNameStart rest
    let (found, taken) ← scanNameParts length [p] (1 + length) rest
    pure (found.reverse, taken)
  | c :: rest =>
    let (found, taken) ← scanNameParts 0 [CodePoint.ofChar c] 1 rest
    pure (found.reverse, taken)

/-! ## Strings and templates -/

/-- What a scan of a string or template has found; the cooked text last code point first. -/
structure LiteralScan where
  cooked : Text := []
  extent : Extent := {}
  hasOctal : Bool := false
  /-- Whether a template goes on with a substitution. -/
  opensSubstitution : Bool := false

namespace LiteralScan

/-- Passes a character that stands for itself. -/
def push (s : LiteralScan) (c : Char) : LiteralScan :=
  { s with cooked := CodePoint.ofChar c :: s.cooked, extent := s.extent.pass 1 }

/-- Passes an escape with its backslash. -/
def escape (s : LiteralScan) (e : Escape) : LiteralScan :=
  let extent := if e.endsLine then s.extent.endLine (e.taken + 1) else s.extent.pass (e.taken + 1)
  { s with
    cooked := e.stands.reverse ++ s.cooked
    extent := if e.isFault then extent.tolerate else extent
    hasOctal := s.hasOctal || e.octal }

end LiteralScan

/-- A string behind its opening quote, up to its closing one. -/
def scanString (quote : Char) (skip : Nat) (s : LiteralScan) :
    List Char → Except ScanFault LiteralScan
  | [] => .error (s.extent.lines, .illegal)
  | c :: rest =>
    match skip with
    | skip + 1 => scanString quote skip s rest
    | 0 =>
      if c = quote then .ok { s with extent := s.extent.pass 1 }
      else if c = '\\' then
        match stringEscape rest with
        | .ok e => scanString quote e.taken (s.escape e) rest
        | .error fault => .error (s.extent.lines, fault)
      else if isLineEnd c then .error (s.extent.lines, .illegal)
      else scanString quote 0 (s.push c) rest

/-- A stretch of a template behind its opening delimiter, up to its closing one. -/
def scanTemplate (skip : Nat) (s : LiteralScan) : List Char → Except ScanFault LiteralScan
  | [] => .error (s.extent.lines, .illegal)
  | c :: rest =>
    match skip with
    | skip + 1 => scanTemplate skip s rest
    | 0 =>
      if c = '`' then .ok { s with extent := s.extent.pass 1 }
      else if c = '$' ∧ rest.head? = some '\x7b' then
        .ok { s with extent := s.extent.pass 2, opensSubstitution := true }
      else if c = '\\' then
        match templateEscape rest with
        | .ok e => scanTemplate e.taken (s.escape e) rest
        | .error fault => .error (s.extent.lines, fault)
      else if isLineEnd c then
        let width := if c = '\r' ∧ rest.head? = some '\n' then 2 else 1
        scanTemplate (width - 1)
          { s with cooked := CodePoint.ofChar '\n' :: s.cooked, extent := s.extent.endLine width } rest
      else scanTemplate 0 (s.push c) rest

end EndpointCatalog.Estree
