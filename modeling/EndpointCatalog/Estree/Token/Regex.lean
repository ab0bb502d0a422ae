/-
EndpointCatalog.Estree.Token.Regex — regular expressions in scripts.

* `scanRegexBody` and `scanRegexFlags` find where a literal ends.
* `compiledPattern` is the pattern that a literal is compiled to, if it can
  be compiled. With the flag `u`, escapes of code points are replaced by
  their characters first; a character above U+FFFF becomes U+FFFF.
-/
import EndpointCatalog.Estree.Token.Escape
import EndpointCatalog.Pattern.Acceptance

namespace EndpointCatalog.Estree

/-- The body of a literal behind its first slash, and the characters taken with the second one. -/
def scanRegexBody (inClass : Bool) (isEscaped : Bool) (found : List Char) (taken : Nat) :
    List Char → Except SyntaxFault (List Char × Nat)
  | [] => .error .unterminatedPattern
  | c :: rest =>
    if isLineEnd c then .error .unterminatedPattern
    else if isEscaped then scanRegexBody inClass false (c :: found) (taken + 1) rest
    else if c = '\\' then scanRegexBody inClass true (c :: found) (taken + 1) rest
    else if inClass then scanRegexBody (c != ']') false (c :: found) (taken + 1) rest
    else if c = '/' then .ok (found.reverse, taken + 1)
    else scanRegexBody (c == '[') false (c :: found) (taken + 1) rest

/-- The flags of a literal, last first; an escape in them is a tolerated fault. -/
def scanRegexFlags (skip : Nat) (found : Text) (e : Extent) : List Char → Text × Extent
  | [] => (found, e)
  | c :: rest =>
    match skip with
    | skip + 1 => scanRegexFlags skip found e rest
    | 0 =>
      if !isNamePart c.toNat then (found, e)
      else if c = '\\' ∧ !rest.isEmpty then
        match rest with
        | 'u' :: digits =>
          match hexCode? 4 digits with
          | some p => scanRegexFlags 5 (p :: found) (e.pass 6).tolerate rest
          | none => scanRegexFlags 1 (CodePoint.ofChar 'u' :: found) (e.pass 2).tolerate rest
        | _ => scanRegexFlags 0 found (e.pass 1).tolerate rest
      else scanRegexFlags 0 (CodePoint.ofChar c :: found) (e.pass 1) rest

/-- What stands for characters above U+FFFF in a pattern. -/
def astralSubstitute : CodePoint := ⟨0xFFFF, by decide⟩

/-- One escape of a code point, behind the backslash: the number and the characters taken. -/
def codeEscape? (cs : List Char) : Option (Nat × Nat) :=
  match cs with
  | 'u' :: '\x7b' :: rest =>
    let ds := rest.takeWhile fun c => (hexDigit? c).isSome
    match rest.drop ds.length with
    | '\x7d' :: _ =>
      if ds.isEmpty then none
      else some (Text.hexNumber (ds.filterMap hexDigit?), ds.length + 3)
    | _ => none
  | 'u' :: rest => (hexCode? 4 rest).map fun p => (p.val, 5)
  | _ => none

/-- Replaces the escapes of code points; there is none above the last code point. -/
def replaceCodeEscapes (skip : Nat) : List Char → Except SyntaxFault Text
  | [] => .ok []
  | c :: rest =>
    match skip with
    | skip + 1 => replaceCodeEscapes skip rest
    | 0 =>
      if c = '\\' then
        match codeEscape? rest with
        | some (code, taken) =>
          match CodePoint.ofNat? code with
          | none => .error .invalidPattern
          | some p =>
            (replaceCodeEscapes taken rest).map fun t =>
              (if code ≤ 0xFFFF then p else astralSubstitute) :: t
        | none => (replaceCodeEscapes 0 rest).map (CodePoint.ofChar c :: ·)
      else (replaceCodeEscapes 0 rest).map (CodePoint.ofChar c :: ·)

/-- Replaces pairs of surrogate halves. -/
def replacePairs : Text → Text
  | p :: q :: rest =>
    if p.isHigh && q.isLow then astralSubstitute :: replacePairs rest
    else p :: replacePairs (q :: rest)
  | t => t

/-- The pattern that a literal is compiled to; none if it cannot be compiled. -/
def compiledPattern (body : List Char) (flags : Text) : Except SyntaxFault (Option Text) := do
  let pattern ←
    if flags.contains (CodePoint.ofChar 'u') then (replaceCodeEscapes 0 body).map replacePairs
    else pure (Text.ofChars body)
  pure (if Pattern.isAccepted pattern.toChars then some pattern else none)

end EndpointCatalog.Estree
