/-
EndpointCatalog.Estree.Token.Lexer — from characters to tokens.

A `Cursor` stands between two tokens. `Cursor.skipTrivia` passes blanks and
comments, `Cursor.token` reads the token that comes next, and
`Cursor.regex` reads a regular expression where a slash comes next.

A brace that closes a substitution goes on with the template around it; the
cursor keeps the braces that are open for that.
-/
import EndpointCatalog.Estree.Token.Numeral
import EndpointCatalog.Estree.Token.Regex

namespace EndpointCatalog.Estree

/-- What an open brace belongs to. -/
inductive Brace where
  | block
  | substitution
deriving DecidableEq, Repr

/-- A place between tokens. -/
structure Cursor where
  rest : List Char
  index : Nat := 0
  line : Nat
  lineStart : Nat := 0
  /-- Open braces, the innermost first. -/
  braces : List Brace := []
  /-- Faults tolerated so far. -/
  faults : Nat := 0

namespace Cursor

/-- The start of a text; an empty text has no line. -/
def ofChars (cs : List Char) : Cursor := { rest := cs, line := if cs.isEmpty then 0 else 1 }

/-- Passes what a scan has passed. -/
def advance (c : Cursor) (e : Extent) : Cursor :=
  { c with
    rest := c.rest.drop e.taken
    index := c.index + e.taken
    line := c.line + e.lines
    lineStart := match e.lineOffset with
      | some offset => c.index + offset
      | none => c.lineStart
    faults := c.faults + e.faults }

/-- Passes blanks and comments. -/
def skipTrivia (c : Cursor) (inModule : Bool) : Cursor :=
  c.advance (scanTrivia inModule .blank (c.index = 0) 0 {} c.rest)

/-- A token of what has been passed, and the cursor behind it. -/
def finish (c : Cursor) (lexeme : Lexeme) (e : Extent) : Token × Cursor :=
  let after := c.advance e
  (⟨lexeme, c.rest.take e.taken, c.rest, after.line, after.lineStart, c.index⟩, after)

/-- A fault at some number of lines behind the cursor. -/
def stopAt (c : Cursor) (fault : ScanFault) : Stop := .malformed (c.line + fault.1) fault.2

/-- The marks, longer ones first. -/
def marks : List String :=
  [">>>=", "...", "===", "!==", ">>>", "<<=", ">>=", "**=", "&&", "||", "==", "!=", "+=", "-=",
   "*=", "/=", "++", "--", "<<", ">>", "&=", "|=", "^=", "%=", "<=", ">=", "=>", "**", "(", ")",
   "\x7b", "\x7d", "[", "]", ".", ";", ",", ":", "?", "~", "<", ">", "=", "!", "+", "-", "*", "%",
   "&", "|", "^", "/"]

/-- The braces that are open behind a mark. -/
def bracesAfter (mark : String) (braces : List Brace) : List Brace :=
  if mark = "\x7b" then .block :: braces
  else if mark = "\x7d" then braces.drop 1
  else braces

/-- A mark. -/
def mark (c : Cursor) : Except Stop (Token × Cursor) :=
  match marks.find? fun m => m.toList.isPrefixOf c.rest with
  | none => .error (c.stopAt (0, .illegal))
  | some m =>
    let (token, after) := c.finish (.mark m) { taken := m.length }
    .ok (token, { after with braces := bracesAfter m c.braces })

/-- A word: a name or a word with a meaning. Escapes in the latter are a tolerated fault. -/
def word (c : Cursor) : Except Stop (Token × Cursor) :=
  match scanName c.rest with
  | .error fault => .error (c.stopAt (0, fault))
  | .ok (text, taken) =>
    let lexeme := Lexeme.ofWord text
    let isPlain := match lexeme with
      | .name _ => true
      | _ => text.length = taken
    .ok (c.finish lexeme { taken := taken, faults := if isPlain then 0 else 1 })

/-- A string. -/
def string (c : Cursor) (quote : Char) (rest : List Char) : Except Stop (Token × Cursor) :=
  match scanString quote 0 { extent := { taken := 1 } } rest with
  | .error fault => .error (c.stopAt fault)
  | .ok s => .ok (c.finish (.string s.cooked.reverse s.hasOctal) s.extent)

/-- A stretch of a template. -/
def template (c : Cursor) (rest : List Char) (isHead : Bool) : Except Stop (Token × Cursor) :=
  match scanTemplate 0 { extent := { taken := 1 } } rest with
  | .error fault => .error (c.stopAt fault)
  | .ok s =>
    let closing := if s.opensSubstitution then 2 else 1
    let raw := (c.rest.take (s.extent.taken - closing)).drop 1
    let part : TemplatePart := ⟨raw, s.cooked.reverse, isHead, !s.opensSubstitution⟩
    let (token, after) := c.finish (.template part) s.extent
    let opened := if s.opensSubstitution then .substitution :: c.braces else c.braces
    .ok (token, { after with braces := if isHead then opened else opened.drop 1 })

/-- The token that comes next. -/
def token (c : Cursor) : Except Stop (Token × Cursor) :=
  match c.rest with
  | [] => .ok (c.finish .endOfInput {})
  | x :: rest =>
    if isNameStart x.toNat then c.word
    else if x = '\'' ∨ x = '"' then c.string x rest
    else if x.isDigit ∨ (x = '.' ∧ rest.head?.any Char.isDigit) then
      match scanNumeral c.rest with
      | .error fault => .error (c.stopAt (0, fault))
      | .ok n => .ok (c.finish (.number n.value n.legacyOctal) { taken := n.taken })
    else if x = '`' then c.template rest true
    else if x = '\x7d' ∧ c.braces.head? = some .substitution then c.template rest false
    else c.mark

/-- The regular expression that comes next. -/
def regex (c : Cursor) : Except Stop (Token × Cursor) := do
  let found : Except SyntaxFault (Lexeme × Extent) := do
    let (body, taken) ← scanRegexBody false false [] 1 (c.rest.drop 1)
    let (flags, extent) := scanRegexFlags 0 [] { taken := taken } (c.rest.drop taken)
    let flags := flags.reverse
    let compiled ← compiledPattern body flags
    let extent := if compiled.isSome then extent else extent.tolerate
    pure (.pattern body flags compiled, extent)
  match found with
  | .error fault => .error (c.stopAt (0, fault))
  | .ok (lexeme, extent) => .ok (c.finish lexeme extent)

end Cursor

end EndpointCatalog.Estree
