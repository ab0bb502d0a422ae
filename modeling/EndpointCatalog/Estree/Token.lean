/-
EndpointCatalog.Estree.Token — the tokens of scripts.

A token knows how it is written, where it stands, and what follows from its
first character on: a slash is read again once it is known to start a
pattern.
-/
import EndpointCatalog.Number.Literal
import EndpointCatalog.Tree
import EndpointCatalog.Text.Letter

namespace EndpointCatalog.Estree

/-! ## Characters -/

/-- Whether a character ends a line. -/
def isLineEnd (c : Char) : Bool :=
  c == '\n' || c == '\r' || c == '\u2028' || c == '\u2029'

/-- Blanks between tokens, other than line ends. -/
def blankChars : List Nat :=
  [0x9, 0xB, 0xC, 0x20, 0xA0, 0x1680, 0x180E, 0x2000, 0x2001, 0x2002, 0x2003, 0x2004, 0x2005, 0x2006,
   0x2007, 0x2008, 0x2009, 0x200A, 0x202F, 0x205F, 0x3000, 0xFEFF]

/-- Whether a character is a blank between tokens. -/
def isBlankChar (c : Char) : Bool := blankChars.contains c.toNat

/-- Whether a number is the code of a character that a name starts with; a backslash starts an
escape. -/
def isNameStart (n : Nat) : Bool := n == 0x24 || n == 0x5F || n == 0x5C || isLetterPoint n

/-- Whether a number is the code of a character that a name goes on with. -/
def isNamePart (n : Nat) : Bool :=
  isNameStart n || isMarkPoint n || n == 0x200C || n == 0x200D

/-! ## Tokens -/

/-- A stretch of a template literal between two of its delimiters. -/
structure TemplatePart where
  raw : List Char
  cooked : Text
  /-- Whether the stretch opens its template. -/
  head : Bool
  /-- Whether the stretch closes its template. -/
  tail : Bool

/-- What a token is. -/
inductive Lexeme where
  | endOfInput
  | name (text : Text)
  | keyword (text : Text)
  | boolean (value : Bool)
  | null
  | number (value : NumberLiteral) (legacyOctal : Bool)
  | string (value : Text) (hasOctal : Bool)
  | mark (text : String)
  | template (part : TemplatePart)
  | pattern (body : List Char) (flags : Text) (compiled : Option Text)

/-- A token. The line and the start of its line are those at the token's end. -/
structure Token where
  lexeme : Lexeme
  raw : List Char
  /-- What follows from the token's first character on. -/
  ahead : List Char
  line : Nat
  lineStart : Nat
  start : Nat

namespace Token

/-- The text of a word. -/
def word? (t : Token) : Option Text :=
  match t.lexeme with
  | .name text => some text
  | .keyword text => some text
  | .boolean true => some (Text.ofString "true")
  | .boolean false => some (Text.ofString "false")
  | .null => some (Text.ofString "null")
  | _ => none

/-- The text of a word, empty for other tokens. -/
def wordText (t : Token) : Text := t.word?.getD []

/-- Whether the token is a certain mark. -/
def isMark (t : Token) (text : String) : Bool :=
  match t.lexeme with
  | .mark m => m == text
  | _ => false

/-- Whether the token is one of some marks. -/
def isMarkIn (t : Token) (marks : List String) : Bool :=
  match t.lexeme with
  | .mark m => marks.contains m
  | _ => false

/-- Whether the token is a certain keyword. -/
def isKeyword (t : Token) (text : String) : Bool :=
  match t.lexeme with
  | .keyword k => k == Text.ofString text
  | _ => false

/-- Whether the token is one of some keywords. -/
def isKeywordIn (t : Token) (texts : List String) : Bool :=
  match t.lexeme with
  | .keyword k => texts.any fun text => k == Text.ofString text
  | _ => false

/-- Whether the token is a name that is no keyword. -/
def isName (t : Token) : Bool :=
  match t.lexeme with
  | .name _ => true
  | _ => false

/-- Whether the token is a certain name that is no keyword. -/
def isNamed (t : Token) (text : String) : Bool :=
  match t.lexeme with
  | .name n => n == Text.ofString text
  | _ => false

/-- Whether the token is the end of the input. -/
def isEnd (t : Token) : Bool :=
  match t.lexeme with
  | .endOfInput => true
  | _ => false

/-- Whether the token is a string. -/
def isString (t : Token) : Bool :=
  match t.lexeme with
  | .string _ _ => true
  | _ => false

/-- Whether the token is a stretch of a template. -/
def isTemplate (t : Token) : Bool :=
  match t.lexeme with
  | .template _ => true
  | _ => false

/-- Whether the token opens a template. -/
def isTemplateHead (t : Token) : Bool :=
  match t.lexeme with
  | .template part => part.head
  | _ => false

/-- Whether the token is written with an octal number in the old style. -/
def hasOctal (t : Token) : Bool :=
  match t.lexeme with
  | .number _ octal => octal
  | .string _ octal => octal
  | _ => false

end Token

/-! ## Words with a meaning -/

/-- The keywords. -/
def keywords : List String :=
  ["if", "in", "do", "var", "for", "new", "try", "let", "this", "else", "case", "void", "with",
   "enum", "while", "break", "catch", "throw", "const", "yield", "class", "super", "return",
   "typeof", "delete", "switch", "export", "import", "default", "finally", "extends", "function",
   "continue", "debugger", "instanceof"]

/-- Keywords that are reserved without having a meaning everywhere. -/
def futureReserved : List String := ["enum", "export", "import", "super"]

/-- Names that are reserved in strict code. -/
def strictReserved : List String :=
  ["implements", "interface", "package", "private", "protected", "public", "static", "yield", "let"]

/-- Names that strict code may not bind. -/
def restrictedNames : List String := ["eval", "arguments"]

/-- Whether a text is one of some words. -/
def isOneOf (words : List String) (text : Text) : Bool :=
  words.any fun word => text == Text.ofString word

/-- What a word is. -/
def Lexeme.ofWord (text : Text) : Lexeme :=
  if text.length = 1 then .name text
  else if isOneOf keywords text then .keyword text
  else if text = "null" then .null
  else if text = "true" then .boolean true
  else if text = "false" then .boolean false
  else .name text

end EndpointCatalog.Estree
