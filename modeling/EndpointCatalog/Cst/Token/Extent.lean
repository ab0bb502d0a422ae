/-
EndpointCatalog.Cst.Token.Extent — how far tokens of typed scripts reach.

Each function gives the number of characters that a token takes at the
front of a text, zero if there is no such token.
-/

namespace EndpointCatalog.Cst

/-! ## Characters -/

/-- Blanks between tokens. -/
def blankCodes : List Nat :=
  [0x9, 0xA, 0xB, 0xC, 0xD, 0x20, 0xA0, 0x1680, 0x2000, 0x2001, 0x2002, 0x2003, 0x2004, 0x2005,
   0x2006, 0x2007, 0x2008, 0x2009, 0x200A, 0x200B, 0x2028, 0x2029, 0x202F, 0x205F, 0x2060, 0x3000,
   0xFEFF]

/-- Whether a character is a blank between tokens. -/
def isBlank (c : Char) : Bool := blankCodes.contains c.toNat

/-- Whether a character may be passed on the way to the end of a line. -/
def isSpace (c : Char) : Bool :=
  isBlank c && !([0xA0, 0x2007, 0x200B, 0x202F, 0x2060, 0xFEFF].contains c.toNat)

/-- Marks that no name contains. -/
def nameDelimiters : List Char :=
  [':', ';', '`', '"', '\'', '@', '#', '.', ',', '|', '^', '&', '<', '=', '>', '+', '-', '*', '/',
   '\\', '%', '?', '!', '~', '(', ')', '[', ']', '\x7b', '\x7d']

/-- Whether a character goes on with a name. -/
def isNameChar (c : Char) : Bool :=
  0x20 ≤ c.toNat && !isBlank c && !nameDelimiters.contains c

/-- Whether a character is a hexadecimal digit. -/
def isHexDigit (c : Char) : Bool :=
  c.isDigit || ('a' ≤ c && c ≤ 'f') || ('A' ≤ c && c ≤ 'F')

/-- Whether a character is an octal digit. -/
def isOctalDigit (c : Char) : Bool := '0' ≤ c && c ≤ '7'

/-- Whether a character is a binary digit. -/
def isBinaryDigit (c : Char) : Bool := c = '0' || c = '1'

/-! ## Names -/

/-- The length of hexadecimal digits in braces. -/
def bracedHexLength : List Char → Nat
  | '\x7b' :: rest =>
    let digits := rest.takeWhile isHexDigit
    if digits.isEmpty || (rest.drop digits.length).head? ≠ some '\x7d' then 0
    else digits.length + 2
  | _ => 0

/-- Whether a text starts with some number of characters that satisfy a condition. -/
def startsWithSome (count : Nat) (p : Char → Bool) (cs : List Char) : Bool :=
  (cs.take count).length = count && (cs.take count).all p

/-- The length of an escape in a name. -/
def nameEscapeLength : List Char → Nat
  | '\\' :: 'u' :: rest =>
    if startsWithSome 4 isHexDigit rest then 6
    else match bracedHexLength rest with
      | 0 => 0
      | n => n + 2
  | _ => 0

/-- The length of the rest of a name, behind characters that belong to an escape. -/
def nameRestLength (skip : Nat) : List Char → Nat
  | [] => 0
  | c :: rest =>
    if 0 < skip then nameRestLength (skip - 1) rest + 1
    else if c = '\\' then
      match nameEscapeLength (c :: rest) with
      | 0 => 0
      | n => nameRestLength (n - 1) rest + 1
    else if isNameChar c then nameRestLength 0 rest + 1
    else 0

/-- The length of a name. -/
def nameLength (cs : List Char) : Nat :=
  if cs.head?.any Char.isDigit then 0 else nameRestLength 0 cs

/-! ## Numbers -/

/-- The length of digits, single underscores between them allowed. -/
def digitsLength (isDigit : Char → Bool) : List Char → Nat
  | [] => 0
  | '_' :: c :: rest => if isDigit c then digitsLength isDigit (c :: rest) + 1 else 0
  | c :: rest => if isDigit c then digitsLength isDigit rest + 1 else 0

/-- The length of digits that do not start with an underscore. -/
def numeralLength (isDigit : Char → Bool) (cs : List Char) : Nat :=
  if cs.head?.any isDigit then digitsLength isDigit cs else 0

/-- The length of digits of another base behind a letter for it. -/
def basedLength (letters : List Char) (isDigit : Char → Bool) : List Char → Nat
  | '0' :: letter :: rest =>
    if letters.contains letter then
      match numeralLength isDigit rest with
      | 0 => 0
      | n => n + 2
    else 0
  | _ => 0

/-- The length of an exponent. -/
def exponentLength : List Char → Nat
  | e :: rest =>
    if e = 'e' || e = 'E' then
      let isSigned := rest.head? = some '+' || rest.head? = some '-'
      match numeralLength Char.isDigit (rest.drop (if isSigned then 1 else 0)) with
      | 0 => 0
      | n => n + 1 + (if isSigned then 1 else 0)
    else 0
  | [] => 0

/-- The length of the digits before a point: a zero, or digits with at most one zero at their
start. -/
def integralLength (cs : List Char) : Nat :=
  let leading := if cs.head? = some '0' then 1 else 0
  let rest := cs.drop leading
  match rest with
  | c :: _ => if c.isDigit && c ≠ '0' then digitsLength Char.isDigit rest + leading else leading
  | [] => leading

/-- The length of a number with a point or an exponent. -/
def fractionalLength (cs : List Char) : Nat :=
  let whole := integralLength cs
  let behind := cs.drop whole
  let isPointed := behind.head? = some '.'
  let fraction := if isPointed then numeralLength Char.isDigit (behind.drop 1) else 0
  if isPointed && (0 < whole || 0 < fraction) then
    let length := whole + 1 + fraction
    length + exponentLength (cs.drop length)
  else
    match exponentLength behind with
    | 0 => 0
    | n => if 0 < whole then whole + n else 0

/-- The length of a number without a point or an exponent; the letter `n` may follow it. -/
def integerLength (cs : List Char) : Nat :=
  let length :=
    max (numeralLength Char.isDigit cs)
      (max (basedLength ['x', 'X'] isHexDigit cs)
        (max (basedLength ['o', 'O'] isOctalDigit cs) (basedLength ['b', 'B'] isBinaryDigit cs)))
  if 0 < length && (cs.drop length).head? = some 'n' then length + 1 else length

/-- The length of a number. -/
def numberLength (cs : List Char) : Nat := max (integerLength cs) (fractionalLength cs)

/-! ## Comments -/

/-- The length of what stands before the end of a block comment, the end included; `none` if there
is no end. -/
def blockRestLength? : List Char → Option Nat
  | [] => none
  | [_] => none
  | '*' :: '/' :: _ => some 2
  | _ :: rest => (blockRestLength? rest).map (· + 1)

/-- The length of a comment. -/
def commentLength : List Char → Nat
  | '/' :: '/' :: rest => (rest.takeWhile (· ≠ '\n')).length + 2
  | '/' :: '*' :: rest =>
    match blockRestLength? rest with
    | some n => n + 2
    | none => 0
  | _ => 0

/-- The length of a comment in the style of markup, which reaches to the end of its line. -/
def markupCommentLength (cs : List Char) : Nat :=
  let isLineRest (c : Char) : Bool :=
    c ≠ '\x00' && c ≠ '\n' && c ≠ '\u2028' && c ≠ '\u2029'
  if "<!--".toList.isPrefixOf cs || "-->".toList.isPrefixOf cs then
    (cs.takeWhile isLineRest).length
  else 0

/-! ## Strings, templates and patterns -/

/-- The length of an escape in a string or template. -/
def escapeLength : List Char → Nat
  | '\\' :: 'x' :: rest => if startsWithSome 2 isHexDigit rest then 4 else 0
  | '\\' :: 'u' :: rest =>
    if startsWithSome 4 isHexDigit rest then 6
    else match bracedHexLength rest with
      | 0 => 0
      | n => n + 2
  | '\\' :: '\r' :: c :: _ => if c = '\n' || c = '\u2028' || c = '\u2029' then 3 else 2
  | '\\' :: '?' :: c :: _ => if c = '\n' || c = '\u2028' || c = '\u2029' then 3 else 2
  | '\\' :: c :: rest =>
    if isOctalDigit c then (((c :: rest).takeWhile isOctalDigit).take 3).length + 1 else 2
  | _ => 0

/-- The length of the plain characters of a string. -/
def fragmentLength (quote : Char) (cs : List Char) : Nat :=
  (cs.takeWhile fun c => c ≠ quote && c ≠ '\\' && c ≠ '\r' && c ≠ '\n').length

/-- The length of the plain characters of a template. -/
def templateFragmentLength : List Char → Nat
  | [] => 0
  | '$' :: '\x7b' :: _ => 0
  | c :: rest =>
    if c = '`' || c = '\\' || c = '\x00' then 0 else templateFragmentLength rest + 1

/-- The length of the body of a regular expression up to its closing slash; `none` if there is
none on the line. In brackets a slash stands for itself. -/
def patternLength? (inBrackets escaped : Bool) : List Char → Option Nat
  | [] => none
  | c :: rest =>
    if c = '\n' then none
    else if escaped then (patternLength? inBrackets false rest).map (· + 1)
    else if c = '\\' then (patternLength? inBrackets true rest).map (· + 1)
    else if inBrackets then (patternLength? (c ≠ ']') false rest).map (· + 1)
    else if c = '/' then some 0
    else (patternLength? (c = '[') false rest).map (· + 1)

/-! ## Marks -/

/-- The marks between names, longer ones first. -/
def marks : List String :=
  [">>>=", "...", "===", "!==", "**=", "<<=", ">>=", ">>>", "&&=", "||=", "??=",
   "=>", "==", "!=", "<=", ">=", "&&", "||", "??", "?.", "++", "--", "+=", "-=", "*=", "/=", "%=",
   "&=", "|=", "^=", "<<", ">>", "**",
   "\x7b", "\x7d", "(", ")", "[", "]", ".", ";", ",", "<", ">", "+", "-", "*", "/", "%", "&", "|",
   "^", "!", "~", "?", ":", "=", "@", "#"]

/-- The longest mark at the front of a text. -/
def markAt? (cs : List Char) : Option String := marks.find? fun m => m.toList.isPrefixOf cs

end EndpointCatalog.Cst
