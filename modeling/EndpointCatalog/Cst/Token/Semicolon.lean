/-
EndpointCatalog.Cst.Token.Semicolon — where a semicolon may be left out.

A semicolon is inserted at the end of the source, before a closing brace,
and at the end of a line unless what follows goes on with the statement.
-/
import EndpointCatalog.Cst.Token.Extent

namespace EndpointCatalog.Cst

/-- What may follow where a semicolon may be left out. -/
structure SemicolonContext where
  /-- Whether an operator may follow. -/
  inExpression : Bool := true
  /-- Whether the body of a function may follow. -/
  inSignature : Bool := false
deriving DecidableEq, Repr

/-- What a scan over the lines between two tokens stands in. -/
inductive GapPart where
  | blanks
  | lineComment
  | blockComment
deriving DecidableEq, Repr

/-- The text behind blanks and comments; `none` if a slash starts no comment. Comments need no
end. -/
def behindGap? (skip : Nat) (part : GapPart) : List Char → Option (List Char)
  | [] => some []
  | c :: rest =>
    if 0 < skip then behindGap? (skip - 1) part rest
    else
      match part with
      | .lineComment => behindGap? 0 (if c = '\n' then .blanks else .lineComment) rest
      | .blockComment =>
        if c = '*' && rest.head? = some '/' then behindGap? 1 .blanks rest
        else behindGap? 0 .blockComment rest
      | .blanks =>
        if isSpace c then behindGap? 0 .blanks rest
        else if c ≠ '/' then some (c :: rest)
        else if rest.head? = some '/' then behindGap? 1 .lineComment rest
        else if rest.head? = some '*' then behindGap? 1 .blockComment rest
        else none

/-- Whether a character is a letter. -/
def isLetter (c : Char) : Bool := c.isAlpha || 0x7F < c.toNat

/-- Whether a word goes on with the statement: `in` or `instanceof`. -/
def isOperatorWord (cs : List Char) : Bool :=
  match cs with
  | 'i' :: 'n' :: rest =>
    let tail := "stanceof".toList
    if !(rest.head?.any isLetter) then true
    else tail.isPrefixOf rest && !((rest.drop tail.length).head?.any isLetter)
  | _ => false

/-- Marks at the start of a line that go on with the statement before them. -/
def continuingMarks : List Char :=
  ['`', ',', '.', ';', '*', '%', '>', '<', '=', '?', '^', '|', '&', '/', ':']

/-- Whether a new statement starts with what follows the end of a line. -/
def startsStatement (context : SemicolonContext) (cs : List Char) : Bool :=
  match cs with
  | [] => true
  | c :: rest =>
    if continuingMarks.contains c then false
    else if c = '\x7b' then !context.inSignature
    else if c = '(' || c = '[' then !context.inExpression
    else if c = '+' || c = '-' then rest.head? = some c
    else if c = '!' then rest.head? ≠ some '='
    else !isOperatorWord cs

/-- Whether a semicolon may be left out at the front of a text. -/
def mayOmitSemicolon (context : SemicolonContext) : List Char → Bool
  | [] => true
  | c :: rest =>
    if c = '\x00' then true
    else if c = '\x7d' then
      if (rest.dropWhile isSpace).head? = some ':' then context.inExpression else true
    else if c = '\n' then
      match behindGap? 0 .blanks rest with
      | none => false
      | some after => startsStatement context after
    else if isSpace c then mayOmitSemicolon context rest
    else false

end EndpointCatalog.Cst
