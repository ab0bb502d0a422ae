/-
EndpointCatalog.Estree.Parser.State — what is known while a script is read.

The reader looks one token ahead. It keeps the place where that token
starts, the place where the last token read has ended, and the context that
decides what is allowed.

Readers that call each other in circles get what they call from a `Grammar`,
which is unrolled to the depth up to which scripts may be nested.
-/
import EndpointCatalog.Estree.Node
import EndpointCatalog.Estree.Token.Lexer

namespace EndpointCatalog.Estree

/-- What is allowed where the reader stands. -/
structure Context where
  isModule : Bool := false
  await : Bool := false
  allowIn : Bool := true
  allowStrictDirective : Bool := true
  allowYield : Bool := true
  /-- An initializer in an object that is only allowed if the object is a pattern. -/
  coverInitializer : Option Token := none
  isAssignmentTarget : Bool := false
  isBindingElement : Bool := false
  inFunctionBody : Bool := false
  inIteration : Bool := false
  inSwitch : Bool := false
  labels : List Text := []
  strict : Bool := false

/-- The state of the reader. -/
structure ParserState where
  /-- Behind the token ahead. -/
  cursor : Cursor
  /-- The token ahead. -/
  ahead : Token
  /-- Whether a line ends before the token ahead. -/
  newline : Bool := false
  /-- Where the token ahead starts. -/
  start : Place
  /-- Where the last token read has ended. -/
  last : Place
  context : Context := {}
  /-- Bound on the number of tokens that are left. -/
  size : Nat

/-- A reader of a part of a script. -/
abbrev P := StateT ParserState (Except Stop)

/-! ## Faults -/

/-- Stops the reading. -/
def stop {α : Type} (s : Stop) : P α := throw s

/-- Stops at the place where the last token ended. -/
def failHere {α : Type} (fault : SyntaxFault) : P α := do
  stop (.malformed (← get).last.line.toNat fault)

/-- Tolerates a fault. -/
def tolerate : P Unit :=
  modify fun s => { s with cursor := { s.cursor with faults := s.cursor.faults + 1 } }

/-- Tolerates a fault if a condition holds. -/
def tolerateIf (condition : Bool) : P Unit := if condition then tolerate else pure ()

/-- What is shown of a token that was not expected. -/
def shownToken (t : Token) : Text :=
  match t.lexeme with
  | .mark m => Text.ofString m
  | .number value _ => Text.ofString (keySpelling (Tree.ofLiteral value))
  | .string value _ => value
  | .template part => Text.ofChars part.raw
  | _ => t.wordText

/-- The fault of a token that was not expected. -/
def unexpectedFault (strict : Bool) (t : Token) : SyntaxFault :=
  match t.lexeme with
  | .endOfInput => .unexpectedEnd
  | .name _ => .unexpectedName
  | .number _ _ => .unexpectedNumber
  | .string _ _ => .unexpectedString
  | .template _ => .unexpectedQuasi (shownToken t)
  | .keyword text =>
    if isOneOf futureReserved text then .unexpectedReserved
    else if strict && isOneOf strictReserved text then .strictReserved
    else .unexpected text
  | _ => .unexpected (shownToken t)

/-- Stops at a token that was not expected. -/
def failAt {α : Type} (t : Token) : P α := do
  stop (.malformed t.line (unexpectedFault (← get).context.strict t))

/-! ## Tokens -/

/-- The place where the cursor stands. -/
def Cursor.place (c : Cursor) : Place := ⟨c.line, (c.index : Int) - c.lineStart⟩

/-- In strict code some names are keywords. -/
def strictToken (strict : Bool) (t : Token) : Token :=
  match t.lexeme with
  | .name text =>
    if strict && isOneOf strictReserved text then { t with lexeme := .keyword text } else t
  | _ => t

/-- Reads the token ahead and looks at the next one. -/
def nextToken : P Token := do
  let s ← get
  let cursor := s.cursor.skipTrivia s.context.isModule
  let (found, after) ← liftM cursor.token
  set { s with
    cursor := after
    ahead := strictToken s.context.strict found
    newline := s.ahead.line != found.line
    start := cursor.place
    last := s.cursor.place }
  pure s.ahead

/-- The token ahead. -/
def ahead : P Token := do pure (← get).ahead

/-- The context. -/
def context : P Context := do pure (← get).context

/-- Changes the context. -/
def modifyContext (f : Context → Context) : P Unit :=
  modify fun s => { s with context := f s.context }

/-- Whether a mark comes next. -/
def atMark (text : String) : P Bool := do pure ((← ahead).isMark text)

/-- Whether one of some marks comes next. -/
def atMarkIn (marks : List String) : P Bool := do pure ((← ahead).isMarkIn marks)

/-- Whether a keyword comes next. -/
def atKeyword (text : String) : P Bool := do pure ((← ahead).isKeyword text)

/-- Whether one of some keywords comes next. -/
def atKeywordIn (texts : List String) : P Bool := do pure ((← ahead).isKeywordIn texts)

/-- Whether a certain name comes next. -/
def atNamed (text : String) : P Bool := do pure ((← ahead).isNamed text)

/-- Reads a mark, which must come next. -/
def expect (text : String) : P Unit := do
  let t ← nextToken
  if t.isMark text then pure () else failAt t

/-- Reads a keyword, which must come next. -/
def expectKeyword (text : String) : P Unit := do
  let t ← nextToken
  if t.isKeyword text then pure () else failAt t

/-- Reads a mark if it comes next. -/
def acceptMark (text : String) : P Bool := do
  if ← atMark text then do
    let _ ← nextToken
    pure true
  else pure false

/-- Reads a keyword if it comes next. -/
def acceptKeyword (text : String) : P Bool := do
  if ← atKeyword text then do
    let _ ← nextToken
    pure true
  else pure false

/-- Reads a comma; a semicolon in its place, or nothing, is a tolerated fault. -/
def expectComma : P Unit := do
  if ← acceptMark "," then pure ()
  else if ← acceptMark ";" then tolerate
  else tolerate

/-- Reads the end of a statement: a semicolon, or nothing before a closing brace, at the end of a
line or of the script. -/
def endStatement : P Unit := do
  if ← acceptMark ";" then pure ()
  else do
    let s ← get
    if s.newline then pure ()
    else if s.ahead.isEnd || s.ahead.isMark "\x7d" then set { s with last := s.start }
    else failAt s.ahead

/-- Marks that assign. -/
def assignmentMarks : List String :=
  ["=", "*=", "**=", "/=", "%=", "+=", "-=", "<<=", ">>=", ">>>=", "&=", "^=", "|="]

/-- The token behind the token ahead. What it does to the open braces stays done. -/
def peekBehind : P Token := do
  let s ← get
  let cursor := s.cursor.skipTrivia s.context.isModule
  let (found, after) ← liftM cursor.token
  set { s with cursor := { s.cursor with braces := after.braces, faults := after.faults } }
  pure found

/-! ## Places -/

/-- Where the token ahead starts. -/
def here : P Place := do pure (← get).start

/-- Where a token starts. A token that ends on a later line than it starts has its column
counted from the start of the last line but one, if that is known. -/
def placeOf (t : Token) (previousLineStart : Nat) : Place :=
  let column := (t.start : Int) - t.lineStart
  if column < 0 then ⟨(t.line : Int) - 1, column + previousLineStart⟩ else ⟨t.line, column⟩

/-- Gives a node its place: from `start` to the end of the last token read. -/
def finish (start : Place) (n : Tree) : P Tree := do pure (located n start (← get).last)

/-- Gives a node its place from the start of a token. -/
def finishFrom (t : Token) (n : Tree) : P Tree := finish (placeOf t 0) n

/-! ## Covers -/

/-- Neither a target of assignments nor a binding. -/
def notTarget : P Unit :=
  modifyContext fun c => { c with isAssignmentTarget := false, isBindingElement := false }

/-- Reads an expression that may be a pattern for itself, whatever it is part of. -/
def isolated {α : Type} (p : P α) : P α := do
  let outer ← context
  modifyContext fun c =>
    { c with isBindingElement := true, isAssignmentTarget := true, coverInitializer := none }
  let result ← p
  match (← context).coverInitializer with
  | some t => failAt t
  | none => do
    modifyContext fun c =>
      { c with
        isBindingElement := outer.isBindingElement
        isAssignmentTarget := outer.isAssignmentTarget
        coverInitializer := outer.coverInitializer }
    pure result

/-- Reads an expression that may be a pattern as far as what it is part of may be one. -/
def inherited {α : Type} (p : P α) : P α := do
  let outer ← context
  modifyContext fun c =>
    { c with isBindingElement := true, isAssignmentTarget := true, coverInitializer := none }
  let result ← p
  modifyContext fun c =>
    { c with
      isBindingElement := c.isBindingElement && outer.isBindingElement
      isAssignmentTarget := c.isAssignmentTarget && outer.isAssignmentTarget
      coverInitializer := outer.coverInitializer.or c.coverInitializer }
  pure result

/-! ## Repetition -/

/-- Repeats a step until it gives a result; the bound is never met by a step that reads tokens. -/
def repeatUpTo {α β : Type} (step : α → P (α ⊕ β)) : Nat → α → P β
  | 0, _ => stop .tooDeep
  | bound + 1, x => do
    match ← step x with
    | .inl next => repeatUpTo step bound next
    | .inr result => pure result

/-- Repeats a step until it gives a result. -/
def repeating {α β : Type} (start : α) (step : α → P (α ⊕ β)) : P β := do
  repeatUpTo step (← get).size start

/-- Reads items until a condition holds before one. -/
def readUntil {α : Type} (isDone : P Bool) (item : P α) : P (List α) := do
  let found ← repeating ([] : List α) fun found => do
    if ← isDone then pure (.inr found)
    else do
      let x ← item
      pure (.inl (x :: found))
  pure found.reverse

/-! ## Circles -/

/-- How a variable is declared. -/
inductive Declaring where
  | parameter
  | variable
  | letVariable
  | constant
deriving DecidableEq, Repr

/-- The readers that are called in circles. -/
structure Grammar where
  assignment : P Tree
  unary : P Tree
  exponentiation : P Tree
  member : P Tree
  call : P Tree
  /-- A binding pattern, with the tokens of the names that it binds. -/
  pattern : Declaring → P (Tree × List Token)
  listItem : P Tree
  statement : P Tree

/-- The grammar at the greatest depth, where all reading stops. -/
def Grammar.exhausted : Grammar where
  assignment := stop .tooDeep
  unary := stop .tooDeep
  exponentiation := stop .tooDeep
  member := stop .tooDeep
  call := stop .tooDeep
  pattern := fun _ => stop .tooDeep
  listItem := stop .tooDeep
  statement := stop .tooDeep

end EndpointCatalog.Estree
