/-
EndpointCatalog.Cst.Parser.State — what is known while a typed script is read.

A reader may fail, and then another one is tried at the same place. Nodes
are built from the inside: a reader adds the children that it finds to the
node that is being read. Comments go to the innermost node that is open
both before and behind them.

The number of tokens that may be read in all is bounded, and failed
attempts count.
-/
import EndpointCatalog.Cst.Node
import EndpointCatalog.Cst.Token.Semicolon

namespace EndpointCatalog.Cst.Parser

/-! ## Places -/

/-- A place in the source. -/
structure Spot where
  rest : List Char
  index : Nat := 0
  row : Nat := 0

/-- The place behind some characters. -/
def Spot.advance (spot : Spot) (count : Nat) : Spot :=
  { rest := spot.rest.drop count
    index := spot.index + count
    row := spot.row + (spot.rest.take count).count '\n' }

/-- A node without children, over some characters. -/
def Spot.leaf (spot : Spot) (count : Nat) (kind : String) (isNamed : Bool) : Node :=
  .mk ⟨kind, isNamed, false, spot.index, spot.index + count, spot.row⟩ []

/-- Passes blanks. -/
def Spot.skipBlanks (spot : Spot) : Spot :=
  spot.advance (spot.rest.takeWhile isBlank).length

/-- A comment and the place behind it. -/
abbrev Passed := Node × Spot

/-- The comments in front of the next token, and the place of the token. -/
def Spot.comments : Nat → Spot → List Passed × Spot
  | 0, spot => ([], spot)
  | bound + 1, spot =>
    let spot := spot.skipBlanks
    match commentLength spot.rest with
    | 0 => ([], spot)
    | n =>
      let after := spot.advance n
      let (more, next) := comments bound after
      ((spot.leaf n "comment" true, after) :: more, next)

/-! ## Tokens -/

/-- What comes next, as far as its first characters tell. -/
inductive Front where
  | word (text : List Char)
  | number
  | mark (text : String)
  | quote
  | backtick
  | nothing
  | unknown
deriving DecidableEq, Repr

/-- What a text starts with. -/
def Front.ofChars (cs : List Char) : Front :=
  match cs with
  | [] => .nothing
  | c :: _ =>
    if c = '"' || c = '\'' then .quote
    else if c = '`' then .backtick
    else if 0 < numberLength cs then .number
    else match markAt? cs with
      | some m => .mark m
      | none =>
        match nameLength cs with
        | 0 => .unknown
        | n => .word (cs.take n)

/-- Whether a certain word comes next. -/
def Front.isWord (front : Front) (text : String) : Bool :=
  match front with
  | .word w => w == text.toList
  | _ => false

/-- Whether one of some words comes next. -/
def Front.isWordIn (front : Front) (texts : List String) : Bool := texts.any front.isWord

/-- Whether a certain mark comes next. -/
def Front.isMark (front : Front) (text : String) : Bool :=
  match front with
  | .mark m => m == text
  | _ => false

/-- Whether one of some marks comes next. -/
def Front.isMarkIn (front : Front) (texts : List String) : Bool := texts.any front.isMark

/-! ## Readers -/

/-- A child and the field that it stands under. -/
abbrev Part := Option String × Node

/-- The state of the reader. -/
structure ReaderState where
  /-- Behind the last token. -/
  behind : Spot
  /-- Comments in front of the next token. -/
  passed : List Passed := []
  /-- At the next token. -/
  next : Spot
  front : Front
  /-- Children of the node that is being read, last first. -/
  parts : List Part := []
  /-- Whether the expression that is being read may end where a semicolon is left out. -/
  mayEnd : Bool := false
  /-- Whether the expression that is being read stands before the colon of a choice. -/
  beforeColon : Bool := false
  /-- Bound on the number of comments in front of a token. -/
  size : Nat

/-- A reader of a part of a typed script; the number of tokens that may still be read stays changed
when a reader fails. -/
abbrev P := StateT ReaderState (OptionT (StateM Nat))

/-- The state behind a place. -/
def ReaderState.moveTo (s : ReaderState) (spot : Spot) : ReaderState :=
  let (passed, next) := spot.comments s.size
  { s with behind := spot, passed := passed, next := next, front := Front.ofChars next.rest }

/-- What comes next. -/
def front : P Front := do pure (← get).front

/-- Takes one off the number of tokens that may still be read. -/
def countToken : P Unit := do
  let left ← (getThe Nat : OptionT (StateM Nat) Nat)
  if left = 0 then failure
  else (set (left - 1) : OptionT (StateM Nat) Unit)

/-- Adds a child to the node that is being read. -/
def push (field : Option String) (n : Node) : P Unit :=
  modify fun s => { s with parts := (field, n) :: s.parts }

/-- Adds the comments in front of the next token to the node that is being read. -/
def flush : P Unit :=
  modify fun s =>
    { s with parts := (s.passed.map fun p => (none, p.1)).reverse ++ s.parts, passed := [] }

/-- Reads the next characters as a node without children. -/
def leaf (count : Nat) (kind : String) (isNamed : Bool) : P Node := do
  countToken
  flush
  let s ← get
  set (s.moveTo (s.next.advance count))
  pure (s.next.leaf count kind isNamed)

/-- Reads characters that stand right behind the last token as a node without children. -/
def immediate (count : Nat) (kind : String) (isNamed : Bool) : P Node := do
  countToken
  let s ← get
  set (s.moveTo (s.behind.advance count))
  pure (s.behind.leaf count kind isNamed)

/-- Reads a mark or keyword of known length and adds it. -/
def anonymous (text : String) : P Unit := do push none (← leaf text.length text false)

/-- Reads a mark, which must come next. -/
def mark (text : String) : P Unit := do
  guard ((← front).isMark text)
  anonymous text

/-- Reads a mark if it comes next. -/
def accept (text : String) : P Bool := do
  if (← front).isMark text then do
    anonymous text
    pure true
  else pure false

/-- Reads characters that must come next, also if a longer mark starts with them. -/
def opening (text : String) : P Unit := do
  guard (text.toList.isPrefixOf (← get).next.rest)
  anonymous text

/-- Reads a keyword, which must come next. -/
def keyword (text : String) : P Unit := do
  guard ((← front).isWord text)
  anonymous text

/-- Reads a keyword if it comes next. -/
def acceptWord (text : String) : P Bool := do
  if (← front).isWord text then do
    anonymous text
    pure true
  else pure false

/-- Reads a word as a node of a kind. -/
def word (kind : String) : P Node := do
  match ← front with
  | .word text => leaf text.length kind true
  | _ => failure

/-! ## Nodes -/

/-- The node of a kind with some children. -/
def nodeOf (kind : String) (parts : List Part) : P Node :=
  match parts, parts.getLast? with
  | (_, first) :: _, some (_, last) =>
    pure (.mk ⟨kind, true, false, first.label.start, last.label.stop, first.label.row⟩ parts)
  | _, _ => failure

/-- Reads the children of a node, behind some that are known. -/
def collect (kind : String) (known : List Part) (body : P Unit) : P Node := do
  let outer := (← get).parts
  modify fun s => { s with parts := known }
  body
  let s ← get
  set { s with parts := outer }
  nodeOf kind s.parts.reverse

/-- Reads a node of a kind with the children that `body` adds. -/
def rule (kind : String) (body : P Unit) : P Node := do
  flush
  collect kind [] body

/-- Reads a node whose first child has been read. -/
def ruleFrom (kind : String) (first : Part) (body : P Unit) : P Node := collect kind [first] body

/-- Reads a child. -/
def child (p : P Node) : P Unit := do push none (← p)

/-- Reads a child under a field. -/
def field (name : String) (p : P Node) : P Unit := do push (some name) (← p)

/-! ## Repetition -/

/-- Repeats a step as long as it says that there is more. -/
def repeatUpTo (step : P Bool) : Nat → P Unit
  | 0 => failure
  | bound + 1 => do
    if ← step then repeatUpTo step bound else pure ()

/-- Repeats a step as long as it says that there is more. -/
def repeating (step : P Bool) : P Unit := do repeatUpTo step ((← get).size + 2)

/-- Reads items as long as they can be read. -/
def many (item : P Unit) : P Unit := repeating ((do item; pure true) <|> pure false)

/-- Replaces a node step by step until there is no more to do. -/
def growUpTo (step : Node → P (Option Node)) : Nat → Node → P Node
  | 0, _ => failure
  | bound + 1, n => do
    match ← step n with
    | none => pure n
    | some next => growUpTo step bound next

/-- Replaces a node step by step until there is no more to do. -/
def growing (step : Node → P (Option Node)) (n : Node) : P Node := do
  growUpTo step ((← get).size + 2) n

/-- Reads an item if that is possible. -/
def optionally (item : P Unit) : P Unit := item <|> pure ()

/-- Whether a reader would succeed here. -/
def ahead {α : Type} (p : P α) : P Bool := do
  let s ← get
  (do
    let _ ← p
    set s
    pure true) <|> pure false

/-! ## Semicolons -/

/-- The end of a statement whose semicolon is left out: the comments that still belong to it, the
place of its end, and the comments behind it. -/
def omitted? (context : SemicolonContext) (spot : Spot) :
    List Passed → Option (List Node × Spot × List Passed)
  | [] => if mayOmitSemicolon context spot.rest then some ([], spot, []) else none
  | (comment, after) :: rest =>
    if mayOmitSemicolon context spot.rest then some ([], spot, (comment, after) :: rest)
    else (omitted? context after rest).map fun (inner, last, outer) => (comment :: inner, last, outer)

/-- Whether a semicolon may be left out here. -/
def atOmission (context : SemicolonContext) : P Bool := do
  let s ← get
  pure (omitted? context s.behind s.passed).isSome

/-- Passes a semicolon that is left out. -/
def omission (context : SemicolonContext) : P Unit := do
  let s ← get
  match omitted? context s.behind s.passed with
  | none => failure
  | some (inner, last, outer) =>
    set { s with
      parts := (inner.map fun n => ((none : Option String), n)).reverse ++ s.parts
      behind := last
      passed := outer }

/-- Reads the end of a statement. -/
def semicolon (context : SemicolonContext) : P Unit := omission context <|> mark ";"

/-- Passes a semicolon that is left out, if there may be one. -/
def optionalOmission : P Unit := optionally (omission {})

/-- Whether the expression that is being read ends here. -/
def endsHere : P Bool := do
  if (← get).mayEnd then atOmission {} else pure false

/-- Reads a part with a different answer to whether it may end where a semicolon is left out. -/
def ending {α : Type} (mayEnd : Bool) (p : P α) : P α := do
  let s ← get
  set { s with mayEnd := mayEnd, beforeColon := false }
  let result ← p
  modify fun after => { after with mayEnd := s.mayEnd, beforeColon := s.beforeColon }
  pure result

/-- Reads a part that brackets or other marks close. -/
def enclosed {α : Type} (p : P α) : P α := ending false p

/-! ## Lists -/

/-- Reads one or more items with commas between them. -/
def commaSeparated (item : P Unit) : P Unit := do
  item
  repeating do
    if ← accept "," then do
      item
      pure true
    else pure false

/-- Reads items with commas between them up to a closing mark; an item may be left out. -/
def looseList (close : String) (item : P Unit) : P Unit := do
  repeating do
    if (← front).isMark close then pure false
    else if ← accept "," then pure true
    else do
      item
      if (← front).isMark close then pure false
      else do
        mark ","
        pure true
  mark close

/-- Reads items with commas between them up to a closing mark, and perhaps a comma behind them. -/
def strictList (close : String) (item : P Unit) : P Unit := do
  repeating do
    if (← front).isMark close then pure false
    else do
      item
      if (← front).isMark close then pure false
      else do
        mark ","
        pure true
  mark close

/-! ## Circles -/

/-- The readers that are called in circles. -/
structure Grammar where
  expression : P Node
  unary : P Node
  statement : P Node
  type : P Node
  primaryType : P Node
  target : P Node

/-- The grammar at the greatest depth, where all reading fails. -/
def Grammar.exhausted : Grammar where
  expression := failure
  unary := failure
  statement := failure
  type := failure
  primaryType := failure
  target := failure

end EndpointCatalog.Cst.Parser
