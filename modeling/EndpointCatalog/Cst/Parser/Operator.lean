/-
EndpointCatalog.Cst.Parser.Operator — operators between operands.

Binary operators are read by precedence with a stack of operands. A type
behind `as` or `satisfies`, and a mark that a value is there, apply to all
that stands before them in the chain.
-/
import EndpointCatalog.Cst.Parser.Operand

namespace EndpointCatalog.Cst.Parser

/-! ## Unary operators -/

/-- A type in front of a value. -/
def typeAssertion (g : Grammar) : P Node :=
  rule "type_assertion" do
    child (typeArguments g)
    child g.unary

/-- A type behind a value. -/
def typedValue (g : Grammar) (e : Node) : P (Option Node) := do
  let f ← front
  if ← endsHere then pure none
  else if f.isWord "as" then do
    let n ← ruleFrom "as_expression" (none, e) do
      keyword "as"
      if !(← acceptWord "const") then child g.type
    pure (some n)
  else if f.isWord "satisfies" then do
    let n ← ruleFrom "satisfies_expression" (none, e) do
      keyword "satisfies"
      child g.type
    pure (some n)
  else if f.isMark "!" then do
    pure (some (← chainRest g (← nonNull e)))
  else pure none

/-- What the keyword `await` waits for. -/
def awaitExpression (g : Grammar) : P Node :=
  rule "await_expression" do
    keyword "await"
    child do growing (typedValue g) (← g.unary)

/-- What the keyword `yield` gives away. -/
def yieldExpression (g : Grammar) : P Node :=
  rule "yield_expression" do
    keyword "yield"
    if !(← endsHere) then
      if ← accept "*" then child g.expression
      else optionally (child g.expression)

/-- A variable that is given up at the end of its block. -/
def usingAssignment (g : Grammar) : P Node :=
  rule "assignment_expression" do
    keyword "using"
    field "left" g.target
    mark "="
    field "right" g.expression

/-- An operator in front of an operand. -/
def prefixed (g : Grammar) (kind : String) (operator : P Unit) : P Node :=
  rule kind do
    operator
    field "argument" g.unary

/-- An operand with the operators in front of it. -/
def unary (g : Grammar) : P Node := do
  let s ← get
  match s.front with
  | .mark m =>
    if ["!", "~", "-", "+"].contains m then prefixed g "unary_expression" (mark m)
    else if ["++", "--"].contains m then prefixed g "update_expression" (mark m)
    else if m = "<" then arrowFunction g <|> typeAssertion g
    else chain g
  | .word w =>
    let text := String.ofList w
    if ["typeof", "void", "delete"].contains text then prefixed g "unary_expression" (keyword text)
    else if text = "await" then awaitExpression g
    else if text = "yield" then yieldExpression g
    else if text = "using" then usingAssignment g <|> chain g
    else chain g
  | _ => chain g

/-! ## Binary operators -/

/-- The precedences of the marks between operands. -/
def precedences : List (String × Nat) :=
  [("??", 1), ("||", 2), ("&&", 3), ("|", 4), ("^", 5), ("&", 6), ("==", 7), ("!=", 7), ("===", 7),
   ("!==", 7), ("<", 8), (">", 8), ("<=", 8), (">=", 8), ("<<", 9), (">>", 9), (">>>", 9),
   ("+", 10), ("-", 10), ("*", 11), ("/", 11), ("%", 11), ("**", 12)]

/-- The precedence of powers, which are read from the right. -/
def powerPrecedence : Nat := 12

/-- An operator between operands and its precedence. -/
def operator? (f : Front) : Option (String × Nat) :=
  match f with
  | .mark m => (precedences.lookup m).map (m, ·)
  | .word w =>
    let text := String.ofList w
    if ["in", "instanceof"].contains text then some (text, 8) else none
  | _ => none

/-- An operand that waits for the one behind its operator. -/
structure Waiting where
  left : Node
  /-- The operator and the comments on either side of it. -/
  between : List Part
  precedence : Nat

/-- Whether an operand gets its operator before another operator is looked at. -/
def Waiting.isTighter (w : Waiting) (precedence : Nat) : Bool :=
  precedence < w.precedence || (precedence = w.precedence && precedence ≠ powerPrecedence)

/-- Joins an operand with those before it, as long as their operators are tight enough. -/
def joinWhile (isTight : Waiting → Bool) (right : Node) : List Waiting → P (Node × List Waiting)
  | [] => pure (right, [])
  | w :: rest => do
    if isTight w then
      let n ← nodeOf "binary_expression" ((some "left", w.left) :: w.between ++ [(some "right", right)])
      joinWhile isTight n rest
    else pure (right, w :: rest)

/-- Reads what stands between two operands. -/
def between (operator : P Unit) : P (List Part) := do
  let outer := (← get).parts
  modify fun s => { s with parts := [] }
  operator
  flush
  let s ← get
  set { s with parts := outer }
  pure s.parts.reverse

/-- Reads the operator that comes next. -/
def readOperator (f : Front) (text : String) : P Unit :=
  match f with
  | .word _ => keyword text
  | _ => mark text

/-- The operand read last, and those that wait. -/
abbrev Operands := Node × List Waiting

/-- Applies a type or a mark to the operands read so far: to all of them, but only to the last one
behind the operator of a power. -/
def typedOperands (g : Grammar) (found : Operands) : P (Option Operands) := do
  let isPower := found.2.head?.any fun w => w.precedence = powerPrecedence
  let (whole, waiting) ← joinWhile (fun _ => !isPower) found.1 found.2
  match ← typedValue g whole with
  | some n => pure (some (n, waiting))
  | none => pure none

/-- Reads an operator and the operand behind it. -/
def nextOperand (g : Grammar) (found : Operands) : P (Option Operands) := do
  if ← endsHere then pure none
  else
    let f ← front
    match operator? f with
    | some (text, precedence) => do
      let (left, waiting) ← joinWhile (·.isTighter precedence) found.1 found.2
      let between ← between (readOperator f text)
      let right ← unary g
      pure (some (right, ⟨left, between, precedence⟩ :: waiting))
    | none =>
      if f.isMark "!" || f.isWordIn ["as", "satisfies"] then typedOperands g found else pure none

/-- Reads operators and operands as long as there are any. -/
def operandsUpTo (g : Grammar) : Nat → Operands → P Operands
  | 0, _ => failure
  | bound + 1, found => do
    match ← nextOperand g found with
    | some next => operandsUpTo g bound next
    | none => pure found

/-- Operands with operators between them. -/
def binaryChain (g : Grammar) : P Node := do
  let first ← unary g
  let found ← operandsUpTo g ((← get).size + 2) (first, [])
  let (whole, _) ← joinWhile (fun _ => true) found.1 found.2
  pure whole

/-! ## Choices -/

/-- Whether a question mark starts a choice. -/
def startsChoice (s : ReaderState) : Bool :=
  s.front.isMark "?" &&
    !((s.next.rest.drop 1).dropWhile isSpace).head?.any fun c => c == ':' || c == ')' || c == ','

/-- Reads what stands before the colon of a choice. -/
def beforeColon (p : P Node) : P Node :=
  enclosed do
    modify fun s => { s with beforeColon := true }
    p

/-- A choice whose first outcome is read by `consequence`. -/
def choiceWith (g : Grammar) (test : Node) (consequence : P Node) : P Node :=
  ruleFrom "ternary_expression" (some "condition", test) do
    mark "?"
    field "consequence" consequence
    mark ":"
    field "alternative" g.expression

/-- An expression without commas. -/
def expression (g : Grammar) : P Node := do
  let test ← binaryChain g
  if startsChoice (← get) && !(← endsHere) then
    choiceWith g test (beforeColon g.expression) <|> choiceWith g test (enclosed g.expression)
  else pure test

end EndpointCatalog.Cst.Parser
