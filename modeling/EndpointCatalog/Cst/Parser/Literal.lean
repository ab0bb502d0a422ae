/-
EndpointCatalog.Cst.Parser.Literal — names, strings, templates and patterns.

Within a string or template nothing is a blank or a comment, so their parts
are read right behind each other.
-/
import EndpointCatalog.Cst.Parser.State

namespace EndpointCatalog.Cst.Parser

/-! ## Names -/

/-- A plain name. -/
def identifier : P Node := word "identifier"

/-- The name of a type. -/
def typeIdentifier : P Node := word "type_identifier"

/-- A name with a number sign. -/
def privateName : P Node := do
  let rest := (← get).next.rest
  guard (rest.head? = some '#')
  match nameLength (rest.drop 1) with
  | 0 => failure
  | n => leaf (n + 1) "private_property_identifier" true

/-- The name of a member behind a point. -/
def memberName : P Node := do
  if (← front).isMark "#" then privateName else word "property_identifier"

/-! ## Numbers and strings -/

/-- A number. -/
def number : P Node := do
  guard ((← front) = .number)
  leaf (numberLength (← get).next.rest) "number" true

/-- Reads the plain characters or the escape that come next in a string or template. -/
def fragment (plainLength : List Char → Nat) : P Bool := do
  let rest := (← get).behind.rest
  if 0 < escapeLength rest then do
    child (immediate (escapeLength rest) "escape_sequence" true)
    pure true
  else if 0 < plainLength rest then do
    child (immediate (plainLength rest) "string_fragment" true)
    pure true
  else pure false

/-- The quote that closes a string; blanks that are not part of it may stand before it. -/
def closingQuote (quote : Char) : P Unit := do
  let s ← get
  if s.behind.rest.head? = some quote then
    push none (← immediate 1 (String.singleton quote) false)
  else do
    guard (s.next.rest.head? = some quote)
    anonymous (String.singleton quote)

/-- A string. -/
def string : P Node := do
  guard ((← front) = .quote)
  let quote := (← get).next.rest.headD '"'
  rule "string" do
    anonymous (String.singleton quote)
    repeating (fragment (fragmentLength quote))
    closingQuote quote

/-! ## Templates -/

/-- Reads a mark that stands right behind the last token. -/
def immediateMark (text : String) : P Unit := do
  guard (text.toList.isPrefixOf (← get).behind.rest)
  push none (← immediate text.length text false)

/-- What is filled into a template between a dollar sign with a brace and a closing brace. -/
def substitution (kind : String) (content : P Node) : P Node :=
  rule kind do
    immediateMark "$\x7b"
    enclosed (child content)
    mark "\x7d"

/-- A template whose substitutions are read by `content`. -/
def template (kind substitutionKind : String) (content : P Node) : P Node := do
  guard ((← front) = .backtick)
  rule kind do
    anonymous "`"
    repeating do
      if ← fragment templateFragmentLength then pure true
      else if "$\x7b".toList.isPrefixOf (← get).behind.rest then do
        child (substitution substitutionKind content)
        pure true
      else pure false
    immediateMark "`"

/-! ## Regular expressions -/

/-- A regular expression. -/
def regex : P Node :=
  rule "regex" do
    opening "/"
    match patternLength? false false (← get).behind.rest with
    | none => failure
    | some n => do
      guard (0 < n)
      field "pattern" (immediate n "regex_pattern" true)
      immediateMark "/"
      let flags := (← get).behind.rest.takeWhile fun c => 'a' ≤ c && c ≤ 'z'
      if !flags.isEmpty then field "flags" (immediate flags.length "regex_flags" true)

/-! ## Keys -/

/-- A key in brackets. -/
def computedName (g : Grammar) : P Node :=
  rule "computed_property_name" do
    mark "["
    enclosed (child g.expression)
    mark "]"

/-- The name of a property. -/
def propertyName (g : Grammar) : P Node := do
  match ← front with
  | .word _ => word "property_identifier"
  | .quote => string
  | .number => number
  | .mark "[" => computedName g
  | .mark "#" => privateName
  | _ => failure

/-- Whether the name of a property comes next. -/
def atPropertyName : P Bool := do
  match ← front with
  | .word _ => pure true
  | .quote => pure true
  | .number => pure true
  | .mark m => pure (m == "[" || m == "#")
  | _ => pure false

end EndpointCatalog.Cst.Parser
