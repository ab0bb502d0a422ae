/-
EndpointCatalog.Estree.Parser — JavaScript sources as ESTree trees.

A source is read as a script, and if that fails as a module. If both fail,
what is wrong with the script is reported.
-/
import EndpointCatalog.Estree.Parser.Module

namespace EndpointCatalog.Estree

/-- The grammar for sources that are nested no deeper than some depth. -/
def grammar : Nat → Grammar
  | 0 => .exhausted
  | depth + 1 =>
    let g := grammar depth
    { assignment := assignment g
      unary := unary g
      exponentiation := exponentiation g
      member := memberChain g
      call := callChain g
      pattern := pattern g
      listItem := listItem g
      statement := statement g }

/-- The depth to which sources may be nested. It is less than `deepestLiteral`: a literal that is read
can be evaluated. -/
def deepestNesting : Nat := 800

/-- The reader before the first token of a source. -/
def ParserState.ofChars (cs : List Char) : ParserState :=
  let cursor := Cursor.ofChars cs
  let start : Place := ⟨cursor.line, 0⟩
  { cursor := cursor
    ahead := ⟨.endOfInput, [], cs, cursor.line, 0, 0⟩
    start := start
    last := start
    size := cs.length + 2 }

/-- A tree, and the number of faults tolerated on the way to it. -/
structure Parsed where
  tree : Tree
  faults : Nat

/-- A program lists its faults if there are none, and says nothing of them otherwise. -/
def withoutFaults (faults : Nat) (program : Tree) : Tree :=
  match program with
  | .map entries => .map (entries ++ if faults = 0 then attributes [("errors", .list [])] else [])
  | other => other

/-- Reads a source as a script or as a module. The first token is always that of a script. -/
def parseAs (isModule : Bool) (cs : List Char) : Except Stop Parsed := do
  let read : P Tree := do
    let _ ← nextToken
    modify fun s => { s with last := s.cursor.place }
    program (grammar deepestNesting) isModule
  let (tree, s) ← read.run (ParserState.ofChars cs)
  pure ⟨withoutFaults s.cursor.faults tree, s.cursor.faults⟩

/-- Reads a source. -/
def parse (cs : List Char) : Except Stop Parsed :=
  match parseAs false cs with
  | .error .emptySubstitution => .error .emptySubstitution
  | .error stop =>
    match parseAs true cs with
    | .error .emptySubstitution => .error .emptySubstitution
    | .error _ => .error stop
    | .ok parsed => .ok parsed
  | .ok parsed => .ok parsed

end EndpointCatalog.Estree
