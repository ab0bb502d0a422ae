/-
EndpointCatalog.Cst.Parser — typed scripts as concrete syntax trees.

A source that is malformed has a tree as well: what does not parse is an
error node, which starts where the first malformed statement starts.
-/
import EndpointCatalog.Cst.Parser.Declaration

namespace EndpointCatalog.Cst

open EndpointCatalog.Cst.Parser

/-- The grammar for sources that are nested no deeper than some depth. -/
def grammar : Nat → Grammar
  | 0 => .exhausted
  | depth + 1 =>
    let g := grammar depth
    { expression := expression g
      unary := unary g
      statement := statement g
      type := type g
      primaryType := primaryType g
      target := target g }

/-- The depth to which a source of some length may be nested. -/
def depthFor (length : Nat) : Nat := min (2 * length + 8) 30000

/-- The number of tokens that may be read for a source of some length, repetitions included. -/
def tokensFor (length : Nat) : Nat := 60 * length + 20000

/-- The reader at the start of a source. -/
def ReaderState.ofChars (cs : List Char) : ReaderState :=
  let start : Spot := { rest := cs }
  let s : ReaderState := { behind := start, next := start, front := .nothing, size := cs.length + 1 }
  s.moveTo start

/-- What a reader finds in a source. -/
def readAll? {α : Type} (cs : List Char) (reader : Grammar → P α) : Option α :=
  let p := reader (grammar (depthFor cs.length))
  (((p.run (ReaderState.ofChars cs)).run).run (tokensFor cs.length)).1.map Prod.fst

/-- The tree of a source that is malformed from a place on. -/
def malformed (spot : Spot) : Node :=
  let label : Label :=
    { kind := Node.errorKind
      start := spot.index
      stop := spot.index + spot.rest.length
      row := spot.row }
  .mk { label with kind := "program" } [(none, .mk label [])]

/-- The tree of a source. -/
def parse (cs : List Char) : Node :=
  match readAll? cs program with
  | some tree => tree
  | none => malformed ((readAll? cs wellFormedPart).getD { rest := cs })

end EndpointCatalog.Cst
