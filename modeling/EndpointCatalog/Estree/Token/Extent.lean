/-
EndpointCatalog.Estree.Token.Extent — how far a scan has come.

Scans walk over the characters ahead and count them, the lines that end
among them, and the faults that are tolerated.
-/
import EndpointCatalog.Estree.Fault
import EndpointCatalog.Estree.Token

namespace EndpointCatalog.Estree

/-- How far a scan has come from where it started. -/
structure Extent where
  /-- Characters passed. -/
  taken : Nat := 0
  /-- Lines ended. -/
  lines : Nat := 0
  /-- Characters passed when the last line ended. -/
  lineOffset : Option Nat := none
  /-- Faults tolerated. -/
  faults : Nat := 0
deriving DecidableEq, Repr

namespace Extent

/-- Passes some characters of a line. -/
def pass (e : Extent) (count : Nat) : Extent := { e with taken := e.taken + count }

/-- Passes some characters that end a line. -/
def endLine (e : Extent) (count : Nat) : Extent :=
  { e with taken := e.taken + count, lines := e.lines + 1, lineOffset := some (e.taken + count) }

/-- Tolerates a fault. -/
def tolerate (e : Extent) : Extent := { e with faults := e.faults + 1 }

end Extent

/-- A fault of a scan, with the lines that ended before it. -/
abbrev ScanFault := Nat × SyntaxFault

/-! ## Blanks and comments -/

/-- What a scan of blanks is inside of. -/
inductive Trivia where
  | blank
  | lineComment
  | blockComment
deriving DecidableEq, Repr

/-- Passes blanks and comments. `fresh` tells whether nothing but blanks and comments is known to
stand before on the line; then an arrow starts a comment too. `skip` counts the characters already
passed. -/
def scanTrivia (inModule : Bool) (mode : Trivia) (fresh : Bool) (skip : Nat) (e : Extent) :
    List Char → Extent
  | [] =>
    match mode with
    | .blockComment => e.tolerate
    | _ => e
  | c :: rest =>
    match skip with
    | skip + 1 => scanTrivia inModule mode fresh skip e rest
    | 0 =>
      let isBreak := isLineEnd c
      let width := if c = '\r' ∧ rest.head? = some '\n' then 2 else 1
      match mode with
      | .lineComment =>
        if isBreak then scanTrivia inModule .blank fresh (width - 1) (e.endLine width) rest
        else scanTrivia inModule .lineComment fresh 0 (e.pass 1) rest
      | .blockComment =>
        if isBreak then scanTrivia inModule .blockComment fresh (width - 1) (e.endLine width) rest
        else if c = '*' ∧ rest.head? = some '/' then
          scanTrivia inModule .blank fresh 1 (e.pass 2) rest
        else scanTrivia inModule .blockComment fresh 0 (e.pass 1) rest
      | .blank =>
        if isBlankChar c then scanTrivia inModule .blank fresh 0 (e.pass 1) rest
        else if isBreak then scanTrivia inModule .blank true (width - 1) (e.endLine width) rest
        else if c = '/' ∧ rest.head? = some '/' then
          scanTrivia inModule .lineComment true 1 (e.pass 2) rest
        else if c = '/' ∧ rest.head? = some '*' then
          scanTrivia inModule .blockComment fresh 1 (e.pass 2) rest
        else if fresh ∧ c = '-' ∧ ['-', '>'].isPrefixOf rest then
          scanTrivia inModule .lineComment fresh 2 (e.pass 3) rest
        else if !inModule ∧ c = '<' ∧ ['!', '-', '-'].isPrefixOf rest then
          scanTrivia inModule .lineComment fresh 3 (e.pass 4) rest
        else e

end EndpointCatalog.Estree
