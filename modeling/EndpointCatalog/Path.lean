/-
EndpointCatalog.Path — file paths with forward slashes.

A path is a root and a list of components. Repeated slashes, trailing
slashes and components `.` carry no meaning and are dropped when a path is
read; components `..` are kept.

* `Path.ofString` and `Path.toString` read and write a path.
* `name`, `stem` and `suffix` look at the last component.
-/
import EndpointCatalog.Text

namespace EndpointCatalog

/-- Splits a list at each separator; there is one piece more than there are separators. -/
def splitAt {α : Type} (isSeparator : α → Bool) : List α → List (List α)
  | [] => [[]]
  | x :: rest =>
    match splitAt isSeparator rest with
    | [] => [[x]]
    | piece :: pieces => if isSeparator x then [] :: piece :: pieces else (x :: piece) :: pieces

/-- Puts a separator between the pieces. -/
def joinWith {α : Type} (separator : List α) : List (List α) → List α
  | [] => []
  | [piece] => piece
  | piece :: pieces => piece ++ separator ++ joinWith separator pieces

/-- What a path starts at. A path with exactly two leading slashes is told apart from one with
a single slash or with three and more. -/
inductive PathRoot where
  | relative
  | slash
  | doubleSlash
deriving DecidableEq, Repr

/-- A path: where it starts and its components. -/
structure Path where
  root : PathRoot
  parts : List String
deriving DecidableEq, Repr

namespace Path

/-- The slashes that a root is written with. -/
def rootText : PathRoot → String
  | .relative => ""
  | .slash => "/"
  | .doubleSlash => "//"

/-- What some leading slashes stand for. -/
def rootOf : List Char → PathRoot
  | '/' :: '/' :: '/' :: _ => .slash
  | '/' :: '/' :: _ => .doubleSlash
  | '/' :: _ => .slash
  | _ => .relative

/-- Reads a path. -/
def ofString (s : String) : Path :=
  let pieces := (splitAt (· == '/') s.toList).map String.ofList
  ⟨rootOf s.toList, pieces.filter fun p => p ≠ "" ∧ p ≠ "."⟩

/-- Writes a path; the empty relative path is `.`. -/
def toString (p : Path) : String :=
  if p.root = .relative ∧ p.parts = [] then "."
  else rootText p.root ++ String.ofList (joinWith ['/'] (p.parts.map String.toList))

/-- Whether the path starts at a root. -/
def isAbsolute (p : Path) : Bool := p.root ≠ .relative

/-- The last component; empty if there is none. -/
def name (p : Path) : String := p.parts.getLast?.getD ""

/-- A component cut before its last dot, provided that the dot is neither its first nor its last
character. -/
def splitSuffix (component : String) : String × String :=
  let cs := component.toList
  let after := (cs.reverse.takeWhile (· ≠ '.')).reverse
  let before := (cs.reverse.dropWhile (· ≠ '.')).drop 1
  if before.isEmpty || after.isEmpty then (component, "")
  else (String.ofList before.reverse, String.ofList ('.' :: after))

/-- The last component without its suffix. -/
def stem (p : Path) : String := (splitSuffix p.name).1

/-- The suffix of the last component, with its dot. -/
def suffix (p : Path) : String := (splitSuffix p.name).2

/-- The path of a component below. -/
def child (p : Path) (component : String) : Path := { p with parts := p.parts ++ [component] }

/-- The path without its last component. -/
def parent (p : Path) : Path := { p with parts := p.parts.dropLast }

/-- One path seen from another: an absolute path stands for itself. -/
def append (p q : Path) : Path :=
  if q.isAbsolute then q else { p with parts := p.parts ++ q.parts }

instance : HAppend Path Path Path := ⟨append⟩

/-- The path from a directory to something below it. -/
def relativeTo? (p base : Path) : Option Path :=
  if p.root = base.root ∧ base.parts.isPrefixOf p.parts then
    some ⟨.relative, p.parts.drop base.parts.length⟩
  else none

end Path

end EndpointCatalog
