/-
EndpointCatalog.Cst.Bytes — the static stretches of a template, from bytes.

`Node.inBytes` counts the ranges of a tree in bytes. A pass over the children
of a template collects what stands before each substitution; what is left up
to the last delimiter is the last stretch.
-/
import EndpointCatalog.Cst.Projection
import EndpointCatalog.Text.Utf8

namespace EndpointCatalog.Cst

/-! ## Ranges of bytes -/

/-- The number of bytes before a character of the source. -/
def byteOffset (source : Array Char) (i : Nat) : Nat :=
  (Utf8.encode (source.toList.take i)).length

mutual

/-- A tree with its ranges counted in bytes. -/
def Node.inBytes (source : Array Char) : Node → Node
  | .mk l cs =>
    .mk { l with start := byteOffset source l.start, stop := byteOffset source l.stop }
      (allInBytes source cs)

/-- Some trees with their ranges counted in bytes. -/
def Node.allInBytes (source : Array Char) :
    List (Option String × Node) → List (Option String × Node)
  | [] => []
  | (name, n) :: rest => (name, n.inBytes source) :: allInBytes source rest

end

/-- The bytes in a range. -/
def bytesIn (data : List UInt8) (range : Nat × Nat) : List UInt8 := data.extract range.1 range.2

/-- The text of a range of bytes. -/
def byteText (data : List UInt8) (range : Nat × Nat) : Text :=
  Text.ofChars (Utf8.decodeReplacing (bytesIn data range))

/-! ## Templates -/

/-- What is known of a template while its children are passed over. -/
structure TemplateScan where
  /-- The stretches before the substitutions so far. -/
  raw : List Text := []
  /-- Where the next stretch begins. -/
  start : Nat
  /-- The number of substitutions so far. -/
  substitutions : Nat := 0

namespace TemplateScan

/-- Passes over a child. -/
def pass (data : List UInt8) (scan : TemplateScan) (child : Node) : TemplateScan :=
  if child.kind = substitutionKind then
    { raw := scan.raw ++ [byteText data (scan.start, child.label.start)]
      start := child.label.stop
      substitutions := scan.substitutions + 1 }
  else scan

/-- The stretches of a template that ends at `stop`, all children passed over. -/
def stretches (data : List UInt8) (stop : Nat) (scan : TemplateScan) : List Text :=
  scan.raw ++ [byteText data (scan.start, stop)]

end TemplateScan

/-- A template with all children passed over. -/
def templateScan (data : List UInt8) (n : Node) : TemplateScan :=
  (n.children.map Prod.snd).foldl (TemplateScan.pass data) { start := n.label.start + 1 }

/-- The static stretches of a template as they are written. -/
def rawStretches (data : List UInt8) (n : Node) : List Text :=
  (templateScan data n).stretches data (n.label.stop - 1)

/-- The static stretches of a template with their escapes read, and the number of
substitutions. -/
def templateParts (data : List UInt8) (n : Node) : List Text × Nat :=
  ((rawStretches data n).map Text.unescape, (templateScan data n).substitutions)

end EndpointCatalog.Cst
