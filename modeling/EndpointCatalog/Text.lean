/-
EndpointCatalog.Text — text as a list of code points.

A cooked string literal may hold one half of a surrogate pair on its own,
so text is a list of code points and not of Unicode scalar values.

* `Text.ofString` embeds ordinary strings, `Text.toString?` is its partial
  inverse.
* `Text.joinPairs?` reads a text as UTF-16: adjacent halves become one
  character, and a half without its partner makes the whole reading fail.
-/

namespace EndpointCatalog

/-- A code point: a Unicode scalar value or one half of a surrogate pair. -/
abbrev CodePoint := Fin 0x110000

namespace CodePoint

/-- A scalar value seen as a code point. -/
def ofChar (c : Char) : CodePoint :=
  ⟨c.toNat, by
    have h := c.valid
    simp only [UInt32.isValidChar, Nat.isValidChar] at h
    simp only [Char.toNat]
    omega⟩

instance : Coe Char CodePoint := ⟨ofChar⟩

/-- First half of a surrogate pair. -/
def isHigh (p : CodePoint) : Bool := decide (0xD800 ≤ p.val) && decide (p.val < 0xDC00)

/-- Second half of a surrogate pair. -/
def isLow (p : CodePoint) : Bool := decide (0xDC00 ≤ p.val) && decide (p.val < 0xE000)

/-- Either half of a surrogate pair. -/
def isSurrogate (p : CodePoint) : Bool := p.isHigh || p.isLow

/-- The scalar value of a code point, if it is one. -/
def toChar? (p : CodePoint) : Option Char :=
  if p.isSurrogate then none else some (Char.ofNat p.val)

/-- A number read as a code point, if it is small enough. -/
def ofNat? (n : Nat) : Option CodePoint :=
  if h : n < 0x110000 then some ⟨n, h⟩ else none

/-- The character that a pair of halves stands for. -/
def ofPair (high low : CodePoint) : CodePoint :=
  Fin.ofNat 0x110000 (0x10000 + (high.val - 0xD800) * 0x400 + (low.val - 0xDC00))

end CodePoint

/-- Whether a number lies in one of some ascending inclusive ranges. -/
def inRanges (ranges : List (Nat × Nat)) (n : Nat) : Bool :=
  match ranges with
  | [] => false
  | (low, high) :: rest => if n < low then false else n ≤ high || inRanges rest n

/-- Text as a list of code points. -/
abbrev Text := List CodePoint

namespace Text

/-- The code points of a list of characters. -/
def ofChars (cs : List Char) : Text := cs.map CodePoint.ofChar

/-- The code points of a string. -/
def ofString (s : String) : Text := ofChars s.toList

instance : Coe String Text := ⟨ofString⟩

/-- The characters of a text that holds no lone half. -/
def toChars? (t : Text) : Option (List Char) := t.mapM CodePoint.toChar?

/-- The string of a text that holds no lone half. -/
def toString? (t : Text) : Option String := t.toChars?.map String.ofList

/-- The characters of a text, with U+FFFD for a lone half. -/
def toChars (t : Text) : List Char := t.map fun p => p.toChar?.getD '\uFFFD'

/-- The string of a text, with U+FFFD for a lone half. -/
def toString (t : Text) : String := String.ofList t.toChars

/-- Whether some half stands in the text. -/
def hasSurrogate (t : Text) : Bool := t.any CodePoint.isSurrogate

/-- Reads a text as UTF-16: adjacent halves are joined, and `none` if a half has no partner. -/
def joinPairs? : Text → Option Text
  | [] => some []
  | [p] => if p.isSurrogate then none else some [p]
  | p :: q :: rest =>
    if p.isHigh then
      if q.isLow then (joinPairs? rest).map (CodePoint.ofPair p q :: ·) else none
    else if p.isLow then none
    else (joinPairs? (q :: rest)).map (p :: ·)

/-- Whether `needle` is a contiguous part of `hay`. -/
def hasPart (needle : Text) : Text → Bool
  | [] => needle.isEmpty
  | hay@(_ :: rest) => needle.isPrefixOf hay || hasPart needle rest

end Text

end EndpointCatalog
