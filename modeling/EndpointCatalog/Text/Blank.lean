/-
EndpointCatalog.Text.Blank — blanks and decimal digits of all scripts.

* `Char.isBlank` is the whitespace that is trimmed off text: the Unicode
  separators, the ASCII controls from tab to carriage return and from file
  separator to unit separator, and next line.
* `digitValue?` is the value of a decimal digit of any script; the digits
  of one script stand in ten consecutive code points.
-/
import EndpointCatalog.Text

namespace EndpointCatalog

/-! ## Blanks -/

/-- Code points that are trimmed off the ends of text. -/
def blankPoints : List Nat :=
  [0x9, 0xA, 0xB, 0xC, 0xD, 0x1C, 0x1D, 0x1E, 0x1F, 0x20, 0x85, 0xA0, 0x1680,
   0x2000, 0x2001, 0x2002, 0x2003, 0x2004, 0x2005, 0x2006, 0x2007, 0x2008, 0x2009, 0x200A,
   0x2028, 0x2029, 0x202F, 0x205F, 0x3000]

/-- Whether a code point is a blank. -/
def isBlankPoint (n : Nat) : Bool := blankPoints.contains n

/-- Drops the items that satisfy `p` from both ends. -/
def trimEnds {α : Type} (p : α → Bool) (xs : List α) : List α :=
  ((xs.dropWhile p).reverse.dropWhile p).reverse

namespace Text

/-- Drops the blanks at both ends. -/
def trim (t : Text) : Text := trimEnds (fun p => isBlankPoint p.val) t

end Text

/-- Drops the blanks at both ends. -/
def trimBlanks (cs : List Char) : List Char := trimEnds (fun c => isBlankPoint c.toNat) cs

/-! ## Decimal digits -/

/-- The zero of each script that has decimal digits. -/
def digitZeros : List Nat :=
  [0x30, 0x660, 0x6F0, 0x7C0, 0x966, 0x9E6, 0xA66, 0xAE6, 0xB66, 0xBE6,
   0xC66, 0xCE6, 0xD66, 0xDE6, 0xE50, 0xED0, 0xF20, 0x1040, 0x1090, 0x17E0,
   0x1810, 0x1946, 0x19D0, 0x1A80, 0x1A90, 0x1B50, 0x1BB0, 0x1C40, 0x1C50, 0xA620,
   0xA8D0, 0xA900, 0xA9D0, 0xA9F0, 0xAA50, 0xABF0, 0xFF10, 0x104A0, 0x10D30, 0x11066,
   0x110F0, 0x11136, 0x111D0, 0x112F0, 0x11450, 0x114D0, 0x11650, 0x116C0, 0x11730, 0x118E0,
   0x11950, 0x11C50, 0x11D50, 0x11DA0, 0x11F50, 0x16A60, 0x16AC0, 0x16B50, 0x1D7CE, 0x1D7D8,
   0x1D7E2, 0x1D7EC, 0x1D7F6, 0x1E140, 0x1E2F0, 0x1E4F0, 0x1E950, 0x1FBF0]

/-- The value of a decimal digit of any script. -/
def digitValue? (n : Nat) : Option Nat :=
  (digitZeros.find? fun first => first ≤ n && n < first + 10).map (n - ·)

end EndpointCatalog
