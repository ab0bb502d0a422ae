/-
EndpointCatalog.Text.Quoted — text between quotes, as messages show it.

Single quotes are used unless the text holds a single quote and no double
one. The quote, the backslash and what cannot be shown are escaped.
-/
import EndpointCatalog.Text
import EndpointCatalog.Text.Visible

namespace EndpointCatalog.Text

/-- A number in hexadecimal with at least `width` digits. -/
def paddedHex (width n : Nat) : Text :=
  let ds := Nat.toDigits 16 n
  Text.ofChars (List.replicate (width - ds.length) '0' ++ ds)

/-- A code point between the given quotes. -/
def quotedPoint (quote : CodePoint) (p : CodePoint) : Text :=
  if p = quote ∨ p = '\\' then ['\\', p]
  else if p = '\n' then "\\n"
  else if p = '\r' then "\\r"
  else if p = '\t' then "\\t"
  else if isVisiblePoint p.val then [p]
  else if p.val < 0x100 then "\\x" ++ paddedHex 2 p.val
  else if p.val < 0x10000 then "\\u" ++ paddedHex 4 p.val
  else "\\U" ++ paddedHex 8 p.val

/-- Text between quotes. -/
def quoted (t : Text) : Text :=
  let single := CodePoint.ofChar '\''
  let double := CodePoint.ofChar '"'
  let quote := if t.contains single && !t.contains double then double else single
  quote :: (t.flatMap (quotedPoint quote) ++ [quote])

end EndpointCatalog.Text

namespace EndpointCatalog

/-- A string between quotes, as messages show it. -/
def quotedString (s : String) : String := (Text.quoted (Text.ofString s)).toString

end EndpointCatalog
