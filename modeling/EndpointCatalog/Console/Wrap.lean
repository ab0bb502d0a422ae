/-
EndpointCatalog.Console.Wrap — texts in lines of a limited width.

* `paragraph` breaks a text between its words. Words that are wider than a
  line are cut where the line ends.
* `cellLines` are the lines of a table cell: filled up with blanks, and what
  does not fit is cut off behind an ellipsis.
-/
import EndpointCatalog.Path
import EndpointCatalog.Text.Blank
import EndpointCatalog.Text.Width

namespace EndpointCatalog.Console

/-- Whether a code point is a blank. -/
def isBlank (p : CodePoint) : Bool := isBlankPoint p.val

/-- A text without the blanks at its end. -/
def dropFinalBlanks (t : Text) : Text := (t.reverse.dropWhile isBlank).reverse

/-! ## Tabs -/

/-- The distance of tab stops. -/
def tabStop : Nat := 8

/-- Puts blanks in place of tabs, up to the next tab stop; `column` is where the text starts. -/
def expandTabsFrom (column : Nat) : Text → Text
  | [] => []
  | p :: rest =>
    if p = '\t' then
      let next := (column / tabStop + 1) * tabStop
      Text.blanks (next - column) ++ expandTabsFrom next rest
    else p :: expandTabsFrom (column + p.width) rest

/-- Puts blanks in place of tabs. -/
def expandTabs (t : Text) : Text := expandTabsFrom 0 t

/-! ## Words -/

/-- The words of a text that does not begin with a blank, each with the blanks behind it. -/
def wordsFrom : Text → List Text
  | [] => [[]]
  | p :: rest =>
    match wordsFrom rest with
    | [] => [[p]]
    | word :: words =>
      match word with
      | [] => [p] :: words
      | q :: _ =>
        if isBlank p && !isBlank q then [p] :: word :: words else (p :: word) :: words

/-- The words of a text, each with the blanks behind it; blanks at the start belong to the first
word. -/
def words (t : Text) : List Text :=
  match wordsFrom (t.dropWhile isBlank) with
  | [] => [t]
  | first :: rest => (t.takeWhile isBlank ++ first) :: rest

/-- Puts words into lines. `line` is the line so far and takes `cells`. Words that are too wide
for a line are cut if `cuts`. -/
def fill (width : Nat) (cuts : Bool) (line : Text) (cells : Nat) : List Text → List Text
  | [] => [line]
  | word :: rest =>
    let needed := (dropFinalBlanks word).width
    let done := if line.isEmpty then [] else [line]
    if cells + needed ≤ width then fill width cuts (line ++ word) (cells + word.width) rest
    else if cuts && width < needed then
      let pieces := word.chop width
      let last := pieces.getLast?.getD []
      done ++ pieces.dropLast ++ fill width cuts last last.width rest
    else done ++ fill width cuts word word.width rest

/-- A line without blanks behind the width, as far as there are any. -/
def trimBehind (width : Nat) (line : Text) : Text :=
  let final := line.length - (dropFinalBlanks line).length
  line.take (line.length - min final (line.length - width))

/-- The lines of a text at its own line breaks. -/
def brokenLines (t : Text) : List Text := splitAt (fun p => p = '\n') t

/-! ## Paragraphs -/

/-- The lines of a paragraph. -/
def paragraphLines (width : Nat) (t : Text) : List Text :=
  (brokenLines t).flatMap fun line =>
    (fill width true [] 0 (words (expandTabs line))).map fun l =>
      let trimmed := trimBehind width l
      if trimmed.width ≤ width then trimmed else trimmed.cutTo width

/-- A paragraph, with a line break at the end of each line. -/
def paragraph (width : Nat) (t : Text) : Text :=
  (paragraphLines width t).flatMap fun line => line ++ [CodePoint.ofChar '\n']

/-! ## Cells -/

/-- A line that takes exactly a width: filled up with blanks, or cut off behind an ellipsis. -/
def fitLine (width : Nat) (line : Text) : Text :=
  if line.width ≤ width then line.fitTo width
  else line.cutTo (width - 1) ++ [CodePoint.ofChar '…']

/-- The lines of a cell; without `wraps` they break at the text's own line breaks only. A cell
without any width has no lines. -/
def cellLines (width : Nat) (wraps : Bool) (t : Text) : List Text :=
  if width = 0 then []
  else
    (brokenLines t).flatMap fun line =>
      let line := expandTabs line
      (if wraps then fill width false [] 0 (words line) else [line]).map fun l =>
        fitLine width (trimBehind width l)

/-! ## Measuring -/

/-- Whether a code point ends a line of a text that is measured. -/
def endsMeasuredLine (p : CodePoint) : Bool :=
  [0xA, 0xB, 0xC, 0xD, 0x1C, 0x1D, 0x1E, 0x85, 0x2028, 0x2029].contains p.val

/-- The width of the widest line of a text. -/
def widest (t : Text) : Nat := ((splitAt endsMeasuredLine t).map Text.width).foldl max 0

end EndpointCatalog.Console
