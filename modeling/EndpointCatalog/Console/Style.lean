/-
EndpointCatalog.Console.Style — the names of text styles.

A style is named by attributes (`bold`, `not dim`), a color, a background
color behind `on`, and an address behind `link`. `styleName` is the same for
any two names of one style: attributes have one spelling and stand in a fixed
order before the colors.
-/
import EndpointCatalog.Text.Blank

namespace EndpointCatalog.Console

/-- The attributes of a style, in the order in which they are named, with their short names. -/
def attributeNames : List (String × Option String) :=
  [("bold", some "b"), ("dim", some "d"), ("italic", some "i"), ("underline", some "u"),
   ("blink", none), ("blink2", none), ("reverse", some "r"), ("conceal", some "c"),
   ("strike", some "s"), ("underline2", some "uu"), ("frame", none), ("encircle", none),
   ("overline", some "o")]

/-- The attribute of a name. -/
def attributeNamed? (name : String) : Option String :=
  (attributeNames.find? fun e => e.1 = name || e.2 = some name).map Prod.fst

/-- The colors that have plain names. -/
def colorNames : List String :=
  ["default", "black", "red", "green", "yellow", "blue", "magenta", "cyan", "white",
   "bright_black", "bright_red", "bright_green", "bright_yellow", "bright_blue", "bright_magenta",
   "bright_cyan", "bright_white", "grey0", "gray0", "navy_blue", "dark_blue", "blue3", "blue1",
   "dark_green", "deep_sky_blue4", "dodger_blue3", "dodger_blue2", "green4", "spring_green4",
   "turquoise4", "deep_sky_blue3", "dodger_blue1", "green3", "spring_green3", "dark_cyan",
   "light_sea_green", "deep_sky_blue2", "deep_sky_blue1", "spring_green2", "cyan3",
   "dark_turquoise", "turquoise2", "green1", "spring_green1", "medium_spring_green", "cyan2",
   "cyan1", "dark_red", "deep_pink4", "purple4", "purple3", "blue_violet", "orange4", "grey37",
   "gray37", "medium_purple4", "slate_blue3", "royal_blue1", "chartreuse4", "dark_sea_green4",
   "pale_turquoise4", "steel_blue", "steel_blue3", "cornflower_blue", "chartreuse3", "cadet_blue",
   "sky_blue3", "steel_blue1", "pale_green3", "sea_green3", "aquamarine3", "medium_turquoise",
   "chartreuse2", "sea_green2", "sea_green1", "aquamarine1", "dark_slate_gray2", "dark_magenta",
   "dark_violet", "purple", "light_pink4", "plum4", "medium_purple3", "slate_blue1", "yellow4",
   "wheat4", "grey53", "gray53", "light_slate_grey", "light_slate_gray", "medium_purple",
   "light_slate_blue", "dark_olive_green3", "dark_sea_green", "light_sky_blue3", "sky_blue2",
   "dark_sea_green3", "dark_slate_gray3", "sky_blue1", "chartreuse1", "light_green",
   "pale_green1", "dark_slate_gray1", "red3", "medium_violet_red", "magenta3", "dark_orange3",
   "indian_red", "hot_pink3", "medium_orchid3", "medium_orchid", "medium_purple2",
   "dark_goldenrod", "light_salmon3", "rosy_brown", "grey63", "gray63", "medium_purple1", "gold3",
   "dark_khaki", "navajo_white3", "grey69", "gray69", "light_steel_blue3", "light_steel_blue",
   "yellow3", "dark_sea_green2", "light_cyan3", "light_sky_blue1", "green_yellow",
   "dark_olive_green2", "dark_sea_green1", "pale_turquoise1", "deep_pink3", "magenta2",
   "hot_pink2", "orchid", "medium_orchid1", "orange3", "light_pink3", "pink3", "plum3", "violet",
   "light_goldenrod3", "tan", "misty_rose3", "thistle3", "plum2", "khaki3", "light_goldenrod2",
   "light_yellow3", "grey84", "gray84", "light_steel_blue1", "yellow2", "dark_olive_green1",
   "honeydew2", "light_cyan1", "red1", "deep_pink2", "deep_pink1", "magenta1", "orange_red1",
   "indian_red1", "hot_pink", "dark_orange", "salmon1", "light_coral", "pale_violet_red1",
   "orchid2", "orchid1", "orange1", "sandy_brown", "light_salmon1", "light_pink1", "pink1",
   "plum1", "gold1", "navajo_white1", "misty_rose1", "thistle1", "yellow1", "light_goldenrod1",
   "khaki1", "wheat1", "cornsilk1", "grey100", "gray100", "grey3", "gray3", "grey7", "gray7",
   "grey11", "gray11", "grey15", "gray15", "grey19", "gray19", "grey23", "gray23", "grey27",
   "gray27", "grey30", "gray30", "grey35", "gray35", "grey39", "gray39", "grey42", "gray42",
   "grey46", "gray46", "grey50", "gray50", "grey54", "gray54", "grey58", "gray58", "grey62",
   "gray62", "grey66", "gray66", "grey70", "gray70", "grey74", "gray74", "grey78", "gray78",
   "grey82", "gray82", "grey85", "gray85", "grey89", "gray89", "grey93", "gray93"]

/-- Whether some characters are a number of at most three digits that is no more than 255. -/
def isColorNumber (cs : List Char) : Bool :=
  !cs.isEmpty && cs.length ≤ 3 && cs.all Char.isDigit &&
    cs.foldl (fun n c => 10 * n + (c.toNat - 48)) 0 ≤ 255

/-- Whether some characters are six hexadecimal digits in small letters. -/
def isHexColor (cs : List Char) : Bool :=
  cs.length = 6 && cs.all fun c => c.isDigit || ('a' ≤ c && c ≤ 'f')

/-- What stands in parentheses behind a word. -/
def argumentOf? (word : String) (cs : List Char) : Option (List Char) :=
  let opening := word.toList ++ ['(']
  if opening.isPrefixOf cs && cs.getLast? = some ')' then
    some ((cs.drop opening.length).dropLast)
  else none

/-- Some characters between commas. -/
def commaPieces : List Char → List (List Char)
  | [] => [[]]
  | c :: rest =>
    match commaPieces rest with
    | [] => [[c]]
    | piece :: pieces => if c = ',' then [] :: piece :: pieces else (c :: piece) :: pieces

/-- Whether a word in small letters names a color. -/
def isColor (word : String) : Bool :=
  let cs := word.toList
  colorNames.contains word ||
  (match cs with
    | '#' :: digits => isHexColor digits
    | _ => false) ||
  (argumentOf? "color" cs).any isColorNumber ||
  (argumentOf? "rgb" cs).any fun inner =>
    (commaPieces inner).length = 3 && (commaPieces inner).all isColorNumber

/-- A style. -/
structure Style where
  /-- Attributes that are set or, if `false`, taken away. -/
  attributes : List (String × Bool) := []
  color : Option String := none
  background : Option String := none
  link : Option String := none
deriving DecidableEq, Repr

namespace Style

/-- Sets an attribute. -/
def setAttribute (s : Style) (name : String) (value : Bool) : Style :=
  { s with attributes := (name, value) :: s.attributes.filter fun e => e.1 ≠ name }

/-- Reads the words of a style. -/
def readWords? (s : Style) : List String → Option Style
  | [] => some s
  | first :: rest =>
    let word := first.toLower
    if word = "on" then
      match rest with
      | color :: rest =>
        if isColor color.toLower then { s with background := some color.toLower }.readWords? rest
        else none
      | [] => none
    else if word = "not" then
      match rest with
      | name :: rest => (attributeNamed? name).bind fun a => (s.setAttribute a false).readWords? rest
      | [] => none
    else if word = "link" then
      match rest with
      | address :: rest => { s with link := some address }.readWords? rest
      | [] => none
    else
      match attributeNamed? word with
      | some a => (s.setAttribute a true).readWords? rest
      | none => if isColor word then { s with color := some word }.readWords? rest else none

/-- The words of a style's name. -/
def words (s : Style) : List String :=
  (attributeNames.flatMap fun e =>
    match s.attributes.find? fun a => a.1 = e.1 with
    | some (_, true) => [e.1]
    | some (_, false) => ["not", e.1]
    | none => []) ++
  s.color.toList ++
  (s.background.toList.flatMap fun c => ["on", c]) ++
  (s.link.toList.flatMap fun l => ["link", l])

/-- The name of a style. -/
def name (s : Style) : String := if s.words = [] then "none" else " ".intercalate s.words

end Style

/-- The words of some characters: what stands between blanks. -/
def wordsOnto (word : List Char) : List Char → List String
  | [] => if word.isEmpty then [] else [String.ofList word.reverse]
  | c :: rest =>
    if isBlankPoint c.toNat then
      (if word.isEmpty then [] else [String.ofList word.reverse]) ++ wordsOnto [] rest
    else wordsOnto (c :: word) rest

/-- One name for all names of a style. What is no style stands for itself, without the blanks
around it and in small letters. -/
def styleName (name : String) : String :=
  let trimmed := String.ofList (trimBlanks name.toList)
  if trimmed = "none" then "none"
  else
    match ({} : Style).readWords? (wordsOnto [] name.toList) with
    | some s => s.name
    | none => trimmed.toLower

end EndpointCatalog.Console
