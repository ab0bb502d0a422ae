/-
EndpointCatalog.Json.Writer — trees to indented ASCII JSON.

* Characters outside ASCII are written as `\u` escapes of their UTF-16
  units, so a lone surrogate half is written like any other.
* Numbers are the shortest that read back; infinities keep their names.
* A compiled pattern is written as the text of the call that compiles it.
* An integer of more than `longestInteger` digits cannot be written
  (`hasLongInteger`).
-/
import EndpointCatalog.Tree
import EndpointCatalog.Number.Literal
import EndpointCatalog.Number.Shortest
import EndpointCatalog.Text.Quoted

namespace EndpointCatalog.Json

/-- Numbers are positional from `1e-4` up to below `1e16`, exponents have two digits. -/
def floatFormat : FloatFormat :=
  ⟨-4, 16, 2, "Infinity", "NaN"⟩

/-- A `\u` escape of a UTF-16 unit. -/
def unitEscape (unit : Nat) : List Char :=
  let ds := Nat.toDigits 16 unit
  '\\' :: 'u' :: (List.replicate (4 - ds.length) '0' ++ ds)

/-- A code point inside a string. -/
def escapePoint (p : CodePoint) : List Char :=
  let n := p.val
  if p = '"' then ['\\', '"']
  else if p = '\\' then ['\\', '\\']
  else if p = '\n' then ['\\', 'n']
  else if p = '\r' then ['\\', 'r']
  else if p = '\t' then ['\\', 't']
  else if p = '\x08' then ['\\', 'b']
  else if p = '\x0c' then ['\\', 'f']
  else if 0x20 ≤ n ∧ n < 0x7F then [Char.ofNat n]
  else if n < 0x10000 then unitEscape n
  else unitEscape (0xD800 + (n - 0x10000) / 0x400) ++ unitEscape (0xDC00 + (n - 0x10000) % 0x400)

/-- A quoted string. -/
def quote (t : Text) : List Char := '"' :: (t.flatMap escapePoint ++ ['"'])

/-- The text of a compiled pattern. -/
def regexText (pattern : Text) (multiline ignoreCase : Bool) : Text :=
  let flags : List String :=
    (if ignoreCase then ["re.IGNORECASE"] else []) ++ (if multiline then ["re.MULTILINE"] else [])
  let shown := (Text.quoted pattern).take 200
  "re.compile(" ++ shown ++
    (if flags.isEmpty then ([] : Text) else Text.ofString (", " ++ String.intercalate "|" flags)) ++
    ")"

mutual

/-- Whether an integer in a value has too many digits to be written. -/
def hasLongInteger : Tree → Bool
  | .int n => decide (Nat.pow 10 longestInteger ≤ n.natAbs)
  | .list items => itemsHaveLongInteger items
  | .map entries => entriesHaveLongInteger entries
  | _ => false

/-- Whether an integer in some items has too many digits. -/
def itemsHaveLongInteger : List Tree → Bool
  | [] => false
  | item :: rest => hasLongInteger item || itemsHaveLongInteger rest

/-- Whether an integer in some entries has too many digits. -/
def entriesHaveLongInteger : List (Text × Tree) → Bool
  | [] => false
  | (_, value) :: rest => hasLongInteger value || entriesHaveLongInteger rest

end

/-- A line break and the indentation of a depth. -/
def newline (depth : Nat) : List Char := '\n' :: List.replicate (2 * depth) ' '

mutual

/-- A value at some depth. -/
def write (depth : Nat) : Tree → List Char
  | .null => "null".toList
  | .bool true => "true".toList
  | .bool false => "false".toList
  | .int n => (toString n).toList
  | .float x => (x.render floatFormat).toList
  | .text t => quote t
  | .regex pattern multiline ignoreCase => quote (regexText pattern multiline ignoreCase)
  | .list [] => ['[', ']']
  | .list (item :: rest) =>
    '[' :: (newline (depth + 1) ++ write (depth + 1) item ++ writeItems depth rest)
  | .map [] => ['\x7b', '\x7d']
  | .map ((key, value) :: rest) =>
    '\x7b' :: (newline (depth + 1) ++ quote key ++ [':', ' '] ++ write (depth + 1) value
      ++ writeMembers depth rest)

/-- The items after the first, and the closing bracket. -/
def writeItems (depth : Nat) : List Tree → List Char
  | [] => newline depth ++ [']']
  | item :: rest =>
    ',' :: (newline (depth + 1) ++ write (depth + 1) item ++ writeItems depth rest)

/-- The members after the first, and the closing brace. -/
def writeMembers (depth : Nat) : List (Text × Tree) → List Char
  | [] => newline depth ++ ['\x7d']
  | (key, value) :: rest =>
    ',' :: (newline (depth + 1) ++ quote key ++ [':', ' '] ++ write (depth + 1) value
      ++ writeMembers depth rest)

end

end EndpointCatalog.Json
