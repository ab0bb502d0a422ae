/-
EndpointCatalog.Pattern.Acceptance — which search patterns can be compiled.

The patterns of scripts are compiled by an engine with a syntax of its own:
named groups are written `(?P<name>…)`, a look-behind must have a fixed
width, and a character class cannot be empty. `isAccepted` tells whether a
pattern is well-formed there; nothing is matched.
-/
import EndpointCatalog.Text.Letter

namespace EndpointCatalog.Pattern

/-! ## Widths -/

/-- How many characters a pattern matches; no upper bound if `most` is none. -/
structure Width where
  least : Nat
  most : Option Nat
deriving DecidableEq, Repr

namespace Width

/-- The width of a pattern that matches between characters. -/
def zero : Width := ⟨0, some 0⟩

/-- The width of a single character. -/
def one : Width := ⟨1, some 1⟩

/-- The width of two patterns in a row. -/
def seq (v w : Width) : Width :=
  ⟨v.least + w.least, v.most.bind fun m => w.most.map (m + ·)⟩

/-- The width of either of two patterns. -/
def or (v w : Width) : Width :=
  ⟨min v.least w.least, v.most.bind fun m => w.most.map (max m)⟩

/-- The width of a repeated pattern. -/
def times (w : Width) (least : Nat) (most : Option Nat) : Width :=
  ⟨w.least * least,
    if w.most = some 0 then some 0 else w.most.bind fun m => most.map (m * ·)⟩

/-- Whether the width is fixed. -/
def isFixed (w : Width) : Bool := w.most = some w.least

end Width

/-! ## State -/

/-- What is known while a pattern is read. -/
structure Reading where
  rest : List Char
  /-- Widths of the groups, the first one first; none while a group is open. -/
  groups : List (Option Width) := []
  names : List (List Char × Nat) := []
  /-- Groups that conditions refer to by number. -/
  conditions : List Nat := []
  /-- Inside a look-behind, the number of the first group that may not be referred to. -/
  barrier : Option Nat := none
  ascii : Bool := false
  unicode : Bool := false
  verbose : Bool := false

/-- A reader of a part of a pattern. -/
abbrev Reader := StateT Reading Option

/-- The next character, which may be a backslash. -/
def peek : Reader (Option Char) := do pure (← get).rest.head?

/-- Reads one character, or an escape of two. -/
def next : Reader (Option (Char × Option Char)) := do
  let s ← get
  match s.rest with
  | [] => pure none
  | '\\' :: c :: rest => do set { s with rest := rest }; pure (some ('\\', some c))
  | ['\\'] => failure
  | c :: rest => do set { s with rest := rest }; pure (some (c, none))

/-- Reads a certain character if it comes next. -/
def accept (c : Char) : Reader Bool := do
  let s ← get
  match s.rest with
  | d :: rest => if c = d then do set { s with rest := rest }; pure true else pure false
  | [] => pure false

/-- Reads a certain character. -/
def require (c : Char) : Reader Unit := do guard (← accept c)

/-- Reads at most `count` characters of a class. -/
def takeUpTo (count : Nat) (p : Char → Bool) : Reader (List Char) := do
  let s ← get
  let found := (s.rest.take count).takeWhile p
  set { s with rest := s.rest.drop found.length }
  pure found

/-- Reads all characters of a class. -/
def takeAll (p : Char → Bool) : Reader (List Char) := do
  let s ← get
  let found := s.rest.takeWhile p
  set { s with rest := s.rest.drop found.length }
  pure found

/-- The characters up to a delimiter, with escapes kept whole, and what follows it. -/
def splitUntil (delimiter : Char) : List Char → Option (List Char × List Char)
  | [] => none
  | ['\\'] => none
  | '\\' :: c :: rest =>
    (splitUntil delimiter rest).map fun (found, after) => ('\\' :: c :: found, after)
  | c :: rest =>
    if c = delimiter then some ([], rest)
    else (splitUntil delimiter rest).map fun (found, after) => (c :: found, after)

/-- Reads a name up to a delimiter, which is read too. -/
def nameUntil (delimiter : Char) : Reader (List Char) := do
  let s ← get
  match splitUntil delimiter s.rest with
  | none => failure
  | some (found, after) => do
    guard (!found.isEmpty)
    set { s with rest := after }
    pure found

/-! ## Classes of characters -/

/-- Whether a character is a hexadecimal digit. -/
def isHex (c : Char) : Bool := c.isDigit || ('a' ≤ c && c ≤ 'f') || ('A' ≤ c && c ≤ 'F')

/-- Whether a character is an octal digit. -/
def isOctal (c : Char) : Bool := '0' ≤ c && c ≤ '7'

/-- The number that digits of a base up to sixteen stand for. -/
def numberOf (base : Nat) (cs : List Char) : Nat :=
  cs.foldl (fun n c =>
    let d := if c.isDigit then c.toNat - 48 else c.toLower.toNat - 87
    n * base + d) 0

/-- Whether some characters are the name of a group. -/
def isGroupName (cs : List Char) : Bool :=
  match cs with
  | [] => false
  | c :: rest =>
    (c = '_' || isLetterPoint c.toNat) &&
      rest.all fun d => d = '_' || isLetterPoint d.toNat || isMarkPoint d.toNat

/-! ## Escapes -/

/-- What an escape is, as far as repetitions and widths are concerned. -/
inductive Piece where
  /-- Matches between characters. -/
  | anchor
  /-- Has been repeated already. -/
  | repeated
  | other
deriving DecidableEq, Repr

/-- A numeric escape of a fixed number of hexadecimal digits. -/
def hexEscape (count : Nat) : Reader Nat := do
  let ds ← takeUpTo count isHex
  guard (ds.length = count)
  let n := numberOf 16 ds
  guard (n < 0x110000)
  pure n

/-- What a letter escapes to inside and outside of classes. -/
def letterEscape? (c : Char) : Option Nat :=
  match c with
  | 'a' => some 7
  | 'f' => some 12
  | 'n' => some 10
  | 'r' => some 13
  | 't' => some 9
  | 'v' => some 11
  | '\\' => some 92
  | _ => none

/-- A reference to a group that is closed and lies before any look-behind around it. -/
def reference (number : Nat) : Reader Width := do
  let s ← get
  match s.barrier with
  | some first => guard (number < first)
  | none => pure ()
  match s.groups[number - 1]? with
  | some (some width) => do guard (0 < number); pure width
  | _ => failure

/-- A decimal escape: an octal code of three digits, or a reference to a group. -/
def decimalEscape (first : Char) : Reader Width := do
  let second ← takeUpTo 1 Char.isDigit
  let third ←
    if isOctal first && !second.isEmpty && second.all isOctal then takeUpTo 1 isOctal
    else pure []
  if third.isEmpty then reference (numberOf 10 (first :: second))
  else do
    guard (numberOf 8 (first :: (second ++ third)) ≤ 0o377)
    pure .one

/-- An escape outside of classes. -/
def escape (c : Char) : Reader (Piece × Width) := do
  if ['A', 'b', 'B', 'Z'].contains c then pure (.anchor, .zero)
  else if ['d', 'D', 's', 'S', 'w', 'W'].contains c then pure (.other, .one)
  else if (letterEscape? c).isSome then pure (.other, .one)
  else if c = 'x' then do let _ ← hexEscape 2; pure (.other, .one)
  else if c = 'u' then do let _ ← hexEscape 4; pure (.other, .one)
  else if c = 'U' then do let _ ← hexEscape 8; pure (.other, .one)
  else if c = '0' then do let _ ← takeUpTo 2 isOctal; pure (.other, .one)
  else if c.isDigit then pure (.other, ← decimalEscape c)
  else do
    guard (!c.isAlpha)
    pure (.other, .one)

/-- An escape inside a class: the code of a single character, or none for a class. -/
def classEscape (c : Char) : Reader (Option Nat) := do
  if c = 'b' then pure (some 8)
  else if ['d', 'D', 's', 'S', 'w', 'W'].contains c then pure none
  else match letterEscape? c with
    | some n => pure (some n)
    | none =>
      if c = 'x' then pure (some (← hexEscape 2))
      else if c = 'u' then pure (some (← hexEscape 4))
      else if c = 'U' then pure (some (← hexEscape 8))
      else if isOctal c then do
        let more ← takeUpTo 2 isOctal
        let n := numberOf 8 (c :: more)
        guard (n ≤ 0o377)
        pure (some n)
      else do
        guard (!c.isAlpha && !c.isDigit)
        pure (some c.toNat)

/-- One character or escape of a class. -/
def classItem (c : Char) (escaped : Option Char) : Reader (Option Nat) :=
  match escaped with
  | some e => classEscape e
  | none => pure (some c.toNat)

/-- The items of a class up to its closing bracket, which may also be the first item. -/
def classItems (isFirst : Bool) : Nat → Reader Unit
  | 0 => failure
  | fuel + 1 => do
    match ← next with
    | none => failure
    | some (c, escaped) =>
      if c = ']' && escaped.isNone && !isFirst then pure ()
      else do
        let low ← classItem c escaped
        if ← accept '-' then
          match ← next with
          | none => failure
          | some (']', none) => pure ()
          | some (d, escaped) => do
            let high ← classItem d escaped
            match low, high with
            | some l, some h => do
              guard (l ≤ h)
              classItems false fuel
            | _, _ => failure
        else classItems false fuel

/-! ## Repetitions -/

/-- Numbers of repetitions must stay below this. -/
def repeatLimit : Nat := 4294967295

/-- The bounds in braces, behind the opening brace; none if the braces are no bounds and stand
for themselves. -/
def bounds : Reader (Option (Nat × Option Nat)) := do
  let start ← get
  if (← peek) = some '\x7d' then pure none
  else do
    let low ← takeAll Char.isDigit
    let high ← if ← accept ',' then takeAll Char.isDigit else pure low
    if ← accept '\x7d' then do
      let least := numberOf 10 low
      let most := if high.isEmpty then none else some (numberOf 10 high)
      guard (least < repeatLimit)
      guard (most.all fun m => m < repeatLimit && least ≤ m)
      pure (some (least, most))
    else do
      set start
      pure none

/-! ## Flags -/

/-- Letters of inline flags. -/
def flagLetters : List Char := ['i', 'm', 's', 'x', 'a', 'u']

/-- Flags turned on and off for a group; the same flag cannot be both. -/
def flagsOff (on off : List Char) : Reader (List Char × List Char × Bool) := do
  guard (!off.isEmpty && !off.contains 'a' && !off.contains 'u')
  guard (!on.any off.contains)
  pure (on, off, false)

/-- Inline flags behind the question mark: the letters turned on and off, and whether they hold
for the whole pattern. The first letter has been read. -/
def inlineFlags (first : Char) : Reader (List Char × List Char × Bool) := do
  let more ← takeAll flagLetters.contains
  if first = '-' then do
    require ':'
    flagsOff [] more
  else do
    let on := first :: more
    guard (!(on.contains 'a' && on.contains 'u'))
    if ← accept ')' then pure (on, [], true)
    else if ← accept ':' then pure (on, [], false)
    else do
      require '-'
      let off ← takeAll flagLetters.contains
      require ':'
      flagsOff on off

/-! ## Groups -/

/-- Opens a group and gives its number. -/
def openGroup (name : Option (List Char)) : Reader Nat := do
  let s ← get
  let number := s.groups.length + 1
  match name with
  | none => set { s with groups := s.groups ++ [none] }
  | some n => do
    guard (isGroupName n && (s.names.lookup n).isNone)
    set { s with groups := s.groups ++ [none], names := (n, number) :: s.names }
  pure number

/-- Closes a group. -/
def closeGroup (number : Nat) (width : Width) : Reader Unit :=
  modify fun s => { s with groups := s.groups.set (number - 1) (some width) }

/-- A group that a name refers to. -/
def namedGroup (name : List Char) : Reader Nat := do
  guard (isGroupName name)
  match (← get).names.lookup name with
  | some number => pure number
  | none => failure

/-- The condition of a conditional group, up to its closing parenthesis. -/
def condition : Reader Unit := do
  let name ← nameUntil ')'
  let number ←
    if isGroupName name then namedGroup name
    else do
      guard (name.all Char.isDigit)
      let number := numberOf 10 name
      guard (0 < number)
      modify fun s => { s with conditions := number :: s.conditions }
      pure number
  match (← get).barrier with
  | some first => do
    guard (number < first)
    let _ ← reference number
  | none => pure ()

/-- Drops a comment up to its closing parenthesis. -/
def comment : Reader Unit := do
  let s ← get
  match splitUntil ')' s.rest with
  | some (_, after) => set { s with rest := after }
  | none => failure

/-! ## Sequences -/

/-- A sequence while it is read: the width before its last piece, and that piece. -/
structure Sequence where
  before : Width := .zero
  last : Option (Piece × Width) := none

namespace Sequence

/-- The width of the whole sequence. -/
def width (s : Sequence) : Width :=
  match s.last with
  | none => s.before
  | some (_, w) => s.before.seq w

/-- Adds a piece. -/
def add (s : Sequence) (piece : Piece) (w : Width) : Sequence := ⟨s.width, some (piece, w)⟩

/-- Repeats the last piece, if it can be repeated. -/
def repeatLast? (s : Sequence) (least : Nat) (most : Option Nat) : Option Sequence :=
  match s.last with
  | some (.other, w) => some ⟨s.before, some (.repeated, w.times least most)⟩
  | _ => none

end Sequence

/-- Repeats the last piece; a question or plus mark may follow. -/
def repetition (s : Sequence) (least : Nat) (most : Option Nat) : Reader Sequence := do
  match s.repeatLast? least most with
  | none => failure
  | some found => do
    if ← accept '?' then pure found
    else do
      let _ ← accept '+'
      pure found

/-- Blanks that a verbose pattern drops. -/
def isVerboseBlank (c : Char) : Bool := [' ', '\t', '\n', '\r', '\x0b', '\x0c'].contains c

/-- What a reader of sequences is told: whether blanks and comments are dropped, and whether the
sequence starts the pattern. -/
structure Setting where
  verbose : Bool
  isFirst : Bool

/-- A reader of alternatives, which gives their width and whether they are a single empty
sequence. -/
abbrev Alternatives := Bool → Reader (Width × Bool)

/-- A reader of one sequence. -/
abbrev SequenceReader := Setting → Sequence → Reader Sequence

/-- A look-around, behind what introduces it. -/
def lookaround (alternatives : Alternatives) (verbose isBehind isNegative : Bool) :
    Reader (Piece × Width) := do
  let outer := (← get).barrier
  if isBehind && outer.isNone then
    modify fun s => { s with barrier := some (s.groups.length + 1) }
  let (width, isEmpty) ← alternatives verbose
  if isBehind && outer.isNone then modify fun s => { s with barrier := none }
  require ')'
  guard (!isBehind || (isNegative && isEmpty) || width.isFixed)
  pure (.other, .zero)

/-- A group up to its closing parenthesis. -/
def group (alternatives : Alternatives) (verbose : Bool) (captures : Bool)
    (name : Option (List Char)) : Reader (Piece × Width) := do
  if captures then do
    let number ← openGroup name
    let (width, _) ← alternatives verbose
    require ')'
    closeGroup number width
    pure (.other, width)
  else do
    let (width, _) ← alternatives verbose
    require ')'
    pure (.other, width)

/-- What follows `(?`; none for what leaves no piece behind. -/
def extension (alternatives : Alternatives) (sequence : SequenceReader) (setting : Setting)
    (found : Sequence) : Reader (Option (Piece × Width)) := do
  match ← next with
  | some ('P', none) =>
    if ← accept '<' then do
      let name ← nameUntil '>'
      some <$> group alternatives setting.verbose true (some name)
    else do
      require '='
      let number ← namedGroup (← nameUntil ')')
      pure (some (.other, ← reference number))
  | some (':', none) => some <$> group alternatives setting.verbose false none
  | some ('>', none) => some <$> group alternatives setting.verbose false none
  | some ('#', none) => do comment; pure none
  | some ('=', none) => some <$> lookaround alternatives setting.verbose false false
  | some ('!', none) => some <$> lookaround alternatives setting.verbose false true
  | some ('<', none) =>
    if ← accept '=' then some <$> lookaround alternatives setting.verbose true false
    else do
      require '!'
      some <$> lookaround alternatives setting.verbose true true
  | some ('(', none) => do
    condition
    let yes ← sequence ⟨setting.verbose, false⟩ {}
    let no ← if ← accept '|' then sequence ⟨setting.verbose, false⟩ {} else pure {}
    require ')'
    pure (some (.other, yes.width.or no.width))
  | some (c, none) =>
    if flagLetters.contains c || c = '-' then do
      let (on, off, isGlobal) ← inlineFlags c
      if isGlobal then do
        guard (setting.isFirst && found.last.isNone)
        modify fun s => { s with
          ascii := s.ascii || on.contains 'a'
          unicode := s.unicode || on.contains 'u'
          verbose := s.verbose || on.contains 'x' }
        pure none
      else
        let verbose := (setting.verbose || on.contains 'x') && !off.contains 'x'
        some <$> group alternatives verbose false none
    else failure
  | _ => failure

/-- Drops the rest of a line. -/
def dropLine : Reader Unit :=
  modify fun s => { s with rest := (s.rest.dropWhile (· ≠ '\n')).drop 1 }

mutual

/-- Alternatives up to a closing parenthesis or the end. -/
def alternatives : Nat → Bool → Alternatives
  | 0, _ => fun _ => failure
  | fuel + 1, isFirst => fun verbose => do
    let first ← sequence fuel ⟨verbose, isFirst⟩ {}
    let verbose := verbose || (isFirst && (← get).verbose)
    moreAlternatives fuel verbose first.width first.last.isNone

/-- The alternatives behind the first. -/
def moreAlternatives : Nat → Bool → Width → Bool → Reader (Width × Bool)
  | 0, _, _, _ => failure
  | fuel + 1, verbose, width, isEmpty => do
    if ← accept '|' then do
      let next ← sequence fuel ⟨verbose, false⟩ {}
      moreAlternatives fuel verbose (width.or next.width) false
    else pure (width, isEmpty)

/-- The pieces of a sequence behind those found. -/
def sequence : Nat → SequenceReader
  | 0 => fun _ _ => failure
  | fuel + 1 => fun setting found => do
    match ← peek with
    | none => pure found
    | some '|' => pure found
    | some ')' => pure found
    | some _ =>
      match ← next with
      | none => pure found
      | some (_, some e) => do
        let (piece, width) ← escape e
        sequence fuel setting (found.add piece width)
      | some (c, none) =>
        if setting.verbose && isVerboseBlank c then sequence fuel setting found
        else if setting.verbose && c = '#' then do
          dropLine
          sequence fuel setting found
        else if c = '[' then do
          let _ ← accept '^'
          classItems true fuel
          sequence fuel setting (found.add .other .one)
        else if c = '?' then do sequence fuel setting (← repetition found 0 (some 1))
        else if c = '*' then do sequence fuel setting (← repetition found 0 none)
        else if c = '+' then do sequence fuel setting (← repetition found 1 none)
        else if c = '\x7b' then
          match ← bounds with
          | some (least, most) => do sequence fuel setting (← repetition found least most)
          | none => sequence fuel setting (found.add .other .one)
        else if c = '^' || c = '$' then sequence fuel setting (found.add .anchor .zero)
        else if c = '(' then
          if ← accept '?' then
            match ← extension (alternatives fuel false) (sequence fuel) setting found with
            | some (piece, width) => sequence fuel setting (found.add piece width)
            | none =>
              let verbose := setting.verbose || (setting.isFirst && (← get).verbose)
              sequence fuel { setting with verbose := verbose } found
          else do
            let (piece, width) ← group (alternatives fuel false) setting.verbose true none
            sequence fuel setting (found.add piece width)
        else sequence fuel setting (found.add .other .one)

end

/-- Whether a pattern can be compiled. -/
def isAccepted (pattern : List Char) : Bool :=
  match (alternatives (3 * pattern.length + 3) true false).run { rest := pattern } with
  | none => false
  | some (_, s) =>
    s.rest.isEmpty && !(s.ascii && s.unicode) &&
      s.conditions.all fun number => number ≤ s.groups.length

end EndpointCatalog.Pattern
