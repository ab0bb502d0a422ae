/-
EndpointCatalog.Record.Validation — records from data of any shape.

Three fields may be given under the key of the catalog file or under the
plain field name; the former wins. A line number may also be a whole number
of another kind or its decimal text, also one that is not in the form that
the catalog has it (`tidyInteger?`). All faults of the data are reported, in
the order of the fields.
-/
import EndpointCatalog.Record
import EndpointCatalog.Tree.Same

namespace EndpointCatalog

/-- What is wrong with a field. -/
inductive FieldFault where
  | missing
  | notOneOf
  | notText
  | notUnicode
  | notMapping
  | notInteger
  | notFinite
  | hasFraction
  | unreadableInteger
  | hugeInteger
  | frozen
deriving DecidableEq, Repr

/-- The name of a fault. -/
def FieldFault.toString : FieldFault → String
  | .missing => "missing"
  | .notOneOf => "literal_error"
  | .notText => "string_type"
  | .notUnicode => "string_unicode"
  | .notMapping => "dict_type"
  | .notInteger => "int_type"
  | .notFinite => "finite_number"
  | .hasFraction => "int_from_float"
  | .unreadableInteger => "int_parsing"
  | .hugeInteger => "int_parsing_size"
  | .frozen => "frozen_instance"

/-- Faults and the keys that they stand under. -/
abbrev FieldFaults := List (String × FieldFault)

/-- Either a value or the faults that keep it from being one; faults add up. -/
inductive Checked (α : Type) where
  | valid (value : α)
  | invalid (faults : FieldFaults)

namespace Checked

/-- A checked function applied to a checked value. -/
def seq {α β : Type} (f : Checked (α → β)) (x : Unit → Checked α) : Checked β :=
  match f, x () with
  | .valid f, .valid x => .valid (f x)
  | .valid _, .invalid faults => .invalid faults
  | .invalid faults, .valid _ => .invalid faults
  | .invalid faults, .invalid more => .invalid (faults ++ more)

instance : Pure Checked := ⟨.valid⟩
instance : Seq Checked := ⟨seq⟩

end Checked

/-! ## Fields -/

/-- The first of some keys that the data has, with its value. -/
def lookup? (data : Entries) : List String → Option (String × Tree)
  | [] => none
  | key :: rest =>
    match Entries.get? (Text.ofString key) data with
    | some value => some (key, value)
    | none => lookup? data rest

/-- Reads the field under one of some keys; without any of them it has a default or is missing
under the first. -/
def readField {α : Type} (data : Entries) (keys : List String) (otherwise : Option α)
    (read : Tree → Except FieldFault α) : Checked α :=
  match lookup? data keys, otherwise with
  | some (key, value), _ =>
    match read value with
    | .ok x => .valid x
    | .error fault => .invalid [(key, fault)]
  | none, some x => .valid x
  | none, none => .invalid [(keys.head?.getD "", .missing)]

/-- Reads one of a closed set of names. A text with a lone half of a surrogate pair is none that
could be compared with them. -/
def readName {α : Type} (ofText? : Text → Option α) (value : Tree) : Except FieldFault α :=
  match value.text?.bind ofText? with
  | some x => .ok x
  | none => .error (if value.text?.any Text.hasSurrogate then .notUnicode else .notOneOf)

/-- Reads a text. -/
def readText (value : Tree) : Except FieldFault Text :=
  match value with
  | .text t => .ok t
  | _ => .error .notText

/-- Reads a mapping. -/
def readMapping (value : Tree) : Except FieldFault Entries :=
  match value with
  | .map entries => .ok entries
  | _ => .error .notMapping

/-! ## Line numbers -/

/-- The number that some characters say with or without a minus sign in front: digits without a
zero in front of others, and nothing else. -/
def signedInteger (negative : Bool) (cs : List Char) : Except FieldFault Int :=
  let ds := cs.takeWhile Char.isDigit
  if ds.isEmpty || (ds.head? == some '0' && ds.length != 1) then .error .unreadableInteger
  else if longestInteger < ds.length + negative.toNat then .error .hugeInteger
  else if !(cs.dropWhile Char.isDigit).isEmpty then .error .unreadableInteger
  else
    let n : Int := ofDigits 10 (ds.filterMap (digitIn? 10))
    .ok (if negative then -n else n)

/-- An integer in the form that the catalog has it. -/
def plainInteger : List Char → Except FieldFault Int
  | '-' :: rest => signedInteger true rest
  | cs => signedInteger false cs

/-- What is left behind zeros, and behind underscores among them; the last of them stays in front
of a point and at the end. -/
def behindZeros? (last : Char) : List Char → Option (List Char)
  | [] => some [last]
  | c :: rest =>
    if c = '0' ∨ c = '_' then behindZeros? c rest
    else if c = '.' then some (last :: c :: rest)
    else if c.isDigit ∨ c = '-' then some (c :: rest)
    else none

/-- Drops zeros in front of a number. -/
def dropZeros? (cs : List Char) : Option (List Char) :=
  match cs with
  | '0' :: rest => behindZeros? '0' rest
  | c :: _ => if c.isDigit ∨ c = '-' then some cs else none
  | [] => none

/-- Drops a point with nothing but zeros behind it. -/
def dropPoint (cs : List Char) : List Char :=
  let fraction := (cs.dropWhile (· ≠ '.')).drop 1
  if !fraction.isEmpty && fraction.all (· == '0') then cs.takeWhile (· ≠ '.') else cs

/-- Drops underscores that stand one by one between other characters. -/
def dropUnderscores (cs : List Char) : List Char :=
  let parts := splitAt (· == '_') cs
  if parts.all (!·.isEmpty) then parts.flatten else cs

/-- Digits without zeros in front, a point and underscores. -/
def tidyDigits? (cs : List Char) : Option (List Char) :=
  (dropZeros? cs).map fun cs => dropUnderscores (dropPoint cs)

/-- A number with tidy digits, and without a plus sign. -/
def tidyInteger? : List Char → Option (List Char)
  | '-' :: rest => (tidyDigits? rest).map ('-' :: ·)
  | '+' :: '-' :: _ => none
  | '+' :: rest => tidyDigits? rest
  | cs => tidyDigits? cs

/-- The blanks that may stand around a line number: all but the ASCII separators. -/
def isLineBlank (c : Char) : Bool :=
  isBlankPoint c.toNat && !(decide (0x1C ≤ c.toNat) && decide (c.toNat ≤ 0x1F))

/-- The line number that a text says: as it is, or else when it is tidied up. -/
def readLineText (t : Text) : Except FieldFault Int :=
  match t.toChars? with
  | none => .error .notUnicode
  | some cs =>
    match plainInteger cs with
    | .ok n => .ok n
    | .error .hugeInteger => .error .hugeInteger
    | .error _ =>
      match (tidyInteger? (trimEnds isLineBlank cs)).map plainInteger with
      | some (.ok n) => .ok n
      | _ => .error .unreadableInteger

/-- Reads a line number, or null for none. -/
def readLine (value : Tree) : Except FieldFault (Option Int) :=
  match value with
  | .null => .ok none
  | .bool b => .ok (some (if b then 1 else 0))
  | .int n => .ok (some n)
  | .float x =>
    if x.isNaN || x.isInfinite then .error .notFinite
    else match x.toInt? with
      | none => .error .hasFraction
      | some n =>
        if n.natAbs < Binary64.signBit then .ok (some n) else .error .hugeInteger
  | .text t => (readLineText t).map some
  | _ => .error .notInteger

namespace EndpointRecord

/-- The keys under which a field may be given, the catalog file's first. -/
def keysOf (key : KeyStyle → String) : List String := [key .catalog, key .plain]

/-- The record that some data describe. -/
def ofEntries (data : Entries) : Checked EndpointRecord :=
  pure EndpointRecord.mk
    <*> readField data ["method"] none (readName Method.ofText?)
    <*> readField data ["path"] (some []) readText
    <*> readField data ["headers"] (some []) readMapping
    <*> readField data (keysOf queryKey) (some []) readMapping
    <*> readField data ["body"] (some Tree.null) Except.ok
    <*> readField data (keysOf sourceKey) none readText
    <*> readField data (keysOf resourceKey) none readText
    <*> readField data ["kind"] (some EndpointKind.route) (readName EndpointKind.ofText?)
    <*> readField data ["line"] (some none) readLine

/-- Whether two records are equal, field by field. -/
def same (r s : EndpointRecord) : Bool :=
  (Tree.map (r.toEntries .plain)).same (.map (s.toEntries .plain))

/-- Setting a field of a record always fails. -/
def set (_ : EndpointRecord) (name : String) (_ : Tree) : Checked EndpointRecord :=
  .invalid [(name, .frozen)]

end EndpointRecord

end EndpointCatalog
