/-
EndpointCatalog.Archive.Tar — members one behind the other.

Each member is a header of 512 bytes and its content, filled up to a
multiple of 512. Names and link targets that are too long for a header
stand in a header of their own before it.

* `Tar.read` gives the members of an archive.
* `Tar.write` writes members.
-/
import EndpointCatalog.Archive.Member
import EndpointCatalog.Number.Literal
import EndpointCatalog.Text.Utf8

namespace EndpointCatalog.Archive.Tar

/-- The size of a block. -/
def blockSize : Nat := 512

/-- A size filled up to whole blocks. -/
def padded (n : Nat) : Nat := (n + (blockSize - 1)) / blockSize * blockSize

/-! ## Fields of a header -/

/-- Some bytes of a block. -/
def field (block : List UInt8) (start length : Nat) : List UInt8 := (block.drop start).take length

/-- The text of a field, which ends at its first zero byte. -/
def textOf (bytes : List UInt8) : String :=
  String.ofList (Utf8.decodeReplacing (bytes.takeWhile (· ≠ 0)))

/-- Drops a base prefix that may stand before octal digits. -/
def dropOctalPrefix : List Char → List Char
  | '0' :: 'o' :: rest => rest
  | '0' :: 'O' :: rest => rest
  | cs => cs

/-- The number of a field: octal digits, or bytes behind a mark for large numbers. -/
def numberOf? (bytes : List UInt8) : Option Int :=
  match bytes with
  | [] => none
  | mark :: rest =>
    let size := ofDigits 256 (rest.map UInt8.toNat)
    if mark = 0x80 then some size
    else if mark = 0xFF then some ((size : Int) - (Nat.pow 256 rest.length : Nat))
    else
      let text := bytes.takeWhile (· ≠ 0)
      if text.any (128 ≤ ·) then none
      else
        match trimBlanks (text.map fun b => Char.ofNat b.toNat) with
        | [] => some 0
        | cs => do
          let (negative, digits) := splitSign cs
          let ds ← groupedDigits? 8 (dropOctalPrefix digits)
          let n : Int := ofDigits 8 ds
          pure (if negative then -n else n)

/-- The sum over a block with blanks for the bytes of the checksum, taken with a value for each
byte. -/
def blockSum (value : UInt8 → Int) (block : List UInt8) : Int :=
  (block.take 148 ++ block.drop 156).foldl (fun n b => n + value b) 256

/-- Whether a number is the checksum of a block, its bytes taken as unsigned or as signed. -/
def isChecksum (block : List UInt8) (n : Int) : Bool :=
  n = blockSum (fun b => (b.toNat : Int)) block ||
    n = blockSum (fun b => if b < 128 then (b.toNat : Int) else (b.toNat : Int) - 256) block

/-! ## Headers -/

/-- The header of a member. -/
structure Header where
  name : String
  target : String
  size : Int
  /-- The letter of the member's kind. -/
  letter : Char

/-- Drops the slashes at the end of a name. -/
def withoutSlashes (name : String) : String :=
  String.ofList (name.toList.reverse.dropWhile (· = '/')).reverse

namespace Header

/-- Whether the header is that of a file. -/
def isFile (h : Header) : Bool := ['0', '\x00', '7', 'S'].contains h.letter

/-- Whether the header is that of a directory. -/
def isDirectory (h : Header) : Bool := h.letter = '5'

/-- Whether content follows the header: it does for files and for unknown kinds. -/
def hasContent (h : Header) : Bool :=
  h.isFile || !(['1', '2', '3', '4', '5', '6', 'L', 'K'].contains h.letter)

/-- Drops the slashes at the end of a directory's name. -/
def normalName (h : Header) : Header :=
  if h.isDirectory then { h with name := withoutSlashes h.name } else h

/-- The kind of the member. -/
def kind (h : Header) : MemberKind :=
  if h.isFile then .file
  else if h.isDirectory then .directory
  else if h.letter = '2' then .link h.target
  else if h.letter = '1' then .sameAs h.target
  else .special

/-- Where the fields that must be numbers stand. -/
def numberFields : List (Nat × Nat) :=
  [(100, 8), (108, 8), (116, 8), (124, 12), (136, 12), (329, 8), (337, 8)]

/-- Reads the header of a block. -/
def read (block : List UInt8) : Except Fault Header :=
  if block.isEmpty then .error .missingHeader
  else if block.length ≠ blockSize then .error .shortHeader
  else if block.all (· = 0) then .error .earlyEnd
  else
    match numberOf? (field block 148 8) with
    | none => .error .badHeader
    | some sum =>
      if !isChecksum block sum then .error .badChecksum
      else if !(numberFields.all fun (start, length) =>
          (numberOf? (field block start length)).isSome) then .error .badHeader
      else
        let name := textOf (field block 0 100)
        let letter := Char.ofNat (((field block 156 1).headD 0).toNat)
        let isOldDirectory := letter = '\x00' && name.toList.getLast? = some '/'
        let base : Header :=
          { name := name
            target := textOf (field block 157 100)
            size := (numberOf? (field block 124 12)).getD 0
            letter := if isOldDirectory then '5' else letter }
        let named := base.normalName
        let above := textOf (field block 345 155)
        if above = "" || ['L', 'K', 'S'].contains base.letter then .ok named
        else .ok { named with name := above ++ "/" ++ named.name }

end Header

/-! ## Records of extended headers -/

/-- Names and values of an extended header. -/
abbrev Records := List (String × List UInt8)

/-- Sets a value. -/
def setRecord (key : String) (value : List UInt8) : Records → Records
  | [] => [(key, value)]
  | e :: rest => if e.1 = key then (key, value) :: rest else e :: setRecord key value rest

/-- Whether a byte is a decimal digit. -/
def isDigitByte (b : UInt8) : Bool := 48 ≤ b && b ≤ 57

/-- Reads records up to a zero byte: a length in decimal, a blank, name, equals sign, value and a
line feed; the length counts all of it. -/
def readRecords? (records : Records) : Nat → List UInt8 → Option Records
  | 0, _ => none
  | fuel + 1, bytes =>
    match bytes with
    | [] => some records
    | 0 :: _ => some records
    | _ =>
      let digits := bytes.takeWhile isDigitByte
      let length := ofDigits 10 (digits.map fun b => b.toNat - 48)
      let record := bytes.take length
      let body := (record.drop (digits.length + 1)).dropLast
      let key := body.takeWhile (· ≠ 61)
      if digits.isEmpty || bytes[digits.length]? ≠ some 32 || length < 5 ||
          bytes.length < length || record.getLast? ≠ some 10 || key.isEmpty ||
          key.length = body.length then none
      else
        readRecords? (setRecord (textOf key) (body.drop (key.length + 1)) records) fuel
          (bytes.drop length)

/-- The header with the values of some records in place of its own. -/
def Header.amend (records : Records) (h : Header) : Header :=
  records.foldl (fun h (key, value) =>
    if key = "path" then
      { h with name := withoutSlashes (String.ofList (Utf8.decodeReplacing value)) }
    else if key = "linkpath" then
      { h with target := String.ofList (Utf8.decodeReplacing value) }
    else if key = "size" then
      { h with size := (readInteger? (value.map fun b => Char.ofNat b.toNat)).getD 0 }
    else h) h

/-! ## Members -/

/-- Why there is no further member. -/
structure HeaderError where
  fault : Fault
  /-- Whether a header that announces another one came before. -/
  isAnnounced : Bool := false

/-- The header of the next member, with what the headers before it say about it; the records that
hold from now on; and what follows the header. -/
def nextHeader (records : Records) :
    Nat → List UInt8 → Except HeaderError (Header × Records × List UInt8)
  | 0, _ => .error ⟨.missingHeader, false⟩
  | fuel + 1, bytes => do
    let announced (e : HeaderError) : HeaderError := { e with isAnnounced := true }
    match Header.read (bytes.take blockSize) with
    | .error e => .error ⟨e, false⟩
    | .ok h =>
      let rest := bytes.drop blockSize
      if h.hasContent && h.size < 0 then .error ⟨.badSize, false⟩
      else
        let size := padded h.size.toNat
        let own := rest.take size
        let behind := rest.drop size
        if h.letter = 'L' || h.letter = 'K' then
          if h.size < 0 then .error ⟨.badSize, false⟩
          else
            let (next, records, body) ← (nextHeader records fuel behind).mapError announced
            if h.letter = 'L' then
              pure (({ next with name := textOf own } : Header).normalName, records, body)
            else pure ({ next with target := textOf own }, records, body)
        else if h.letter = 'x' || h.letter = 'X' then
          match readRecords? records (own.length + 1) own with
          | none => .error ⟨.badHeader, false⟩
          | some amendments => do
            let (next, records, body) ← (nextHeader records fuel behind).mapError announced
            pure (next.amend amendments, records, body)
        else if h.letter = 'g' then
          match readRecords? records (own.length + 1) own with
          | none => .error ⟨.badHeader, false⟩
          | some records => (nextHeader records fuel behind).mapError announced
        else pure ((h.amend records).normalName, records, rest)

/-- What a missing member means: at the start of an archive something must stand, later on the
archive ends there. -/
def faultOfEnd (isFirst : Bool) (e : HeaderError) : Option Fault :=
  if e.isAnnounced then some e.fault
  else if !isFirst then none
  else match e.fault with
    | .missingHeader => some .empty
    | .earlyEnd => none
    | fault => some fault

/-- The members from some place of an archive on. -/
def readMembers (isFirst : Bool) (records : Records) : Nat → List UInt8 → Contents
  | 0, _ => ⟨[], none⟩
  | fuel + 1, bytes =>
    match nextHeader records (bytes.length + 1) bytes with
    | .error e => ⟨[], faultOfEnd isFirst e⟩
    | .ok (h, records, body) =>
      let size := if h.hasContent then h.size.toNat else 0
      let content := if body.length < size then none else some (body.take size)
      let member : Member := ⟨h.name, h.kind, content⟩
      if body.length < padded size then ⟨[member], some .shortContent⟩
      else
        let others := readMembers false records fuel (body.drop (padded size))
        { others with members := member :: others.members }

/-- The members of an archive. -/
def read (bytes : List UInt8) : Contents := readMembers true [] (bytes.length + 1) bytes

/-! ## Writing -/

/-- Octal digits filled up with zeros to a width, and a zero byte. -/
def octal (width n : Nat) : List UInt8 :=
  let ds := Nat.toDigits 8 n
  (List.replicate (width - ds.length) '0' ++ ds).map (fun c => UInt8.ofNat c.toNat) ++ [0]

/-- Bytes filled up with zero bytes. -/
def filled (width : Nat) (bytes : List UInt8) : List UInt8 :=
  bytes.take width ++ List.replicate (width - bytes.length) 0

/-- A header block. -/
def headerBlock (name target : List UInt8) (size : Nat) (letter : Char) : List UInt8 :=
  let before := filled 100 name ++ octal 7 0o644 ++ octal 7 0 ++ octal 7 0 ++ octal 11 size ++
    octal 11 0
  let after := UInt8.ofNat letter.toNat :: (filled 100 target ++ Utf8.encode "ustar".toList ++
    [0, 48, 48] ++ filled 64 [] ++ octal 7 0 ++ octal 7 0 ++ filled 167 [])
  let sum := blockSum (fun b => (b.toNat : Int)) (before ++ List.replicate 8 32 ++ after)
  before ++ octal 6 sum.toNat ++ [32] ++ after

/-- Content filled up to whole blocks. -/
def contentBlocks (content : List UInt8) : List UInt8 := filled (padded content.length) content

/-- A header of its own for a text that is too long for a header. -/
def longText (letter : Char) (text : List UInt8) : List UInt8 :=
  if text.length ≤ 100 then []
  else headerBlock [] [] (text.length + 1) letter ++ contentBlocks (text ++ [0])

/-- The blocks of a member. -/
def memberBlocks (m : Member) : List UInt8 :=
  let name := Utf8.encode m.name.toList
  let target := match m.kind with
    | .link t => Utf8.encode t.toList
    | .sameAs t => Utf8.encode t.toList
    | _ => []
  let letter := match m.kind with
    | .file => '0'
    | .directory => '5'
    | .link _ => '2'
    | .sameAs _ => '1'
    | .special => '6'
  let content := match m.kind with
    | .file => m.content.getD []
    | _ => []
  longText 'K' target ++ longText 'L' name ++ headerBlock name target content.length letter ++
    contentBlocks content

/-- Writes members, and two blocks of zero bytes behind them. -/
def write (members : List Member) : List UInt8 :=
  members.flatMap memberBlocks ++ List.replicate (2 * blockSize) 0

end EndpointCatalog.Archive.Tar
