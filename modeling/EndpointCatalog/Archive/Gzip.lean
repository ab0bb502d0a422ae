/-
EndpointCatalog.Archive.Gzip — the frame around deflated data.

* `Gzip.read` expands framed data. The checksum behind the data is not
  looked at.
* `Gzip.write` frames data without compressing them.
-/
import EndpointCatalog.Archive.Fault
import EndpointCatalog.Archive.Inflate

namespace EndpointCatalog.Archive.Gzip

/-- Why framed data cannot be read. -/
inductive Stop where
  | fault (fault : Fault)
  /-- The frame ends before it says what it holds. -/
  | cutOff
deriving DecidableEq, Repr

/-- Whether a number has some bit. -/
def hasBit (flags bit : Nat) : Bool := flags / bit % 2 = 1

/-- Drops a text up to the zero byte that ends it. -/
def dropText (bytes : List UInt8) : List UInt8 := (bytes.dropWhile (· ≠ 0)).drop 1

/-- What follows the optional parts of a frame. -/
def dropOptions (flags : Nat) (bytes : List UInt8) : List UInt8 :=
  let afterName := if hasBit flags 8 then dropText bytes else bytes
  let afterComment := if hasBit flags 16 then dropText afterName else afterName
  if hasBit flags 2 then afterComment.drop 2 else afterComment

/-- Expands data, or tells that they are corrupt. -/
def expand (bytes : List UInt8) : Except Stop (List UInt8) :=
  match inflate? bytes with
  | some data => .ok data
  | none => .error (.fault .corrupt)

/-- Expands framed data. An extra field that is not empty is taken for compressed data, of which
as many bytes are left out as the field is said to have. -/
def read (bytes : List UInt8) : Except Stop (List UInt8) :=
  match bytes with
  | 0x1F :: 0x8B :: rest =>
    match rest with
    | 8 :: flags :: frame =>
      let flags := flags.toNat
      let body := frame.drop 6
      if hasBit flags 4 then
        match body with
        | low :: high :: data =>
          match low.toNat + 256 * high.toNat with
          | 0 => expand (dropOptions flags data)
          | extra => (expand data).map fun out => out.drop extra
        | _ => .error .cutOff
      else expand (dropOptions flags body)
    | [8] => .error .cutOff
    | _ => .error (.fault .unknownCompression)
  | _ => .error (.fault .notCompressed)

/-- A number in some bytes, the lowest first. -/
def littleEndian : Nat → Nat → List UInt8
  | 0, _ => []
  | n + 1, value => UInt8.ofNat (value % 256) :: littleEndian n (value / 256)

/-- The checksum of some bytes. -/
def checksum (bytes : List UInt8) : Nat :=
  let shift (x : UInt32) (_ : Nat) : UInt32 :=
    if x &&& 1 = 1 then (x >>> 1) ^^^ 0xEDB88320 else x >>> 1
  let step (x : UInt32) (b : UInt8) : UInt32 :=
    (List.range 8).foldl shift (x ^^^ b.toNat.toUInt32)
  (bytes.foldl step 0xFFFFFFFF ^^^ 0xFFFFFFFF).toNat

/-- The most bytes that an uncompressed block holds. -/
def blockSize : Nat := 0xFFFF

/-- Data in uncompressed blocks. -/
def storedBlocks (bytes : List UInt8) : List UInt8 :=
  let block := bytes.take blockSize
  let size := littleEndian 2 block.length ++ littleEndian 2 (blockSize - block.length)
  if _h : bytes.length ≤ blockSize then 1 :: (size ++ block)
  else 0 :: (size ++ block ++ storedBlocks (bytes.drop blockSize))
termination_by bytes.length
decreasing_by
  simp only [List.length_drop]
  simp only [blockSize] at _h ⊢
  omega

/-- Frames data without compressing them. -/
def write (bytes : List UInt8) : List UInt8 :=
  [0x1F, 0x8B, 8, 0, 0, 0, 0, 0, 0, 0xFF] ++ storedBlocks bytes ++
    littleEndian 4 (checksum bytes) ++ littleEndian 4 bytes.length

end EndpointCatalog.Archive.Gzip
