/-
EndpointCatalog.Text.Utf8 — characters as bytes.

* `decode` reads bytes; each longest start of a character that goes wrong is
  one fault, a byte that starts no character is one fault by itself.
* `decodeReplacing`, `decodeSkipping` and `decode?` are the three ways to
  deal with faults.
* `encode` writes characters.
* `normalBreaks` makes every line break a line feed.
-/

namespace EndpointCatalog.Utf8

/-- What the first byte of a longer character says: how many bytes follow, the range of the next
byte, and the bits it contributes. -/
structure Lead where
  following : Nat
  least : Nat
  greatest : Nat
  bits : Nat

/-- Reads a first byte. Overlong forms, halves of surrogate pairs and numbers above the last code
point are excluded by the range of the second byte. -/
def lead? (b : Nat) : Option Lead :=
  if b < 0xC2 then none
  else if b < 0xE0 then some ⟨1, 0x80, 0xBF, b - 0xC0⟩
  else if b = 0xE0 then some ⟨2, 0xA0, 0xBF, 0⟩
  else if b = 0xED then some ⟨2, 0x80, 0x9F, 0xD⟩
  else if b < 0xF0 then some ⟨2, 0x80, 0xBF, b - 0xE0⟩
  else if b = 0xF0 then some ⟨3, 0x90, 0xBF, 0⟩
  else if b < 0xF4 then some ⟨3, 0x80, 0xBF, b - 0xF0⟩
  else if b = 0xF4 then some ⟨3, 0x80, 0x8F, 4⟩
  else none

/-- Reads the bytes that follow a first byte; `none` if one is missing or out of range. The byte
that goes wrong is not read. -/
def readFollowing : Nat → Nat → Nat → Nat → List UInt8 → Option Char × List UInt8
  | 0, _, _, bits, bytes => (some (Char.ofNat bits), bytes)
  | _ + 1, _, _, _, [] => (none, [])
  | n + 1, least, greatest, bits, b :: rest =>
    if least ≤ b.toNat ∧ b.toNat ≤ greatest then
      readFollowing n 0x80 0xBF (bits * 64 + (b.toNat - 0x80)) rest
    else (none, b :: rest)

/-- Reads one character, or one fault. -/
def readChar (first : UInt8) (rest : List UInt8) : Option Char × List UInt8 :=
  if first.toNat < 0x80 then (some (Char.ofNat first.toNat), rest)
  else match lead? first.toNat with
    | none => (none, rest)
    | some lead => readFollowing lead.following lead.least lead.greatest lead.bits rest

theorem length_readFollowing (n least greatest bits : Nat) (bytes : List UInt8) :
    (readFollowing n least greatest bits bytes).2.length ≤ bytes.length := by
  induction n generalizing least greatest bits bytes with
  | zero => simp [readFollowing]
  | succ n ih =>
    cases bytes with
    | nil => simp [readFollowing]
    | cons b rest =>
      simp only [readFollowing]
      split
      · exact Nat.le_succ_of_le (ih _ _ _ _)
      · exact Nat.le_refl _

theorem length_readChar (first : UInt8) (rest : List UInt8) :
    (readChar first rest).2.length ≤ rest.length := by
  unfold readChar
  split
  · exact Nat.le_refl _
  · split
    · exact Nat.le_refl _
    · exact length_readFollowing _ _ _ _ _

/-- Reads bytes behind the characters that are `done`, last first. -/
def decodeOnto (done : List (Option Char)) : List UInt8 → List (Option Char)
  | [] => done.reverse
  | first :: rest => decodeOnto ((readChar first rest).1 :: done) (readChar first rest).2
termination_by bytes => bytes.length
decreasing_by exact Nat.lt_succ_of_le (length_readChar first rest)

/-- The characters of some bytes, `none` for each fault. -/
def decode (bytes : List UInt8) : List (Option Char) := decodeOnto [] bytes

/-- The characters of some bytes, U+FFFD for each fault. -/
def decodeReplacing (bytes : List UInt8) : List Char :=
  (decode bytes).map fun c => c.getD '\uFFFD'

/-- The characters of some bytes without the faults. -/
def decodeSkipping (bytes : List UInt8) : List Char := (decode bytes).filterMap id

/-- The characters of some bytes that have no fault. -/
def decode? (bytes : List UInt8) : Option (List Char) := (decode bytes).mapM id

/-- The bytes of a character. -/
def encodeChar (c : Char) : List UInt8 :=
  let n := c.toNat
  let last (k : Nat) : UInt8 := UInt8.ofNat (0x80 + n >>> (6 * k) % 64)
  if n < 0x80 then [UInt8.ofNat n]
  else if n < 0x800 then [UInt8.ofNat (0xC0 + n / 64), last 0]
  else if n < 0x10000 then [UInt8.ofNat (0xE0 + n >>> 12), last 1, last 0]
  else [UInt8.ofNat (0xF0 + n >>> 18), last 2, last 1, last 0]

/-- The bytes of some characters. -/
def encode (cs : List Char) : List UInt8 := cs.flatMap encodeChar

/-- Line feeds for the line breaks of some characters, behind those that are `done`, last first. -/
def normalBreaksOnto (done : List Char) : List Char → List Char
  | [] => done.reverse
  | '\r' :: '\n' :: rest => normalBreaksOnto ('\n' :: done) rest
  | '\r' :: rest => normalBreaksOnto ('\n' :: done) rest
  | c :: rest => normalBreaksOnto (c :: done) rest

/-- Makes each carriage return, alone or with a line feed behind it, a line feed. -/
def normalBreaks (cs : List Char) : List Char := normalBreaksOnto [] cs

end EndpointCatalog.Utf8
