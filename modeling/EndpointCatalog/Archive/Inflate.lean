/-
EndpointCatalog.Archive.Inflate — expanding deflated data.

* `Code` is a canonical prefix code, given by the length of each symbol's
  codeword.
* `inflate` expands blocks until the last one. Data that end too early give
  what they hold; data that break a rule are corrupt.
-/

namespace EndpointCatalog.Archive

/-! ## Prefix codes -/

/-- A canonical prefix code: how many codewords there are of each length from one on, and the
symbols in the order of their codewords. -/
structure Code where
  counts : List Nat
  symbols : Array Nat

namespace Code

/-- The longest codeword. -/
def longest : Nat := 15

/-- The code of some codeword lengths; a length of zero means that there is no codeword. -/
def ofLengths (lengths : List Nat) : Code :=
  let each := (List.range longest).map (· + 1)
  let numbered := lengths.zipIdx
  ⟨each.map fun n => lengths.count n,
    (each.flatMap fun n => (numbered.filter fun x => x.1 = n).map Prod.snd).toArray⟩

/-- The codewords of the longest length that are left over; negative if there are too many. -/
def leftOver (c : Code) : Int :=
  c.counts.foldl (fun (left : Int) (n : Nat) => 2 * left - n) 1

/-- Whether every sequence of bits starts with a codeword, or else there is at most one codeword,
and that of a single bit. -/
def isUsable (c : Code) : Bool :=
  c.leftOver = 0 || (decide (0 < c.leftOver) && c.counts.tail.all (· == 0))

end Code

/-! ## State of the reader -/

/-- Why expanding stops before the last block. -/
inductive Halt where
  /-- The data end. -/
  | outOfData
  /-- The data break a rule. -/
  | corrupt
deriving DecidableEq, Repr

/-- What is still to be read, and what has been expanded. -/
structure Expansion where
  /-- Bits of the current byte that are still to be read, the next one lowest. -/
  bits : Nat := 0
  /-- How many of these bits there are. -/
  count : Nat := 0
  rest : List UInt8
  output : Array UInt8 := #[]

/-- A step of expanding; what was expanded is kept when it stops. -/
abbrev Expanding := ExceptT Halt (StateM Expansion)

namespace Expanding

/-- The next bit. -/
def bit : Expanding Nat := do
  let s ← get
  if s.count = 0 then
    match s.rest with
    | [] => throw .outOfData
    | b :: rest => do
      set { s with bits := b.toNat / 2, count := 7, rest := rest }
      pure (b.toNat % 2)
  else do
    set { s with bits := s.bits / 2, count := s.count - 1 }
    pure (s.bits % 2)

/-- A number of some bits, the lowest first. -/
def number : Nat → Expanding Nat
  | 0 => pure 0
  | n + 1 => do
    let low ← bit
    let high ← number n
    pure (low + 2 * high)

/-- Adds a byte to the output. -/
def emit (b : UInt8) : Expanding Unit := modify fun s => { s with output := s.output.push b }

/-- Copies bytes of the output from some distance back. -/
def copy (distance : Nat) : Nat → Expanding Unit
  | 0 => pure ()
  | n + 1 => do
    let s ← get
    match s.output[s.output.size - distance]? with
    | some b => do
      emit b
      copy distance n
    | none => throw .corrupt

/-- The symbol of the next codeword: `first` is the codeword of this length that comes first,
`index` its place among the symbols, `code` the bits read so far. -/
def symbolFrom (c : Code) (code first index : Nat) : List Nat → Expanding Nat
  | [] => throw .corrupt
  | count :: longer => do
    let word := 2 * code + (← bit)
    let start := 2 * first
    if word < start + count then
      match c.symbols[index + (word - start)]? with
      | some s => pure s
      | none => throw .corrupt
    else symbolFrom c word (start + count) (index + count) longer

/-- The symbol of the next codeword. -/
def symbol (c : Code) : Expanding Nat := symbolFrom c 0 0 0 c.counts

/-! ## Blocks -/

/-- Shortest length and extra bits of the length symbols from 257 on. -/
def lengthTable : Array (Nat × Nat) :=
  #[(3, 0), (4, 0), (5, 0), (6, 0), (7, 0), (8, 0), (9, 0), (10, 0), (11, 1), (13, 1), (15, 1),
    (17, 1), (19, 2), (23, 2), (27, 2), (31, 2), (35, 3), (43, 3), (51, 3), (59, 3), (67, 4),
    (83, 4), (99, 4), (115, 4), (131, 5), (163, 5), (195, 5), (227, 5), (258, 0)]

/-- Shortest distance and extra bits of the distance symbols. -/
def distanceTable : Array (Nat × Nat) :=
  #[(1, 0), (2, 0), (3, 0), (4, 0), (5, 1), (7, 1), (9, 2), (13, 2), (17, 3), (25, 3), (33, 4),
    (49, 4), (65, 5), (97, 5), (129, 6), (193, 6), (257, 7), (385, 7), (513, 8), (769, 8),
    (1025, 9), (1537, 9), (2049, 10), (3073, 10), (4097, 11), (6145, 11), (8193, 12),
    (12289, 12), (16385, 13), (24577, 13)]

/-- A number by its symbol in a table. -/
def lookUp (table : Array (Nat × Nat)) (i : Nat) : Expanding Nat :=
  match table[i]? with
  | none => throw .corrupt
  | some (least, extra) => do pure (least + (← number extra))

/-- The symbol that ends a block. -/
def blockEnd : Nat := 256

/-- The symbols of a block up to its end. -/
def compressed (literals distances : Code) : Nat → Expanding Unit
  | 0 => throw .corrupt
  | fuel + 1 => do
    let s ← symbol literals
    if s < blockEnd then do
      emit (UInt8.ofNat s)
      compressed literals distances fuel
    else if s = blockEnd then pure ()
    else do
      let length ← lookUp lengthTable (s - (blockEnd + 1))
      let distance ← lookUp distanceTable (← symbol distances)
      if (← get).output.size < distance then throw .corrupt
      copy distance length
      compressed literals distances fuel

/-- Some bytes as they are. -/
def raw : Nat → Expanding Unit
  | 0 => pure ()
  | n + 1 => do
    emit (UInt8.ofNat (← number 8))
    raw n

/-- A block that is not compressed. -/
def stored : Expanding Unit := do
  modify fun s => { s with bits := 0, count := 0 }
  let length ← number 16
  let check ← number 16
  if length + check = 0xFFFF then raw length else throw .corrupt

/-- The fixed code of literals and lengths. -/
def fixedLiterals : Code :=
  .ofLengths (List.replicate 144 8 ++ List.replicate 112 9 ++ List.replicate 24 7 ++
    List.replicate 8 8)

/-- The fixed code of distances. -/
def fixedDistances : Code := .ofLengths (List.replicate 30 5)

/-- The order in which the lengths of the code for lengths are written. -/
def lengthOrder : List Nat := [16, 17, 18, 0, 8, 7, 9, 6, 10, 5, 11, 4, 12, 3, 13, 2, 14, 1, 15]

/-- Some numbers of three bits. -/
def triples : Nat → Expanding (List Nat)
  | 0 => pure []
  | n + 1 => do
    let first ← number 3
    pure (first :: (← triples n))

/-- The codeword lengths of a block, behind those that are `done`, last first. -/
def codeLengths (c : Code) (wanted : Nat) : Nat → List Nat → Expanding (List Nat)
  | 0, _ => throw .corrupt
  | fuel + 1, done =>
    if done.length = wanted then pure done.reverse
    else if wanted < done.length then throw .corrupt
    else do
      let s ← symbol c
      if s < 16 then codeLengths c wanted fuel (s :: done)
      else if s = 16 then
        match done with
        | [] => throw .corrupt
        | last :: _ => do
          codeLengths c wanted fuel (List.replicate (3 + (← number 2)) last ++ done)
      else if s = 17 then do
        codeLengths c wanted fuel (List.replicate (3 + (← number 3)) 0 ++ done)
      else do
        codeLengths c wanted fuel (List.replicate (11 + (← number 7)) 0 ++ done)

/-- The codes that a block brings along. -/
def ownCodes : Expanding (Code × Code) := do
  let literalCount := 257 + (← number 5)
  let distanceCount := 1 + (← number 5)
  let written := 4 + (← number 4)
  if 286 < literalCount || 30 < distanceCount then throw .corrupt
  let given := lengthOrder.zip (← triples written)
  let code := Code.ofLengths ((List.range 19).map fun i => (given.lookup i).getD 0)
  if code.leftOver ≠ 0 then throw .corrupt
  let lengths ← codeLengths code (literalCount + distanceCount)
    (literalCount + distanceCount + 1) []
  let literals := Code.ofLengths (lengths.take literalCount)
  let distances := Code.ofLengths (lengths.drop literalCount)
  if (lengths[blockEnd]?).getD 0 = 0 then throw .corrupt
  if literals.isUsable && distances.isUsable then pure (literals, distances) else throw .corrupt

/-- The blocks up to the last one. -/
def blocks : Nat → Expanding Unit
  | 0 => throw .corrupt
  | fuel + 1 => do
    let isLast ← bit
    match ← number 2 with
    | 0 => stored
    | 1 => compressed fixedLiterals fixedDistances fuel
    | 2 => do
      let (literals, distances) ← ownCodes
      compressed literals distances fuel
    | _ => throw .corrupt
    if isLast = 1 then pure () else blocks fuel

end Expanding

/-- Expands deflated data; `none` if they are corrupt. -/
def inflate? (data : List UInt8) : Option (List UInt8) :=
  match (Expanding.blocks (8 * data.length + 1)).run.run { rest := data } with
  | (.error .corrupt, _) => none
  | (_, s) => some s.output.toList

end EndpointCatalog.Archive
