/-
EndpointCatalog.Proofs.Stored — framed data can be read again.

`Gzip.read_write`: reading what has been framed gives the data that were
framed, however long they are. They stand in blocks that are not compressed.
Each block starts and ends with a whole byte, so that its length and content
are read byte by byte (`run_number_byte`).
-/
import EndpointCatalog.Archive.Gzip
import EndpointCatalog.Proofs.Run
import Mathlib

namespace EndpointCatalog.Archive

namespace Expanding

/-! ## Bits and bytes -/

theorem run_bit_first (bits : Nat) (b : UInt8) (rest : List UInt8) (output : Array UInt8) :
    (ExceptT.run bit).run ⟨bits, 0, b :: rest, output⟩ =
      (.ok (b.toNat % 2), ⟨b.toNat / 2, 7, rest, output⟩) := rfl

theorem run_bit_next (bits count : Nat) (rest : List UInt8) (output : Array UInt8) :
    (ExceptT.run bit).run ⟨bits, count + 1, rest, output⟩ =
      (.ok (bits % 2), ⟨bits / 2, count, rest, output⟩) := rfl

/-- Bits of the current byte. -/
theorem run_number (n bits count : Nat) (rest : List UInt8) (output : Array UInt8) :
    (ExceptT.run (number n)).run ⟨bits, count + n, rest, output⟩ =
      (.ok (bits % 2 ^ n), ⟨bits / 2 ^ n, count, rest, output⟩) := by
  induction n generalizing bits with
  | zero => rw [pow_zero, Nat.mod_one, Nat.div_one]; rfl
  | succ n ih =>
    have hlow : bits % 2 + 2 * (bits / 2 % 2 ^ n) = bits % 2 ^ (n + 1) := by
      rw [pow_succ', Nat.mod_mul]
    have hhigh : bits / 2 / 2 ^ n = bits / 2 ^ (n + 1) := by
      rw [Nat.div_div_eq_div_mul, pow_succ']
    rw [number, run_bind, ← Nat.add_assoc, run_bit_next]
    simp only [run_bind, ih, run_pure, hlow, hhigh]

/-- Eight bits are the next byte. -/
theorem run_number_byte (b : UInt8) (rest : List UInt8) (output : Array UInt8) :
    (ExceptT.run (number 8)).run ⟨0, 0, b :: rest, output⟩ =
      (.ok b.toNat, ⟨0, 0, rest, output⟩) := by
  have hbyte : b.toNat < 256 := b.toNat_lt
  have hlow : b.toNat % 2 + 2 * (b.toNat / 2 % 2 ^ 7) = b.toNat := by omega
  have hhigh : b.toNat / 2 / 2 ^ 7 = 0 := by omega
  have hnumber := run_number 7 (b.toNat / 2) 0 rest output
  rw [Nat.zero_add] at hnumber
  rw [number, run_bind, run_bit_first]
  simp only [run_bind, hnumber, run_pure, hlow, hhigh]

/-- A number of more bits is read in two parts. -/
theorem number_add (m n : Nat) : number (m + n) =
    number m >>= fun low => number n >>= fun high => pure (low + 2 ^ m * high) := by
  induction m with
  | zero => simp only [Nat.zero_add, number, pure_bind, pow_zero, one_mul, bind_pure]
  | succ m ih =>
    rw [Nat.succ_add, number, ih, number]
    simp only [bind_assoc, pure_bind]
    congr 1
    funext low
    congr 1
    funext middle
    congr 1
    funext high
    congr 1
    ring

/-- A number of two bytes. -/
theorem run_number_littleEndian {value : Nat} (hvalue : value < 65536) (rest : List UInt8)
    (output : Array UInt8) :
    (ExceptT.run (number 16)).run ⟨0, 0, Gzip.littleEndian 2 value ++ rest, output⟩ =
      (.ok value, ⟨0, 0, rest, output⟩) := by
  have hlow : (UInt8.ofNat (value % 256)).toNat = value % 256 := by
    rw [UInt8.toNat_ofNat']
    omega
  have hhigh : (UInt8.ofNat (value / 256 % 256)).toNat = value / 256 := by
    rw [UInt8.toNat_ofNat']
    omega
  have hsum : value % 256 + 2 ^ 8 * (value / 256) = value := by omega
  rw [number_add 8 8]
  simp only [Gzip.littleEndian, List.cons_append, List.nil_append, run_bind, run_number_byte,
    run_pure, hlow, hhigh, hsum]

/-! ## Blocks -/

theorem run_raw (bytes rest : List UInt8) (output : Array UInt8) :
    (ExceptT.run (raw bytes.length)).run ⟨0, 0, bytes ++ rest, output⟩ =
      (.ok (), ⟨0, 0, rest, output ++ bytes.toArray⟩) := by
  induction bytes generalizing output with
  | nil => rw [Array.append_empty]; rfl
  | cons b bytes ih =>
    rw [List.length_cons, raw, List.cons_append, run_bind, run_number_byte]
    simp only [run_bind, emit, run_modify, UInt8.ofNat_toNat, ih]
    simp

/-- A block that is not compressed, whatever bits are left in front of it. -/
theorem run_stored {block : List UInt8} (hblock : block.length ≤ Gzip.blockSize) (bits count : Nat)
    (rest : List UInt8) (output : Array UInt8) :
    (ExceptT.run stored).run ⟨bits, count, Gzip.littleEndian 2 block.length ++
        (Gzip.littleEndian 2 (Gzip.blockSize - block.length) ++ (block ++ rest)), output⟩ =
      (.ok (), ⟨0, 0, rest, output ++ block.toArray⟩) := by
  have hsize : Gzip.blockSize = 65535 := rfl
  have hsum : block.length + (Gzip.blockSize - block.length) = 0xFFFF := by omega
  rw [stored, run_bind, run_modify]
  simp only [run_bind, run_number_littleEndian (show block.length < 65536 by omega),
    run_number_littleEndian (show Gzip.blockSize - block.length < 65536 by omega), hsum, if_true,
    run_raw]

/-- The bits in front of a block say that it is not compressed, and whether it is the last one. -/
theorem run_blocks_stored {block : List UInt8} (hblock : block.length ≤ Gzip.blockSize)
    (isLast : Bool) (fuel : Nat) (rest : List UInt8) (output : Array UInt8) :
    (ExceptT.run (blocks (fuel + 1))).run ⟨0, 0, (if isLast then 1 else 0) ::
        (Gzip.littleEndian 2 block.length ++
          (Gzip.littleEndian 2 (Gzip.blockSize - block.length) ++ (block ++ rest))), output⟩ =
      if isLast then (.ok (), ⟨0, 0, rest, output ++ block.toArray⟩)
      else (ExceptT.run (blocks fuel)).run ⟨0, 0, rest, output ++ block.toArray⟩ := by
  have hkind := run_number 2 0 5 (Gzip.littleEndian 2 block.length ++
    (Gzip.littleEndian 2 (Gzip.blockSize - block.length) ++ (block ++ rest))) output
  cases isLast with
  | true =>
    rw [blocks, run_bind, if_pos rfl, run_bit_first, show (1 : UInt8).toNat / 2 = 0 from rfl]
    simp only [run_bind, hkind, Nat.zero_mod, run_stored hblock]
    rfl
  | false =>
    rw [blocks, run_bind, if_neg Bool.false_ne_true, run_bit_first,
      show (0 : UInt8).toNat / 2 = 0 from rfl]
    simp only [run_bind, hkind, Nat.zero_mod, run_stored hblock]
    rfl

/-- The blocks of some data are expanded to them. -/
theorem run_blocks (bytes rest : List UInt8) (output : Array UInt8) {fuel : Nat}
    (hfuel : bytes.length < fuel) :
    (ExceptT.run (blocks fuel)).run ⟨0, 0, Gzip.storedBlocks bytes ++ rest, output⟩ =
      (.ok (), ⟨0, 0, rest, output ++ bytes.toArray⟩) := by
  obtain ⟨fuel, rfl⟩ := Nat.exists_eq_succ_of_ne_zero (Nat.ne_zero_of_lt hfuel)
  induction bytes using Gzip.storedBlocks.induct generalizing output fuel with
  | case1 bytes hshort =>
    have hblock : (bytes.take Gzip.blockSize) = bytes := List.take_of_length_le hshort
    have hrun := run_blocks_stored hshort true fuel rest output
    rw [Gzip.storedBlocks]
    simp only [hshort, dif_pos, hblock, List.cons_append, List.append_assoc]
    exact hrun
  | case2 bytes hlong ih =>
    have hblock : (bytes.take Gzip.blockSize).length ≤ Gzip.blockSize := List.length_take_le _ _
    have hdrop : (bytes.drop Gzip.blockSize).length < fuel := by
      have hsize : Gzip.blockSize = 65535 := rfl
      rw [List.length_drop]
      omega
    obtain ⟨less, rfl⟩ := Nat.exists_eq_succ_of_ne_zero (Nat.ne_zero_of_lt hdrop)
    have hrun := run_blocks_stored hblock false (less + 1)
      (Gzip.storedBlocks (bytes.drop Gzip.blockSize) ++ rest) output
    rw [Gzip.storedBlocks]
    simp only [hlong, dif_neg, not_false_eq_true, List.cons_append, List.append_assoc]
    refine hrun.trans ?_
    rw [if_neg Bool.false_ne_true, ih _ less hdrop]
    simp [List.take_append_drop]

end Expanding

theorem Gzip.length_le_storedBlocks (bytes : List UInt8) :
    bytes.length ≤ (storedBlocks bytes).length := by
  induction bytes using storedBlocks.induct with
  | case1 bytes hshort =>
    rw [storedBlocks]
    simp only [hshort, dif_pos, List.take_of_length_le hshort, List.length_cons,
      List.length_append]
    omega
  | case2 bytes hlong ih =>
    rw [storedBlocks]
    simp only [hlong, dif_neg, not_false_eq_true, List.length_cons, List.length_append,
      List.length_take, List.length_drop] at ih ⊢
    omega

theorem inflate?_storedBlocks (bytes rest : List UInt8) :
    inflate? (Gzip.storedBlocks bytes ++ rest) = some bytes := by
  have hfuel : bytes.length < 8 * (Gzip.storedBlocks bytes ++ rest).length + 1 := by
    have := Gzip.length_le_storedBlocks bytes
    rw [List.length_append]
    omega
  have hrun := Expanding.run_blocks bytes rest #[] hfuel
  rw [Array.empty_append] at hrun
  unfold inflate?
  rw [hrun]

/-- Data that have been framed are read again. -/
theorem Gzip.read_write (bytes : List UInt8) : Gzip.read (Gzip.write bytes) = .ok bytes := by
  have hinflate := inflate?_storedBlocks bytes
    (littleEndian 4 (checksum bytes) ++ littleEndian 4 bytes.length)
  rw [write, List.append_assoc]
  show expand (storedBlocks bytes ++ _) = _
  rw [expand, hinflate]

end EndpointCatalog.Archive
