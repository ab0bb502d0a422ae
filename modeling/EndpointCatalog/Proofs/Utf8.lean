/-
EndpointCatalog.Proofs.Utf8 — characters written as bytes are read back.

`readChar_encodeChar` is about one character: its first byte says how many
bytes follow and which of them may come next, and each of these adds six bits.
`decode?_encode` is about texts. No fault is found in what has been written.
`extract_encode` is about parts of texts: cutting bytes between characters
cuts the characters.
-/
import EndpointCatalog.Text.Utf8
import Mathlib.Tactic.IntervalCases

namespace EndpointCatalog.Utf8

/-! ## First bytes -/

theorem lead?_two {k : Nat} (hk : k < 32) (htwo : 2 ≤ k) :
    lead? (0xC0 + k) = some ⟨1, 0x80, 0xBF, k⟩ := by
  rw [lead?, if_neg (by omega), if_pos (by omega), Nat.add_sub_cancel_left]

theorem lead?_three {k : Nat} (hk : k < 16) : lead? (0xE0 + k) =
    some ⟨2, if k = 0 then 0xA0 else 0x80, if k = 13 then 0x9F else 0xBF, k⟩ := by
  interval_cases k <;> rfl

theorem lead?_four {k : Nat} (hk : k < 5) : lead? (0xF0 + k) =
    some ⟨3, if k = 0 then 0x90 else 0x80, if k = 4 then 0x8F else 0xBF, k⟩ := by
  interval_cases k <;> rfl

theorem toNat_byte {n : Nat} (h : n < 0x100) : (UInt8.ofNat n).toNat = n :=
  UInt8.toNat_ofNat_of_lt' h

theorem readChar_plain {n : Nat} (h : n < 0x80) (rest : List UInt8) :
    readChar (UInt8.ofNat n) rest = (some (Char.ofNat n), rest) := by
  rw [readChar, toNat_byte (by omega), if_pos h]

theorem readChar_lead {n following least greatest bits : Nat} (hn : 0x80 ≤ n) (hbyte : n < 0x100)
    (h : lead? n = some ⟨following, least, greatest, bits⟩) (rest : List UInt8) :
    readChar (UInt8.ofNat n) rest = readFollowing following least greatest bits rest := by
  rw [readChar, toNat_byte hbyte, if_neg (by omega), h]

/-! ## Following bytes -/

/-- A byte that follows adds six bits. -/
theorem readFollowing_cons {n least greatest bits k : Nat} (hk : k < 64)
    (hleast : least ≤ 0x80 + k) (hgreatest : 0x80 + k ≤ greatest) (rest : List UInt8) :
    readFollowing (n + 1) least greatest bits (UInt8.ofNat (0x80 + k) :: rest) =
      readFollowing n 0x80 0xBF (bits * 64 + k) rest := by
  rw [readFollowing, toNat_byte (by omega), if_pos ⟨hleast, hgreatest⟩, Nat.add_sub_cancel_left]

theorem readFollowing_usual {n bits k : Nat} (hk : k < 64) (rest : List UInt8) :
    readFollowing (n + 1) 0x80 0xBF bits (UInt8.ofNat (0x80 + k) :: rest) =
      readFollowing n 0x80 0xBF (bits * 64 + k) rest :=
  readFollowing_cons hk (by omega) (by omega) rest

/-! ## Characters -/

/-- The code of a character is no half of a pair. -/
theorem toNat_bounds (c : Char) : c.toNat < 0xD800 ∨ 0xDFFF < c.toNat ∧ c.toNat < 0x110000 :=
  c.valid

/-- A character is read from its bytes, whatever follows them. -/
theorem readChar_encodeChar (c : Char) : ∃ first more, encodeChar c = first :: more ∧
    ∀ rest, readChar first (more ++ rest) = (some c, rest) := by
  have hbounds := toNat_bounds c
  have hchar : Char.ofNat c.toNat = c := Char.ofNat_toNat c
  unfold encodeChar
  simp only [Nat.shiftRight_eq_div_pow, Nat.reduceMul, Nat.pow_zero, Nat.div_one]
  generalize c.toNat = n at hbounds hchar
  split
  · next hone => exact ⟨_, _, rfl, fun rest => by rw [List.nil_append, readChar_plain hone, hchar]⟩
  split
  · next htwo =>
    refine ⟨_, _, rfl, fun rest => ?_⟩
    have hbits : n / 64 * 64 + n % 64 = n := by omega
    rw [readChar_lead (by omega) (by omega) (lead?_two (by omega) (by omega)), List.cons_append,
      readFollowing_usual (by omega), hbits, readFollowing, hchar, List.nil_append]
  split
  · next hthree =>
    refine ⟨_, _, rfl, fun rest => ?_⟩
    have hbits : (n / 2 ^ 12 * 64 + n / 2 ^ 6 % 64) * 64 + n % 64 = n := by omega
    rw [readChar_lead (by omega) (by omega) (lead?_three (by omega)), List.cons_append,
      List.cons_append, readFollowing_cons (by omega) (by split <;> omega) (by split <;> omega),
      readFollowing_usual (by omega), hbits, readFollowing, hchar, List.nil_append]
  · next hfour =>
    refine ⟨_, _, rfl, fun rest => ?_⟩
    have hbits : ((n / 2 ^ 18 * 64 + n / 2 ^ 12 % 64) * 64 + n / 2 ^ 6 % 64) * 64 + n % 64 = n := by
      omega
    rw [readChar_lead (by omega) (by omega) (lead?_four (by omega)), List.cons_append,
      List.cons_append, List.cons_append,
      readFollowing_cons (by omega) (by split <;> omega) (by split <;> omega),
      readFollowing_usual (by omega), readFollowing_usual (by omega), hbits, readFollowing, hchar,
      List.nil_append]

/-! ## Texts -/

theorem decodeOnto_encode (done : List (Option Char)) (cs : List Char) :
    decodeOnto done (encode cs) = done.reverse ++ cs.map some := by
  induction cs generalizing done with
  | nil => rw [encode, List.flatMap_nil, decodeOnto, List.map_nil, List.append_nil]
  | cons c cs ih =>
    obtain ⟨first, more, hbytes, hread⟩ := readChar_encodeChar c
    have hencode : encode (c :: cs) = first :: (more ++ encode cs) := by
      rw [encode, List.flatMap_cons, hbytes, List.cons_append, ← encode]
    rw [hencode, decodeOnto, hread, ih, List.reverse_cons, List.append_assoc, List.map_cons,
      List.singleton_append]

/-- What has been written is read back. -/
theorem decode?_encode (cs : List Char) : decode? (encode cs) = some cs := by
  have hdecode : decode (encode cs) = cs.map some := decodeOnto_encode [] cs
  rw [decode?, hdecode]
  clear hdecode
  induction cs with
  | nil => rfl
  | cons c cs ih => rw [List.map_cons, List.mapM_cons, ih]; rfl

theorem encode_append (cs ds : List Char) : encode (cs ++ ds) = encode cs ++ encode ds :=
  List.flatMap_append

theorem encode_injective {cs ds : List Char} (h : encode cs = encode ds) : cs = ds := by
  have hdecode := congrArg decode? h
  rw [decode?_encode, decode?_encode] at hdecode
  exact Option.some.inj hdecode

theorem decodeReplacing_encode (cs : List Char) : decodeReplacing (encode cs) = cs := by
  rw [decodeReplacing, decode, decodeOnto_encode, List.reverse_nil, List.nil_append, List.map_map]
  exact List.map_id cs

/-! ## Parts of texts -/

theorem length_encode_take_le {cs : List Char} {i j : Nat} (h : i ≤ j) :
    (encode (cs.take i)).length ≤ (encode (cs.take j)).length := by
  rw [← Nat.add_sub_of_le h, List.take_add, encode_append, List.length_append]
  exact Nat.le_add_right _ _

/-- Cutting bytes between characters cuts the characters. -/
theorem extract_encode (cs : List Char) (i j : Nat) :
    (encode cs).extract (encode (cs.take i)).length (encode (cs.take j)).length =
      encode (cs.extract i j) := by
  have hbehind : (encode cs).drop (encode (cs.take i)).length = encode (cs.drop i) := by
    conv_lhs => rw [← List.take_append_drop i cs, encode_append]
    rw [List.take_append_drop]
    exact List.drop_left' rfl
  rw [List.extract_eq_take_drop, List.extract_eq_take_drop, hbehind]
  rcases Nat.le_total i j with h | h
  · have hlength : (encode (cs.take j)).length - (encode (cs.take i)).length =
        (encode ((cs.drop i).take (j - i))).length := by
      conv_lhs => rw [← Nat.add_sub_of_le h, List.take_add, encode_append, List.length_append]
      rw [Nat.add_sub_cancel_left]
    rw [hlength]
    conv_lhs => rw [← List.take_append_drop (j - i) (cs.drop i), encode_append]
    rw [List.take_append_drop]
    exact List.take_left' rfl
  · rw [Nat.sub_eq_zero_of_le (length_encode_take_le h), Nat.sub_eq_zero_of_le h]
    rfl

end EndpointCatalog.Utf8
