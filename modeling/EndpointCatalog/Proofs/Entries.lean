/-
EndpointCatalog.Proofs.Entries — mappings as association lists.

* `get?_insert`, `get?_update`, `get?_ofPairs`: what stands under a key. A
  mapping from pairs has under each key what the last pair of that key says.
* `mem_keys_insert` and its like: which keys there are.
* `ofPairs_eq_iff`: a mapping from pairs is these pairs if no key is there
  twice, and only then.
* `Aligned R`: two mappings with the same keys in the same order, and values
  that are related. All operations keep mappings aligned.
-/
import EndpointCatalog.Tree
import Mathlib.Data.List.Forall2
import Mathlib.Data.List.Nodup
import Mathlib.Data.List.Perm.Subperm
import Mathlib.Data.Option.Defs

namespace EndpointCatalog.Entries

/-- The keys of a mapping, in their order. -/
def keys (entries : Entries) : List Text := entries.map Prod.fst

/-! ## Entries -/

theorem mem_of_get? {key : Text} {value : Tree} {entries : Entries}
    (h : get? key entries = some value) : (key, value) ∈ entries := by
  induction entries with
  | nil => cases h
  | cons e es ih =>
    obtain ⟨k, v⟩ := e
    rw [get?] at h
    split at h
    · rename_i hk
      cases h
      rw [hk]
      exact .head es
    · exact .tail _ (ih h)

theorem mem_of_mem_insert {e : Text × Tree} {key : Text} {value : Tree} {entries : Entries}
    (h : e ∈ insert key value entries) : e = (key, value) ∨ e ∈ entries := by
  induction entries with
  | nil => exact .inl (List.mem_singleton.mp h)
  | cons first rest ih =>
    obtain ⟨k, v⟩ := first
    rw [insert] at h
    split at h
    · rename_i hk
      rcases List.mem_cons.mp h with rfl | h
      · exact .inl (by rw [hk])
      · exact .inr (.tail _ h)
    · rcases List.mem_cons.mp h with rfl | h
      · exact .inr (.head rest)
      · exact (ih h).imp_right (.tail _)

/-! ## Lookups -/

theorem get?_append (key : Text) (xs ys : Entries) :
    get? key (xs ++ ys) = (get? key xs).or (get? key ys) := by
  induction xs with
  | nil => rfl
  | cons e es ih =>
    obtain ⟨k, v⟩ := e
    rw [List.cons_append, get?, get?]
    split
    · rfl
    · exact ih

theorem get?_insert (key k : Text) (value : Tree) (entries : Entries) :
    get? key (insert k value entries) = if k = key then some value else get? key entries := by
  induction entries with
  | nil => rfl
  | cons e es ih =>
    obtain ⟨first, v⟩ := e
    rw [insert]
    by_cases hfirst : first = k
    · rw [if_pos hfirst, get?, get?, hfirst]
      split <;> rfl
    · rw [if_neg hfirst, get?, get?, ih]
      by_cases hkey : first = key
      · have hne : ¬ k = key := fun h => hfirst (hkey.trans h.symm)
        rw [if_pos hkey, if_neg hne, if_pos hkey]
      · rw [if_neg hkey, if_neg hkey]

theorem get?_update (key : Text) (entries extra : Entries) :
    get? key (update entries extra) = (get? key extra.reverse).or (get? key entries) := by
  induction extra generalizing entries with
  | nil => rfl
  | cons e es ih =>
    obtain ⟨k, v⟩ := e
    have step : update entries ((k, v) :: es) = update (insert k v entries) es := rfl
    rw [step, ih, get?_insert, List.reverse_cons, get?_append, Option.or_assoc, get?, get?]
    split <;> rfl

/-- The last pair of a key says what stands under it. -/
theorem get?_ofPairs (key : Text) (pairs : List (Text × Tree)) :
    get? key (ofPairs pairs) = get? key pairs.reverse := by
  rw [ofPairs, get?_update, get?, Option.or_none]

/-! ## Keys -/

theorem mem_keys_cons {key k : Text} {value : Tree} {entries : Entries} :
    key ∈ keys ((k, value) :: entries) ↔ key = k ∨ key ∈ keys entries := List.mem_cons

theorem mem_keys_iff {key : Text} {entries : Entries} :
    key ∈ keys entries ↔ ∃ value, get? key entries = some value := by
  induction entries with
  | nil =>
    constructor
    · intro h
      cases h
    · rintro ⟨_, h⟩
      cases h
  | cons e es ih =>
    obtain ⟨k, v⟩ := e
    rw [mem_keys_cons, ih, get?]
    by_cases hk : k = key
    · rw [if_pos hk]
      exact ⟨fun _ => ⟨v, rfl⟩, fun _ => .inl hk.symm⟩
    · rw [if_neg hk]
      exact ⟨fun h => h.resolve_left fun heq => hk heq.symm, .inr⟩

theorem mem_keys_insert {key k : Text} {value : Tree} {entries : Entries} :
    key ∈ keys (insert k value entries) ↔ key = k ∨ key ∈ keys entries := by
  rw [mem_keys_iff, mem_keys_iff, get?_insert]
  by_cases hk : k = key
  · rw [if_pos hk]
    exact ⟨fun _ => .inl hk.symm, fun _ => ⟨value, rfl⟩⟩
  · rw [if_neg hk]
    exact ⟨.inr, fun h => h.resolve_left fun heq => hk heq.symm⟩

theorem mem_keys_insertNew {key k : Text} {value : Tree} {entries : Entries} :
    key ∈ keys (insertNew k value entries) ↔ key = k ∨ key ∈ keys entries := by
  rw [insertNew]
  split
  · rename_i old hold
    constructor
    · exact .inr
    · rintro (rfl | h)
      · exact mem_keys_iff.mpr ⟨old, hold⟩
      · exact h
  · rw [keys, List.map_append, List.mem_append]
    constructor
    · rintro (h | h)
      · exact .inr h
      · exact .inl (List.mem_singleton.mp h)
    · rintro (rfl | h)
      · exact .inr (List.mem_singleton.mpr rfl)
      · exact .inl h

theorem mem_keys_update {key : Text} {entries extra : Entries} :
    key ∈ keys (update entries extra) ↔ key ∈ keys extra ∨ key ∈ keys entries := by
  induction extra generalizing entries with
  | nil => exact ⟨.inr, fun h => h.resolve_left List.not_mem_nil⟩
  | cons e es ih =>
    obtain ⟨k, v⟩ := e
    have step : update entries ((k, v) :: es) = update (insert k v entries) es := rfl
    rw [step, ih, mem_keys_insert, mem_keys_cons]
    exact or_left_comm.trans or_assoc.symm

theorem mem_keys_ofPairs {key : Text} {pairs : List (Text × Tree)} :
    key ∈ keys (ofPairs pairs) ↔ key ∈ keys pairs := by
  rw [ofPairs, mem_keys_update]
  exact ⟨fun h => h.resolve_right List.not_mem_nil, .inl⟩

/-! ## Keys that are there once -/

theorem keys_insert_of_mem {key : Text} {entries : Entries} (h : key ∈ keys entries)
    (value : Tree) : keys (insert key value entries) = keys entries := by
  induction entries with
  | nil => cases h
  | cons e rest ih =>
    obtain ⟨k, v⟩ := e
    rw [insert]
    by_cases hk : k = key
    · rw [if_pos hk]
      rfl
    · rw [if_neg hk, keys, List.map_cons, ← keys,
        ih ((mem_keys_cons.1 h).resolve_left (Ne.symm hk))]
      rfl

theorem insert_of_notMem {key : Text} {entries : Entries} (h : key ∉ keys entries)
    (value : Tree) : insert key value entries = entries ++ [(key, value)] := by
  induction entries with
  | nil => rfl
  | cons e rest ih =>
    obtain ⟨k, v⟩ := e
    rw [mem_keys_cons, not_or] at h
    rw [insert, if_neg (Ne.symm h.1), ih h.2, List.cons_append]

theorem nodup_keys_update {entries : Entries} (h : (keys entries).Nodup) (extra : Entries) :
    (keys (update entries extra)).Nodup := by
  induction extra generalizing entries with
  | nil => exact h
  | cons e rest ih =>
    obtain ⟨key, value⟩ := e
    refine ih ?_
    change (keys (insert key value entries)).Nodup
    by_cases hin : key ∈ keys entries
    · rwa [keys_insert_of_mem hin]
    · rw [insert_of_notMem hin, keys, List.map_append]
      refine List.nodup_append.2 ⟨h, List.nodup_singleton _, fun k hk k' hk' heq => hin ?_⟩
      rwa [heq, List.mem_singleton.1 hk'] at hk

theorem update_of_nodup {entries extra : Entries} (h : (keys (entries ++ extra)).Nodup) :
    update entries extra = entries ++ extra := by
  induction extra generalizing entries with
  | nil => exact (List.append_nil _).symm
  | cons e rest ih =>
    obtain ⟨k, v⟩ := e
    have hnot : k ∉ keys entries := fun hk => by
      rw [keys, List.map_append] at h
      exact (List.nodup_append.1 h).2.2 k hk k List.mem_cons_self rfl
    have hsplit : entries ++ (k, v) :: rest = insert k v entries ++ rest := by
      rw [insert_of_notMem hnot, List.append_assoc, List.singleton_append]
    rw [hsplit] at h ⊢
    exact ih h

theorem ofPairs_of_nodup {pairs : Entries} (h : (keys pairs).Nodup) : ofPairs pairs = pairs :=
  update_of_nodup h

/-- As long as the pairs, a mapping from them is the pairs, none of whose keys is there twice. -/
theorem ofPairs_eq_iff {pairs entries : Entries} (hlength : pairs.length = entries.length) :
    ofPairs pairs = entries ↔ pairs = entries ∧ (keys entries).Nodup := by
  constructor
  · intro heq
    have hempty : (keys []).Nodup := List.nodup_nil
    have hnodup : (keys (ofPairs pairs)).Nodup := nodup_keys_update hempty pairs
    have hsubset : keys (ofPairs pairs) ⊆ keys pairs := fun _ => mem_keys_ofPairs.1
    have hle : (keys pairs).length ≤ (keys (ofPairs pairs)).length := by
      simp only [keys, List.length_map, heq, hlength, Nat.le_refl]
    have hperm := (List.subperm_of_subset hnodup hsubset).perm_of_length_le hle
    have hpairs := ofPairs_of_nodup (hperm.nodup_iff.1 hnodup)
    exact ⟨hpairs.symm.trans heq, heq ▸ hnodup⟩
  · rintro ⟨rfl, hnodup⟩
    exact ofPairs_of_nodup hnodup

/-! ## Aligned mappings -/

/-- The same keys in the same order, with related values. -/
def Aligned (R : Text → Tree → Tree → Prop) (entries entries' : Entries) : Prop :=
  List.Forall₂ (fun e e' => e.1 = e'.1 ∧ R e.1 e.2 e'.2) entries entries'

namespace Aligned

variable {R : Text → Tree → Tree → Prop} {entries entries' : Entries}

theorem get? (h : Aligned R entries entries') (key : Text) :
    Option.Rel (R key) (Entries.get? key entries) (Entries.get? key entries') := by
  induction h with
  | nil => exact .none
  | @cons e e' _ _ hhead _ ih =>
    obtain ⟨k, v⟩ := e
    obtain ⟨k', v'⟩ := e'
    obtain ⟨rfl, hv⟩ := hhead
    rw [Entries.get?, Entries.get?]
    by_cases hk : k = key
    · rw [if_pos hk, if_pos hk]
      exact .some (hk ▸ hv)
    · rw [if_neg hk, if_neg hk]
      exact ih

theorem insert (h : Aligned R entries entries') {key : Text} {v v' : Tree} (hv : R key v v') :
    Aligned R (Entries.insert key v entries) (Entries.insert key v' entries') := by
  induction h with
  | nil => exact .cons ⟨rfl, hv⟩ .nil
  | @cons e e' _ _ hhead hrest ih =>
    obtain ⟨k, w⟩ := e
    obtain ⟨k', w'⟩ := e'
    obtain ⟨rfl, hw⟩ := hhead
    rw [Entries.insert, Entries.insert]
    by_cases hk : k = key
    · rw [if_pos hk, if_pos hk]
      exact .cons ⟨rfl, hk ▸ hv⟩ hrest
    · rw [if_neg hk, if_neg hk]
      exact .cons ⟨rfl, hw⟩ ih

theorem insertNew (h : Aligned R entries entries') {key : Text} {value : Tree}
    (hvalue : R key value value) :
    Aligned R (Entries.insertNew key value entries) (Entries.insertNew key value entries') := by
  have hget := h.get? key
  unfold Entries.insertNew
  generalize Entries.get? key entries = old, Entries.get? key entries' = old' at hget
  cases hget with
  | some => exact h
  | none => exact List.rel_append h (.cons ⟨rfl, hvalue⟩ .nil)

theorem update (h : Aligned R entries entries') {extra extra' : Entries}
    (hextra : Aligned R extra extra') :
    Aligned R (Entries.update entries extra) (Entries.update entries' extra') := by
  induction hextra generalizing entries entries' with
  | nil => exact h
  | @cons e e' es es' hhead hrest ih =>
    obtain ⟨k, v⟩ := e
    obtain ⟨k', v'⟩ := e'
    obtain ⟨rfl, hv⟩ := hhead
    exact ih (h.insert hv)

theorem ofPairs (h : Aligned R entries entries') :
    Aligned R (Entries.ofPairs entries) (Entries.ofPairs entries') :=
  update .nil h

end Aligned

end EndpointCatalog.Entries
