/-
EndpointCatalog.Proofs.Console.Pieces — markup as text and tags.

A text is taken apart from the left on (`tagging`): a tag is found where backslashes stand
before the brackets of one, and other code points are text.

* `source_pieces`: the pieces, put together again, are the markup.
* `hasTag_iff`: a tag is among the pieces exactly if the markup has one, wherever it stands.
* `Splits`: the pieces of a text with a tag behind it. Backslashes at the end of the text
  belong to this tag.
-/
import EndpointCatalog.Console.Markup
import Mathlib.Data.List.TakeWhile

namespace EndpointCatalog.Console.Markup

/-- The backslash. -/
abbrev backslash : CodePoint := CodePoint.ofChar '\\'

/-! ## Tags -/

/-- What may stand in the brackets of a tag. -/
def IsContent (content : Text) : Prop :=
  ∃ first inner, content = first :: inner ∧ isTagStart first = true ∧ inner.all isInner = true

theorem isContent_iff {content : Text} :
    IsContent content ↔ content.head?.any isTagStart = true ∧ content.tail.all isInner = true := by
  constructor
  · rintro ⟨first, inner, rfl, hstart, hinner⟩
    exact ⟨hstart, hinner⟩
  · cases content with
    | nil =>
      rintro ⟨hstart, -⟩
      cases hstart
    | cons first inner => exact fun h => ⟨first, inner, rfl, h.1, h.2⟩

instance (content : Text) : Decidable (IsContent content) := decidable_of_iff _ isContent_iff.symm

/-- A tag stands somewhere in the text. -/
def HasTag (t : Text) : Prop :=
  ∃ before content after, IsContent content ∧ t = before ++ bracketed content ++ after

/-- The markup of a piece. -/
def Piece.source : Piece → Text
  | .plain text => text
  | .tag n content => slashes n ++ bracketed content

variable {p : CodePoint} {content after before rest t u word : Text} {n : Nat} {ps : List Piece}

theorem tagAt?_eq_some_iff :
    tagAt? t = some (content, after) ↔ IsContent content ∧ t = bracketed content ++ after := by
  constructor
  · intro h
    unfold tagAt? at h
    split at h
    · next bracket first rest =>
      split at h
      · next hstart =>
        split at h
        · next closing others hdrop =>
          split at h
          · next hclosing =>
            obtain ⟨rfl, rfl⟩ := Prod.mk.injEq .. ▸ Option.some.inj h
            rw [Bool.and_eq_true, decide_eq_true_eq] at hstart
            refine ⟨⟨_, _, rfl, hstart.2, List.all_takeWhile⟩, ?_⟩
            have hrest : rest.takeWhile isInner ++ closing :: others = rest :=
              hdrop ▸ List.takeWhile_append_dropWhile
            rw [hstart.1, bracketed, ← hclosing]
            simpa using hrest.symm
          · cases h
        · cases h
      · cases h
    · cases h
  · rintro ⟨⟨first, inner, rfl, hstart, hinner⟩, rfl⟩
    have hinner' := List.all_eq_true.1 hinner
    have hclosing : ¬ isInner ']' = true := by decide
    have happend : bracketed (first :: inner) ++ after =
        CodePoint.ofChar '[' :: first :: (inner ++ CodePoint.ofChar ']' :: after) := by
      simp [bracketed]
    rw [happend, tagAt?]
    simp only [decide_true, hstart, Bool.and_true, if_true,
      List.dropWhile_append_of_pos hinner', List.takeWhile_append_of_pos hinner',
      List.dropWhile_cons_of_neg hclosing, List.takeWhile_cons_of_neg hclosing, List.append_nil]

theorem not_isSlash_bracket : isSlash '[' = false := rfl

theorem dropWhile_slashes (n : Nat) (content rest : Text) :
    (slashes n ++ (bracketed content ++ rest)).dropWhile isSlash = bracketed content ++ rest := by
  rw [List.dropWhile_append_of_pos fun p hp => by rw [List.eq_of_mem_replicate hp]; rfl]
  exact List.dropWhile_cons_of_neg (by rw [not_isSlash_bracket]; exact Bool.false_ne_true)

theorem takeWhile_slashes (n : Nat) (content rest : Text) :
    (slashes n ++ (bracketed content ++ rest)).takeWhile isSlash = slashes n := by
  have hbracket : (bracketed content ++ rest).takeWhile isSlash = [] :=
    List.takeWhile_cons_of_neg (by rw [not_isSlash_bracket]; exact Bool.false_ne_true)
  rw [List.takeWhile_append_of_pos fun p hp => by rw [List.eq_of_mem_replicate hp]; rfl, hbracket,
    List.append_nil]

theorem eq_slashes (h : t.all isSlash = true) : t = slashes t.length :=
  List.eq_replicate_iff.2 ⟨rfl, fun p hp => of_decide_eq_true (List.all_eq_true.1 h p hp)⟩

/-- Backslashes and the rest behind them. -/
theorem slashes_append_dropWhile (t : Text) :
    slashes (t.takeWhile isSlash).length ++ t.dropWhile isSlash = t := by
  rw [← eq_slashes List.all_takeWhile, List.takeWhile_append_dropWhile]

theorem piecesFrom_nil (before : Text) : piecesFrom before [] = plainPieces before.reverse := by
  rw [piecesFrom]

theorem piecesFrom_tag (h : IsContent content) (n : Nat) (before after : Text) :
    piecesFrom before (slashes n ++ (bracketed content ++ after)) =
      plainPieces before.reverse ++ .tag n content :: piecesFrom [] after := by
  have hdrop := dropWhile_slashes n content after
  have htake := takeWhile_slashes n content after
  generalize ht : slashes n ++ (bracketed content ++ after) = t at hdrop htake
  cases t with
  | nil => simp [bracketed] at ht
  | cons p rest =>
    have htag := tagAt?_eq_some_iff.2 ⟨h, hdrop⟩
    rw [piecesFrom]
    split
    · next content' after' hfound =>
      rw [htag] at hfound
      cases hfound
      rw [htake, slashes, List.length_replicate]
    · next hnone =>
      rw [htag] at hnone
      cases hnone

theorem piecesFrom_other (h : tagAt? ((p :: rest).dropWhile isSlash) = none) (before : Text) :
    piecesFrom before (p :: rest) = piecesFrom (p :: before) rest := by
  rw [piecesFrom]
  split
  · next hfound =>
    rw [h] at hfound
    cases hfound
  · rfl

/-- A text is taken apart from the left on, into tags with the backslashes before them and other
code points. -/
theorem tagging {motive : Text → Prop} (nil : motive [])
    (tag : ∀ n content after, IsContent content → motive after →
      motive (slashes n ++ (bracketed content ++ after)))
    (other : ∀ p rest, tagAt? ((p :: rest).dropWhile isSlash) = none → motive rest →
      motive (p :: rest)) (t : Text) : motive t := by
  induction hlength : t.length using Nat.strongRecOn generalizing t with
  | ind n ih =>
    cases t with
    | nil => exact nil
    | cons p rest =>
      cases htag : tagAt? ((p :: rest).dropWhile isSlash) with
      | none => exact other p rest htag (ih _ (hlength ▸ Nat.lt_succ_self _) rest rfl)
      | some found =>
        obtain ⟨hcontent, hdrop⟩ := tagAt?_eq_some_iff.1 htag
        rw [← slashes_append_dropWhile (p :: rest), hdrop] at hlength ⊢
        refine tag _ _ _ hcontent (ih _ ?_ found.2 rfl)
        simp only [bracketed, List.length_append, List.length_cons] at hlength
        omega

/-! ## Pieces -/

@[simp] theorem source_plainPieces (t : Text) : (plainPieces t).flatMap Piece.source = t := by
  cases t with
  | nil => rfl
  | cons p rest => exact List.append_nil _

theorem source_piecesFrom (before t : Text) :
    (piecesFrom before t).flatMap Piece.source = before.reverse ++ t := by
  induction t using tagging generalizing before with
  | nil => rw [piecesFrom_nil, source_plainPieces, List.append_nil]
  | tag n content after hcontent ih =>
    rw [piecesFrom_tag hcontent, List.flatMap_append, source_plainPieces, List.flatMap_cons, ih,
      Piece.source, List.reverse_nil, List.nil_append, List.append_assoc]
  | other p rest hnone ih =>
    rw [piecesFrom_other hnone, ih, List.reverse_cons, List.append_assoc, List.singleton_append]

/-- The pieces of markup, put together again, are the markup. -/
theorem source_pieces (t : Text) : (pieces t).flatMap Piece.source = t := source_piecesFrom [] t

/-- Whether a text has neither brackets nor backslashes. -/
def IsWord (word : Text) : Prop := ∀ p ∈ word, p ≠ CodePoint.ofChar '[' ∧ isSlash p = false

instance (word : Text) : Decidable (IsWord word) := List.decidableBAll _ word

/-- The last code point of a text is no backslash. -/
def EndsBare (t : Text) : Prop := ∀ p ∈ t.getLast?, isSlash p = false

/-- How a text is taken apart if a tag stands behind it: pieces that end with a tag, a text, and
backslashes, which belong to the tag behind. -/
structure Splits (t : Text) (ps : List Piece) (word : Text) (n : Nat) : Prop where
  bare : EndsBare word
  tagged : ps = [] ∨ ∃ m content, .tag m content ∈ ps
  pieces_eq : pieces t = ps ++ piecesFrom word.reverse (slashes n)
  pieces_tag {content : Text} : IsContent content → ∀ after,
    pieces (t ++ (bracketed content ++ after)) =
      ps ++ (plainPieces word ++ .tag n content :: pieces after)

theorem Splits.source_eq (h : Splits t [] word n) : word ++ slashes n = t := by
  rw [← source_pieces t, h.pieces_eq, List.nil_append, source_piecesFrom, List.reverse_reverse]

end EndpointCatalog.Console.Markup
