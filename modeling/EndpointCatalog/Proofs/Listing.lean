/-
EndpointCatalog.Proofs.Listing — a listing in a file, read again.

A listing has one line per record, and tabs between the columns of a line. No
character is spelled in another way, so that a tab or a line feed of a path or of
a file name looks like one between columns or lines.

* `readListing`: the columns of the lines of a file.
* `IsListable`: neither separators nor lone halves of pairs are in the texts of a
  record. `readTable_listing_iff` is about the text alone.
* `CommandLine.listing_read_back`: the file that is written says of each record
  what it is, in their order, if and only if all of them are listable; and it has
  as many lines more than there are records as there are line feeds in them.

The path of a route may hold a line feed (`feed_splits_line`).
-/
import EndpointCatalog.Proofs.FileTree.Writing
import EndpointCatalog.Proofs.Printed
import EndpointCatalog.Proofs.Temporary
import EndpointCatalog.Proofs.Utf8

namespace EndpointCatalog

/-! ## Pieces -/

section Pieces

variable {α : Type} {isSeparator : α → Bool} {xs piece : List α}

theorem mem_of_mem_splitAt {x : α} (h : piece ∈ splitAt isSeparator xs) (hx : x ∈ piece) :
    x ∈ xs := by
  induction xs generalizing piece with
  | nil =>
    rw [splitAt, List.mem_singleton] at h
    rwa [h] at hx
  | cons y rest ih =>
    obtain ⟨first, pieces, hsplit⟩ :=
      List.exists_cons_of_ne_nil (@splitAt_ne_nil _ isSeparator rest)
    rw [hsplit] at ih
    simp only [splitAt, hsplit] at h
    split at h
    · rcases List.mem_cons.1 h with rfl | h
      · cases hx
      · exact .tail _ (ih h hx)
    · rcases List.mem_cons.1 h with rfl | h
      · rcases List.mem_cons.1 hx with rfl | hx
        · exact .head _
        · exact .tail _ (ih (.head _) hx)
      · exact .tail _ (ih (.tail _ h) hx)

theorem length_splitAt (xs : List α) :
    (splitAt isSeparator xs).length = xs.countP isSeparator + 1 := by
  induction xs with
  | nil => rfl
  | cons x rest ih =>
    obtain ⟨first, pieces, hsplit⟩ :=
      List.exists_cons_of_ne_nil (@splitAt_ne_nil _ isSeparator rest)
    rw [hsplit] at ih
    simp only [splitAt, hsplit]
    split
    · next hx => rw [List.countP_cons_of_pos hx, List.length_cons, ih]
    · next hx => rw [List.countP_cons_of_neg hx]; exact ih

theorem eq_or_mem_of_mem_joinWith {x separator : α} {pieces : List (List α)}
    (h : x ∈ joinWith [separator] pieces) : x = separator ∨ ∃ piece ∈ pieces, x ∈ piece := by
  cases pieces with
  | nil => cases h
  | cons piece rest =>
    rw [joinWith_cons, List.mem_append, List.mem_flatMap] at h
    rcases h with h | ⟨other, hother, h⟩
    · exact .inr ⟨piece, .head _, h⟩
    · exact (List.mem_cons.1 h).imp_right fun h => ⟨other, .tail _ hother, h⟩

/-- There is a separator before each piece but the first. -/
theorem countP_joinWith {separator : α} (hseparator : isSeparator separator = true)
    (pieces : List (List α)) : (joinWith [separator] pieces).countP isSeparator =
      (pieces.map (List.countP isSeparator)).sum + (pieces.length - 1) := by
  cases pieces with
  | nil => rfl
  | cons piece rest =>
    rw [joinWith_cons, List.countP_append, List.map_cons, List.sum_cons, List.length_cons,
      Nat.add_sub_cancel]
    induction rest with
    | nil => rfl
    | cons next rest ih =>
      rw [List.flatMap_cons, List.countP_append, List.countP_cons_of_pos hseparator,
        List.map_cons, List.sum_cons, List.length_cons]
      omega

end Pieces

/-! ## Halves -/

theorem CodePoint.ofChar_of_toChar? {p : CodePoint} {c : Char} (h : p.toChar? = some c) :
    ofChar c = p := by
  rw [toChar?] at h
  split at h
  · cases h
  · next hno =>
    have hvalid : p.val.isValidChar := by
      simp only [isSurrogate, isHigh, isLow, Bool.or_eq_true, Bool.and_eq_true,
        decide_eq_true_eq] at hno
      have hlt := p.isLt
      rw [Nat.isValidChar]
      omega
    cases h
    refine Fin.ext ?_
    rw [val_ofChar, Char.toNat_ofNat, if_pos hvalid]

theorem Text.toChars?_eq_some_iff {t : Text} {cs : List Char} :
    t.toChars? = some cs ↔ t = ofChars cs := by
  constructor
  · intro h
    induction t generalizing cs with
    | nil =>
      cases h
      rfl
    | cons p t ih =>
      rw [toChars?, List.mapM_cons] at h
      obtain ⟨c, hc, h⟩ := Option.bind_eq_some_iff.1 h
      obtain ⟨rest, hrest, h⟩ := Option.bind_eq_some_iff.1 h
      cases h
      rw [ofChars, List.map_cons, CodePoint.ofChar_of_toChar? hc, ih hrest, ofChars]
  · rintro rfl
    exact toChars?_ofChars cs

/-- A text without lone halves has characters. -/
theorem Text.exists_toChars? {t : Text} (h : ∀ p ∈ t, p.isSurrogate = false) :
    ∃ cs, t.toChars? = some cs := by
  induction t with
  | nil => exact ⟨[], rfl⟩
  | cons p t ih =>
    obtain ⟨hp, ht⟩ := List.forall_mem_cons.1 h
    obtain ⟨cs, hcs⟩ := ih ht
    rw [toChars?] at hcs
    refine ⟨Char.ofNat p.val :: cs, ?_⟩
    rw [toChars?, List.mapM_cons, hcs, CodePoint.toChar?, hp]
    rfl

theorem CodePoint.isSurrogate_ofChar (c : Char) : (ofChar c).isSurrogate = false := by
  have h := toChar?_ofChar c
  rw [toChar?] at h
  split at h
  · cases h
  · next hno => exact Bool.eq_false_iff.2 hno

/-! ## Reading -/

/-- Whether a code point stands between columns. -/
def isTab (p : CodePoint) : Bool := p = '\t'

/-- Whether a code point stands between lines. -/
def isFeed (p : CodePoint) : Bool := p = '\n'

/-- The lines of a text; a text that is empty has none. -/
def linesOf (t : Text) : List Text := if t.isEmpty then [] else splitAt isFeed t

/-- The columns of the lines of a text. -/
def readTable (t : Text) : List (List Text) := (linesOf t).map (splitAt isTab)

/-- The columns of the lines of a file; `none` if its bytes are no characters. -/
def readListing (bytes : List UInt8) : Option (List (List Text)) :=
  (Utf8.decode? bytes).map fun cs => readTable (Text.ofChars cs)

theorem readListing_encode (cs : List Char) :
    readListing (Utf8.encode cs) = some (readTable (Text.ofChars cs)) := by
  rw [readListing, Utf8.decode?_encode, Option.map_some]

theorem mem_of_mem_linesOf {t line : Text} (h : line ∈ linesOf t) : line ∈ splitAt isFeed t := by
  rw [linesOf] at h
  split at h
  · cases h
  · exact h

/-- What is in the columns that are read stands in the text, and is no separator. -/
theorem of_mem_readTable {t : Text} {row : List Text} {column : Text} {p : CodePoint}
    (hrow : row ∈ readTable t) (hcolumn : column ∈ row) (hp : p ∈ column) :
    p ∈ t ∧ isTab p = false ∧ isFeed p = false := by
  obtain ⟨line, hline, rfl⟩ := List.mem_map.1 hrow
  have hline := mem_of_mem_linesOf hline
  have hp' : p ∈ line := mem_of_mem_splitAt hcolumn hp
  exact ⟨mem_of_mem_splitAt hline hp', not_separator_of_mem_splitAt hcolumn p hp,
    not_separator_of_mem_splitAt hline p hp'⟩

/-! ## Columns -/

/-- A code point that a column may hold: neither a separator nor a half of a pair. -/
structure CodePoint.FitsColumn (p : CodePoint) : Prop where
  not_tab : isTab p = false
  not_feed : isFeed p = false
  not_half : p.isSurrogate = false

theorem CodePoint.ofChar_injective {c d : Char} (h : ofChar c = ofChar d) : c = d := by
  have hc := toChar?_ofChar c
  rw [h, toChar?_ofChar] at hc
  exact (Option.some.inj hc).symm

/-- All characters fit but the separators. -/
theorem CodePoint.fitsColumn_ofString {s : String} (h : ∀ c ∈ s.toList, c ≠ '\t' ∧ c ≠ '\n') :
    ∀ p ∈ Text.ofString s, FitsColumn p := by
  intro p hp
  obtain ⟨c, hc, rfl⟩ := List.mem_map.1 hp
  obtain ⟨htab, hfeed⟩ := h c hc
  exact ⟨decide_eq_false fun heq => htab (ofChar_injective heq),
    decide_eq_false fun heq => hfeed (ofChar_injective heq), isSurrogate_ofChar c⟩

namespace EndpointRecord

/-- What a listing says of a record: method, path and place. -/
def columns (r : EndpointRecord) : List Text :=
  [r.method.toString, r.path, r.sourceFile ++ ":" ++ r.lineLabel]

/-- Neither a separator nor a lone half of a pair is in the texts of a record that a listing
gives. -/
def IsListable (r : EndpointRecord) : Prop := ∀ p ∈ r.path ++ r.sourceFile, CodePoint.FitsColumn p

/-- How many line feeds are in the texts of a record that a listing gives. -/
def breaks (r : EndpointRecord) : Nat := (r.path ++ r.sourceFile).countP isFeed

variable (r : EndpointRecord)

theorem listed_eq_joinWith : r.listed = joinWith [CodePoint.ofChar '\t'] r.columns := by
  have htab : Text.ofString "\t" = [CodePoint.ofChar '\t'] := rfl
  simp only [listed, columns, joinWith, htab, List.append_assoc]

theorem listed_ne_nil : r.listed ≠ [] := by
  simp [listed, Text.ofString, Text.ofChars]

theorem fitsColumn_method : ∀ p ∈ Text.ofString r.method.toString, CodePoint.FitsColumn p := by
  refine CodePoint.fitsColumn_ofString ?_
  cases r.method <;> simp [Method.toString]

theorem fitsColumn_lineLabel : ∀ p ∈ Text.ofString r.lineLabel, CodePoint.FitsColumn p := by
  refine CodePoint.fitsColumn_ofString ?_
  rw [lineLabel]
  split
  · simp
  split
  · simp
  · next n _ =>
    intro c hc
    rw [Json.toList_toString_int, Json.Numeral.text_ofNat, List.mem_append] at hc
    rcases hc with hc | hc
    · split at hc
      · rw [List.mem_singleton.1 hc]
        decide
      · cases hc
    · have hdigit : c.isDigit := Nat.isDigit_of_mem_toDigits (by decide) (by decide) hc
      constructor <;> rintro rfl <;> cases hdigit

/-- Methods and line numbers fit anyway. -/
theorem isListable_iff :
    r.IsListable ↔ ∀ column ∈ r.columns, ∀ p ∈ column, CodePoint.FitsColumn p := by
  have hcolon : ∀ p ∈ Text.ofString ":", CodePoint.FitsColumn p :=
    CodePoint.fitsColumn_ofString (by simp)
  simp only [IsListable, columns, List.forall_mem_cons, List.forall_mem_append, List.not_mem_nil,
    false_imp_iff, implies_true, and_true]
  constructor
  · rintro ⟨hpath, hsource⟩
    exact ⟨r.fitsColumn_method, hpath, ⟨hsource, hcolon⟩, r.fitsColumn_lineLabel⟩
  · rintro ⟨-, hpath, ⟨hsource, -⟩, -⟩
    exact ⟨hpath, hsource⟩

theorem countP_listed : r.listed.countP isFeed = r.breaks := by
  have hnone : ∀ t : Text, (∀ p ∈ t, CodePoint.FitsColumn p) → t.countP isFeed = 0 := by
    intro t ht
    refine List.countP_eq_zero.2 fun p hp hfeed => ?_
    rw [(ht p hp).not_feed] at hfeed
    cases hfeed
  have htab : (Text.ofString "\t").countP isFeed = 0 := by decide
  have hcolon : (Text.ofString ":").countP isFeed = 0 := by decide
  simp only [listed, breaks, List.countP_append, htab, hcolon, hnone _ r.fitsColumn_method,
    hnone _ r.fitsColumn_lineLabel, Nat.zero_add, Nat.add_zero]

end EndpointRecord

/-! ## Listings -/

namespace Discovery

variable {found : Discovery}

/-- What is in a listing: separators, and what is in the columns. -/
theorem of_mem_listing {p : CodePoint} (hp : p ∈ found.listing) : p = '\n' ∨ p = '\t' ∨
    ∃ r ∈ found.endpoints, ∃ column ∈ r.columns, p ∈ column := by
  refine (eq_or_mem_of_mem_joinWith hp).imp_right ?_
  rintro ⟨line, hline, hp⟩
  obtain ⟨r, hr, rfl⟩ := List.mem_map.1 hline
  rw [r.listed_eq_joinWith] at hp
  exact (eq_or_mem_of_mem_joinWith hp).imp_right fun hcolumn => ⟨r, hr, hcolumn⟩

/-- A listing of listable records has characters. -/
theorem exists_chars_listing (h : ∀ r ∈ found.endpoints, r.IsListable) :
    ∃ cs, found.listing.toChars? = some cs := by
  refine Text.exists_toChars? fun p hp => ?_
  rcases of_mem_listing hp with rfl | rfl | ⟨r, hr, column, hcolumn, hp⟩
  · exact CodePoint.isSurrogate_ofChar _
  · exact CodePoint.isSurrogate_ofChar _
  · exact (r.isListable_iff.1 (h r hr) column hcolumn p hp).not_half

theorem linesOf_listing_eq (found : Discovery) : linesOf found.listing =
    if found.endpoints.isEmpty then [] else splitAt isFeed found.listing := by
  rw [linesOf]
  refine if_congr ?_ rfl rfl
  rw [listing, List.isEmpty_iff, List.isEmpty_iff]
  cases found.endpoints with
  | nil => simp [joinWith]
  | cons first rest =>
    rw [List.map_cons, joinWith_cons]
    simp [first.listed_ne_nil]

/-- Listable records are read as they are. -/
theorem readTable_listing (h : ∀ r ∈ found.endpoints, r.IsListable) :
    readTable found.listing = found.endpoints.map EndpointRecord.columns := by
  have hfits := fun (r : EndpointRecord) hr => r.isListable_iff.1 (h r hr)
  have hcolumns : ∀ r ∈ found.endpoints, splitAt isTab r.listed = r.columns := by
    intro r hr
    rw [r.listed_eq_joinWith]
    exact splitAt_joinWith rfl (List.cons_ne_nil _ _) fun column hcolumn p hp =>
      (hfits r hr column hcolumn p hp).not_tab
  have hfeeds : ∀ line ∈ found.endpoints.map EndpointRecord.listed, ∀ p ∈ line,
      isFeed p = false := by
    intro line hline p hp
    obtain ⟨r, hr, rfl⟩ := List.mem_map.1 hline
    rw [r.listed_eq_joinWith] at hp
    rcases eq_or_mem_of_mem_joinWith hp with rfl | ⟨column, hcolumn, hp⟩
    · rfl
    · exact (hfits r hr column hcolumn p hp).not_feed
  have hlines : linesOf found.listing = found.endpoints.map EndpointRecord.listed := by
    rw [linesOf_listing_eq]
    cases hrecords : found.endpoints with
    | nil => rfl
    | cons first rest =>
      rw [← hrecords, if_neg (by simp [hrecords]), listing,
        splitAt_joinWith rfl (by simp [hrecords]) hfeeds]
  rw [readTable, hlines, List.map_map]
  exact List.map_congr_left hcolumns

/-- There is a line for each record and for each line feed in one. -/
theorem length_linesOf_listing (found : Discovery) : (linesOf found.listing).length =
    found.endpoints.length + (found.endpoints.map EndpointRecord.breaks).sum := by
  rw [linesOf_listing_eq]
  cases hrecords : found.endpoints with
  | nil => rfl
  | cons first rest =>
    have hbreaks : found.endpoints.map (List.countP isFeed ∘ EndpointRecord.listed) =
        found.endpoints.map EndpointRecord.breaks :=
      List.map_congr_left fun r _ => r.countP_listed
    have hpos : 0 < found.endpoints.length := by simp [hrecords]
    rw [← hrecords, if_neg (by simp [hrecords]), length_splitAt, listing, countP_joinWith rfl,
      List.map_map, List.length_map, hbreaks]
    omega

/-! ### Bytes -/

/-- The bytes of a listing; none are written if it has no characters. -/
def listingBytes (found : Discovery) : List UInt8 :=
  Utf8.encode (found.listing.toChars?.getD [])

/-- The bytes of a listing say of the records what they are if and only if all are listable. -/
theorem readListing_eq_columns_iff (found : Discovery) :
    readListing found.listingBytes = some (found.endpoints.map EndpointRecord.columns) ↔
      ∀ r ∈ found.endpoints, r.IsListable := by
  rw [listingBytes, readListing_encode, Option.some.injEq]
  constructor
  · intro h r hr
    rw [EndpointRecord.isListable_iff]
    intro column hcolumn p hp
    have hrow : r.columns ∈ found.endpoints.map EndpointRecord.columns := List.mem_map_of_mem hr
    rw [← h] at hrow
    obtain ⟨hmem, htab, hfeed⟩ := of_mem_readTable hrow hcolumn hp
    obtain ⟨c, -, rfl⟩ := List.mem_map.1 hmem
    exact ⟨htab, hfeed, CodePoint.isSurrogate_ofChar c⟩
  · intro h
    obtain ⟨cs, hcs⟩ := exists_chars_listing h
    rw [hcs, Option.getD_some, ← Text.toChars?_eq_some_iff.1 hcs, readTable_listing h]

theorem length_readListing (found : Discovery) {cs : List Char}
    (hchars : found.listing.toChars? = some cs) :
    (readListing found.listingBytes).map List.length =
      some (found.endpoints.length + (found.endpoints.map EndpointRecord.breaks).sum) := by
  rw [listingBytes, hchars, Option.getD_some, readListing_encode,
    ← Text.toChars?_eq_some_iff.1 hchars, Option.map_some, readTable, List.length_map,
    length_linesOf_listing]

end Discovery

/-! ## Files -/

namespace Disk

/-- A file can be written where a path leads that a user gives. -/
structure Takes (d : Disk) (out : String) (path : Path) : Prop where
  in_directory : d.root.kindAt d.current = some .directory
  path_eq : d.expandHome (Path.ofString out) = .ok path
  writable : ∃ above made, d.makeDirectories path.parent = .ok above ∧ above.write path [] = .ok made

theorem startsInDirectory {d : Disk} (h : d.root.kindAt d.current = some .directory) (p : Path) :
    d.StartsInDirectory p := by
  rw [StartsInDirectory, startOf]
  split
  · cases hcurrent : d.current with
    | nil => rwa [← hcurrent]
    | cons name rest =>
      rw [hcurrent, ← List.nil_append (name :: rest)] at h
      exact FileNode.kindAt_of_append (by rw [h]; rfl) (List.cons_ne_nil name rest)
  · exact h

/-- Whether a file can be written does not depend on its content. -/
theorem exists_write {d made : Disk} {p : Path} {content : List UInt8} (h : d.write p content = .ok made)
    (other : List UInt8) : ∃ made, d.write p other = .ok made := by
  unfold write at h ⊢
  split at h
  · cases h
  · cases h
  · exact ⟨_, rfl⟩

end Disk

namespace Acting

/-- The action leaves the disk as it is. -/
def KeepsDisk (x : Acting Unit) : Prop := ∀ d, Ensures (·.disk = d) (·.disk = d) x

theorem keepsDisk_print (channel : Channel) (markup : Text) : KeepsDisk (print channel markup) := by
  intro d
  unfold print
  split
  · exact Ensures.throw fun _ h => h
  · unfold put
    split
    · exact Ensures.throw fun _ h => h
    · refine Ensures.modify fun s h => ?_
      split <;> exact h

theorem KeepsDisk.disk_onDisk {x : Acting Unit} (hx : KeepsDisk x)
    {change : Disk → Except FileError Disk} {s : Session} {d : Disk} (h : change s.disk = .ok d) :
    ((ExceptT.run (onDisk change >>= fun _ => x)).run s).2.disk = d := by
  rw [run_bind, Remote.run_onDisk, h]
  exact hx d _ rfl

end Acting

namespace CommandLine

/-- A file that has been written holds the characters of a text, if it has characters, and is empty
else. -/
theorem read_writeFile {out : String} {path : Path} {s : Session} (h : s.disk.Takes out path)
    (t : Text) : ((ExceptT.run (writeFile out t)).run s).2.disk.read path =
      .ok (Utf8.encode (t.toChars?.getD [])) := by
  obtain ⟨above, made, habove, hmade⟩ := h.writable
  obtain ⟨written, hwritten⟩ := Disk.exists_write hmade (Utf8.encode (t.toChars?.getD []))
  have hread := Disk.read_of_makeDirectories
    (Disk.startsInDirectory h.in_directory path) habove hwritten
  have hpath : (ExceptT.run (liftM (s.disk.expandHome (Path.ofString out)) : Acting Path)).run s =
      (.ok path, s) := by
    rw [h.path_eq]
    rfl
  unfold writeFile
  simp only [run_bind, Remote.run_disk, hpath, Remote.run_onDisk, habove]
  rw [← hread]
  congr 1
  cases hchars : t.toChars? with
  | none =>
    rw [hchars] at hwritten
    have hthrow : Acting.KeepsDisk (throw Failure.loneSurrogate) :=
      fun d => Ensures.throw fun _ h => h
    exact hthrow.disk_onDisk hwritten
  | some cs =>
    rw [hchars] at hwritten
    exact (Acting.keepsDisk_print _ _).disk_onDisk hwritten

theorem deliver_table_eq {o : DiscoverOptions} {out : String} (hformat : o.format = .table)
    (hout : o.out.filter (· ≠ "") = some out) (found : Discovery) :
    o.deliver found = writeFile out found.listing := by
  rw [DiscoverOptions.deliver, hformat, hout]

/-- The options that ask for a table in a file. -/
def tableOptions : DiscoverOptions := ⟨".", "express", "router", none, true, .table, "out.txt", 200⟩

/-- In an empty directory the file can be written. -/
theorem takes_freshSession : freshSession.disk.Takes "out.txt" (Path.ofString "out.txt") where
  in_directory := rfl
  path_eq := by rfl
  writable := by
    have hparent : (Path.ofString "out.txt").parent = ⟨.relative, []⟩ := by decide +kernel
    have hparts : Path.ofString "out.txt" = ⟨.relative, ["out.txt"]⟩ := by decide +kernel
    rw [hparent, hparts]
    refine ⟨freshSession.disk, { root := .directory [("out.txt", .file [])] }, ?_, ?_⟩
    · simp [Disk.makeDirectories, Disk.makeDirectory, Disk.entryPlace, Disk.place, Disk.isDirectory,
        Disk.find, Disk.follow, Disk.startOf, Path.isAbsolute, freshSession, FileNode.at?,
        FileNode.isDirectory]
    · simp [Disk.write, Disk.place, Disk.follow, Disk.startOf, Path.isAbsolute, freshSession,
        FileNode.at?, FileNode.entry?, FileNode.entries, FileNode.put, FileNode.putEntry]

/-- The file that a discovery is written into as a table says of each record what it is, in their
order, if and only if all records are listable. If it has characters at all, it has a line for each
record and for each line feed in one. -/
theorem listing_read_back {o : DiscoverOptions} {out : String} {path : Path} {s : Session}
    (hformat : o.format = .table) (hout : o.out.filter (· ≠ "") = some out)
    (htakes : s.disk.Takes out path) (found : Discovery) :
    ∃ content, ((ExceptT.run (o.deliver found)).run s).2.disk.read path = .ok content ∧
      (readListing content = some (found.endpoints.map EndpointRecord.columns) ↔
        ∀ r ∈ found.endpoints, r.IsListable) ∧
      ∀ cs, found.listing.toChars? = some cs → (readListing content).map List.length =
        some (found.endpoints.length + (found.endpoints.map EndpointRecord.breaks).sum) := by
  rw [deliver_table_eq hformat hout]
  exact ⟨found.listingBytes, read_writeFile htakes found.listing,
    found.readListing_eq_columns_iff, fun _ => found.length_readListing⟩

/-- A plain record is read back from the file. -/
theorem listing_read_back_plain : tableOptions.format = .table ∧
    tableOptions.out.filter (· ≠ "") = some "out.txt" ∧
    freshSession.disk.Takes "out.txt" (Path.ofString "out.txt") ∧ plainRecord.IsListable ∧
    ∃ content, ((ExceptT.run (tableOptions.deliver (.ofRecords [plainRecord]))).run
        freshSession).2.disk.read (Path.ofString "out.txt") = .ok content ∧
      readListing content = some [plainRecord.columns] := by
  have hlistable : plainRecord.IsListable := by
    simp only [EndpointRecord.IsListable, List.forall_mem_append]
    constructor <;> exact CodePoint.fitsColumn_ofString (by simp)
  obtain ⟨content, hcontent, hread, -⟩ :=
    listing_read_back (o := tableOptions) rfl rfl takes_freshSession (.ofRecords [plainRecord])
  exact ⟨rfl, rfl, takes_freshSession, hlistable, content, hcontent,
    hread.2 (List.forall_mem_singleton.2 hlistable)⟩

end CommandLine

/-! ## A line feed in a path -/

/-- A script with an escaped line feed in the path of a route. -/
def feedSource : Source where
  path := ⟨.relative, ["v.js"]⟩
  label := "v.js"
  text := "router.get('/a\\nb', h);".toList

/-- The columns of the only record of the script. -/
def feedColumns : List Text := ["GET", "/v/a\nb", "v.js:1"]

/-- What is read instead: the columns of two lines. -/
def feedTable : List (List Text) := [["GET", "/v/a"], ["b", "v.js:1"]]

/-- The script has one record, whose path is read from the file in two lines. -/
theorem feed_splits_line : ∃ r,
    (feedSource.scriptEndpoints ⟨.express, "router"⟩).start.1 = .ok [r] ∧ r.columns = feedColumns ∧
      ∃ content, ((ExceptT.run (CommandLine.tableOptions.deliver (.ofRecords [r]))).run
          CommandLine.freshSession).2.disk.read (Path.ofString "out.txt") = .ok content ∧
        readListing content = some feedTable ∧ feedTable ≠ [feedColumns] := by
  have hread : (feedSource.scriptEndpoints ⟨.express, "router"⟩).start.1.toOption.map
      (fun records => (records.map EndpointRecord.columns,
        readListing (Discovery.ofRecords records).listingBytes)) =
      some ([feedColumns], some feedTable) := by decide +kernel
  obtain ⟨records, hrecords, hread⟩ := Option.map_eq_some_iff.1 hread
  obtain ⟨hcolumns, htable⟩ := Prod.mk.inj hread
  obtain ⟨r, rfl, hcolumn⟩ := List.map_eq_singleton_iff.1 hcolumns
  refine ⟨r, ofToOption hrecords, hcolumn, (Discovery.ofRecords [r]).listingBytes, ?_, htable, ?_⟩
  · rw [CommandLine.deliver_table_eq (o := CommandLine.tableOptions) rfl rfl]
    exact CommandLine.read_writeFile CommandLine.takes_freshSession _
  · decide

end EndpointCatalog
