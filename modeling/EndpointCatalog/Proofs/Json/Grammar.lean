/-
EndpointCatalog.Proofs.Json.Grammar — which texts are JSON.

The grammar of JSON, production by production: blanks, numbers, strings,
values and documents. It knows no `NaN` and no `Infinity`.

* `IsDocument`: a text is a JSON value with blanks around it.
* `IsDocument.scan_eq`: outside of its strings, such a text has none but the
  characters of brackets, separators, numbers and the three keywords.
-/
import EndpointCatalog.Proofs.Literal.Numeral
import Mathlib

namespace EndpointCatalog.Json

/-! ## Tokens -/

/-- Blanks, perhaps none. -/
def IsBlank (cs : List Char) : Prop := ∀ c ∈ cs, c = ' ' ∨ c = '\t' ∨ c = '\n' ∨ c = '\r'

/-- Decimal digits, perhaps none. -/
def AllDigits (cs : List Char) : Prop := ∀ c ∈ cs, c.isDigit = true

/-- The whole part of a number: no zero stands in front of other digits. -/
inductive IsWhole : List Char → Prop where
  | zero : IsWhole ['0']
  | digits {first : Char} {rest : List Char} : first.isDigit = true → first ≠ '0' →
      AllDigits rest → IsWhole (first :: rest)

/-- The fraction of a number, if it has one. -/
inductive IsFraction : List Char → Prop where
  | none : IsFraction []
  | digits {ds : List Char} : ds ≠ [] → AllDigits ds → IsFraction ('.' :: ds)

/-- The sign of an exponent, if it has one. -/
inductive IsSign : List Char → Prop where
  | none : IsSign []
  | plus : IsSign ['+']
  | minus : IsSign ['-']

/-- The exponent of a number, if it has one. -/
inductive IsExponent : List Char → Prop where
  | none : IsExponent []
  | digits {letter : Char} {sign ds : List Char} : letter = 'e' ∨ letter = 'E' → IsSign sign →
      ds ≠ [] → AllDigits ds → IsExponent (letter :: (sign ++ ds))

/-- A number. -/
inductive IsNumber : List Char → Prop where
  | plain {whole fraction exponent : List Char} : IsWhole whole → IsFraction fraction →
      IsExponent exponent → IsNumber (whole ++ (fraction ++ exponent))
  | negative {whole fraction exponent : List Char} : IsWhole whole → IsFraction fraction →
      IsExponent exponent → IsNumber ('-' :: (whole ++ (fraction ++ exponent)))

/-- The characters that may stand behind a backslash, but for `u`. -/
def escapedLetters : List Char := ['"', '\\', '/', 'b', 'f', 'n', 'r', 't']

/-- A hexadecimal digit. -/
def IsHex (c : Char) : Prop :=
  ('0' ≤ c ∧ c ≤ '9') ∨ ('a' ≤ c ∧ c ≤ 'f') ∨ ('A' ≤ c ∧ c ≤ 'F')

instance (c : Char) : Decidable (IsHex c) := inferInstanceAs (Decidable (_ ∨ _ ∨ _))

/-- What stands between the quotes of a string. -/
inductive IsContent : List Char → Prop where
  | nil : IsContent []
  | plain {c : Char} {rest : List Char} : c ≠ '"' → c ≠ '\\' → 0x20 ≤ c.toNat → IsContent rest →
      IsContent (c :: rest)
  | escape {c : Char} {rest : List Char} : c ∈ escapedLetters → IsContent rest →
      IsContent ('\\' :: c :: rest)
  | unit {a b c d : Char} {rest : List Char} : IsHex a → IsHex b → IsHex c → IsHex d →
      IsContent rest → IsContent ('\\' :: 'u' :: a :: b :: c :: d :: rest)

/-- A string. -/
inductive IsString : List Char → Prop where
  | quoted {content : List Char} : IsContent content → IsString ('"' :: (content ++ ['"']))

/-! ## Values -/

mutual

/-- A value. -/
inductive IsValue : List Char → Prop where
  | null : IsValue "null".toList
  | true : IsValue "true".toList
  | false : IsValue "false".toList
  | number {cs : List Char} : IsNumber cs → IsValue cs
  | string {cs : List Char} : IsString cs → IsValue cs
  | emptyList {blank : List Char} : IsBlank blank → IsValue ('[' :: (blank ++ [']']))
  | list {items : List Char} : IsItems items → IsValue ('[' :: (items ++ [']']))
  | emptyMap {blank : List Char} : IsBlank blank → IsValue ('\x7b' :: (blank ++ ['\x7d']))
  | map {members : List Char} : IsMembers members → IsValue ('\x7b' :: (members ++ ['\x7d']))

/-- Items with commas between them. -/
inductive IsItems : List Char → Prop where
  | last {before item after : List Char} : IsBlank before → IsValue item → IsBlank after →
      IsItems (before ++ (item ++ after))
  | more {before item after rest : List Char} : IsBlank before → IsValue item → IsBlank after →
      IsItems rest → IsItems (before ++ (item ++ (after ++ ',' :: rest)))

/-- Members with commas between them. -/
inductive IsMembers : List Char → Prop where
  | last {before key behind ahead value after : List Char} : IsBlank before → IsString key →
      IsBlank behind → IsBlank ahead → IsValue value → IsBlank after →
      IsMembers (before ++ (key ++ (behind ++ ':' :: (ahead ++ (value ++ after)))))
  | more {before key behind ahead value after rest : List Char} : IsBlank before →
      IsString key → IsBlank behind → IsBlank ahead → IsValue value → IsBlank after →
      IsMembers rest →
      IsMembers (before ++ (key ++ (behind ++ ':' :: (ahead ++ (value ++ (after ++ ',' :: rest))))))

end

/-- A document: a value with blanks around it. -/
inductive IsDocument : List Char → Prop where
  | value {before value after : List Char} : IsBlank before → IsValue value → IsBlank after →
      IsDocument (before ++ (value ++ after))

/-! ## Characters outside of strings -/

/-- Where a character of a document stands. -/
inductive Standing where
  | outside
  | inString
  | escaped
deriving DecidableEq

/-- The characters that may stand outside of a string, but for quotes. -/
def bareChars : List Char :=
  [' ', '\t', '\n', '\r', '[', ']', '\x7b', '\x7d', ',', ':', '+', '-', '.', '0', '1', '2', '3',
   '4', '5', '6', '7', '8', '9', 'E', 'e', 't', 'r', 'u', 'f', 'a', 'l', 's', 'n']

/-- Where the next character stands; `none` if this one may not stand here. -/
def Standing.next? : Standing → Char → Option Standing
  | outside, c => if c = '"' then some inString else if c ∈ bareChars then some outside else none
  | inString, c =>
    if c = '"' then some outside else if c = '\\' then some escaped else some inString
  | escaped, _ => some inString

/-- Where the character behind some characters stands. -/
def scan (start : Standing) (cs : List Char) : Option Standing := cs.foldlM Standing.next? start

theorem scan_append (start : Standing) (cs cs' : List Char) :
    scan start (cs ++ cs') = (scan start cs).bind fun between => scan between cs' :=
  List.foldlM_append

theorem scan_cons (start : Standing) (c : Char) (cs : List Char) :
    scan start (c :: cs) = (start.next? c).bind fun between => scan between cs :=
  List.foldlM_cons

/-- A text with a text behind it that is scanned from outside. -/
theorem scan_outside_append {cs : List Char} (h : scan .outside cs = some .outside)
    (cs' : List Char) : scan .outside (cs ++ cs') = scan .outside cs' := by
  rw [scan_append, h, Option.bind_some]

/-- Characters that may stand outside of strings leave the scan there. -/
theorem scan_bare {cs : List Char} (h : ∀ c ∈ cs, c ∈ bareChars) :
    scan .outside cs = some .outside := by
  have hquote : '"' ∉ bareChars := by decide
  induction cs with
  | nil => rfl
  | cons c cs ih =>
    have hc := h c List.mem_cons_self
    have hne : c ≠ '"' := fun heq => hquote (heq ▸ hc)
    rw [scan_cons, Standing.next?, if_neg hne, if_pos hc, Option.bind_some]
    exact ih fun c' hc' => h c' (List.mem_cons_of_mem c hc')

theorem scan_bare_cons {c : Char} (h : c ∈ bareChars) (cs : List Char) :
    scan .outside (c :: cs) = scan .outside cs :=
  scan_outside_append (scan_bare fun _ hc => List.mem_singleton.1 hc ▸ h) cs

theorem mem_bareChars_of_isDigit {c : Char} (h : c.isDigit = true) : c ∈ bareChars := by
  obtain ⟨hlow, hhigh⟩ := isDigit_iff.1 h
  rw [← Char.ofNat_toNat c]
  generalize c.toNat = n at hlow hhigh
  interval_cases n <;> decide +kernel

theorem IsBlank.scan_eq {cs : List Char} (h : IsBlank cs) : scan .outside cs = some .outside :=
  scan_bare fun c hc => by
    rcases h c hc with rfl | rfl | rfl | rfl <;> decide

theorem AllDigits.mem_bareChars {cs : List Char} (h : AllDigits cs) : ∀ c ∈ cs, c ∈ bareChars :=
  fun c hc => mem_bareChars_of_isDigit (h c hc)

theorem IsNumber.scan_eq {cs : List Char} (h : IsNumber cs) :
    scan .outside cs = some .outside := by
  have hwhole : ∀ {cs : List Char}, IsWhole cs → ∀ c ∈ cs, c ∈ bareChars := by
    intro cs h
    cases h with
    | zero => exact List.forall_mem_singleton.2 (by decide +kernel)
    | digits hfirst _ hrest =>
      exact List.forall_mem_cons.2 ⟨mem_bareChars_of_isDigit hfirst, hrest.mem_bareChars⟩
  have hfraction : ∀ {cs : List Char}, IsFraction cs → ∀ c ∈ cs, c ∈ bareChars := by
    intro cs h
    cases h with
    | none => exact fun c hc => absurd hc List.not_mem_nil
    | digits _ hds => exact List.forall_mem_cons.2 ⟨by decide +kernel, hds.mem_bareChars⟩
  have hexponent : ∀ {cs : List Char}, IsExponent cs → ∀ c ∈ cs, c ∈ bareChars := by
    intro cs h
    cases h with
    | none => exact fun c hc => absurd hc List.not_mem_nil
    | digits hletter hsign _ hds =>
      refine List.forall_mem_cons.2 ⟨?_, List.forall_mem_append.2 ⟨?_, hds.mem_bareChars⟩⟩
      · rcases hletter with rfl | rfl <;> decide +kernel
      · cases hsign with
        | none => exact fun c hc => absurd hc List.not_mem_nil
        | plus => exact List.forall_mem_singleton.2 (by decide +kernel)
        | minus => exact List.forall_mem_singleton.2 (by decide +kernel)
  cases h with
  | plain hw hf he =>
    exact scan_bare (List.forall_mem_append.2
      ⟨hwhole hw, List.forall_mem_append.2 ⟨hfraction hf, hexponent he⟩⟩)
  | negative hw hf he =>
    exact scan_bare (List.forall_mem_cons.2 ⟨by decide +kernel, List.forall_mem_append.2
      ⟨hwhole hw, List.forall_mem_append.2 ⟨hfraction hf, hexponent he⟩⟩⟩)

/-- The content of a string leaves the scan in it. -/
theorem IsContent.scan_eq {cs : List Char} (h : IsContent cs) :
    scan .inString cs = some .inString := by
  have hhex : ∀ {c : Char}, IsHex c → c ≠ '"' ∧ c ≠ '\\' := by
    intro c h
    constructor
    · rintro rfl
      exact absurd h (by decide)
    · rintro rfl
      exact absurd h (by decide)
  have hplain : ∀ {c : Char}, c ≠ '"' → c ≠ '\\' → ∀ cs,
      scan .inString (c :: cs) = scan .inString cs := by
    intro c hquote hbackslash cs
    rw [scan_cons, Standing.next?, if_neg hquote, if_neg hbackslash, Option.bind_some]
  have hescape : ∀ c cs, scan .inString ('\\' :: c :: cs) = scan .inString cs := fun _ _ => rfl
  induction h with
  | nil => rfl
  | plain hquote hbackslash _ _ ih => rw [hplain hquote hbackslash, ih]
  | escape _ _ ih => rw [hescape, ih]
  | unit ha hb hc hd _ ih =>
    rw [hescape, hplain (hhex ha).1 (hhex ha).2, hplain (hhex hb).1 (hhex hb).2,
      hplain (hhex hc).1 (hhex hc).2, hplain (hhex hd).1 (hhex hd).2, ih]

theorem IsString.scan_eq {cs : List Char} (h : IsString cs) :
    scan .outside cs = some .outside := by
  obtain ⟨hcontent⟩ := h
  rw [scan_cons]
  change scan .inString _ = _
  rw [scan_append, hcontent.scan_eq]
  rfl

mutual

/-- A value leaves the scan outside of strings. -/
theorem IsValue.scan_eq : ∀ {cs : List Char}, IsValue cs → scan .outside cs = some .outside
  | _, .null => rfl
  | _, .true => rfl
  | _, .false => rfl
  | _, .number h => h.scan_eq
  | _, .string h => h.scan_eq
  | _, .emptyList h => by
    rw [scan_bare_cons (by decide +kernel), scan_outside_append h.scan_eq]
    rfl
  | _, .list h => by
    rw [scan_bare_cons (by decide +kernel), scan_outside_append h.scan_eq]
    rfl
  | _, .emptyMap h => by
    rw [scan_bare_cons (by decide +kernel), scan_outside_append h.scan_eq]
    rfl
  | _, .map h => by
    rw [scan_bare_cons (by decide +kernel), scan_outside_append h.scan_eq]
    rfl

theorem IsItems.scan_eq : ∀ {cs : List Char}, IsItems cs → scan .outside cs = some .outside
  | _, .last hbefore hitem hafter => by
    rw [scan_outside_append hbefore.scan_eq, scan_outside_append hitem.scan_eq, hafter.scan_eq]
  | _, .more hbefore hitem hafter hrest => by
    rw [scan_outside_append hbefore.scan_eq, scan_outside_append hitem.scan_eq,
      scan_outside_append hafter.scan_eq, scan_bare_cons (by decide +kernel), hrest.scan_eq]

theorem IsMembers.scan_eq : ∀ {cs : List Char}, IsMembers cs →
    scan .outside cs = some .outside
  | _, .last hbefore hkey hbehind hahead hvalue hafter => by
    rw [scan_outside_append hbefore.scan_eq, scan_outside_append hkey.scan_eq,
      scan_outside_append hbehind.scan_eq, scan_bare_cons (by decide +kernel),
      scan_outside_append hahead.scan_eq, scan_outside_append hvalue.scan_eq, hafter.scan_eq]
  | _, .more hbefore hkey hbehind hahead hvalue hafter hrest => by
    rw [scan_outside_append hbefore.scan_eq, scan_outside_append hkey.scan_eq,
      scan_outside_append hbehind.scan_eq, scan_bare_cons (by decide +kernel),
      scan_outside_append hahead.scan_eq, scan_outside_append hvalue.scan_eq,
      scan_outside_append hafter.scan_eq, scan_bare_cons (by decide +kernel), hrest.scan_eq]

end

theorem IsDocument.scan_eq {cs : List Char} (h : IsDocument cs) :
    scan .outside cs = some .outside := by
  obtain ⟨hbefore, hvalue, hafter⟩ := h
  rw [scan_outside_append hbefore.scan_eq, scan_outside_append hvalue.scan_eq, hafter.scan_eq]

end EndpointCatalog.Json
