import Commentary.Page.Slug
import Commentary.Proofs.Text.LetterCase

/-!
This module contains the anchors of headings, character by character. Titles that differ only in the case
of their letters, or in a hyphen for a space, have the same anchor, and an anchor is its own anchor.
-/

namespace Commentary

def hyphenate (c : Char) : Char :=
  if c = ' ' then '-' else c

theorem map_utf8EncodeChar_eq (c : Char) :
    ((String.utf8EncodeChar c).map fun b => if b = ' '.toUInt8 then '-'.toUInt8 else b) =
      String.utf8EncodeChar (hyphenate c) := by
  unfold hyphenate
  split
  . next hc =>
    rw [hc]
    decide
  . next hc =>
    have hother : ∀ b ∈ String.utf8EncodeChar c,
        (if b = ' '.toUInt8 then '-'.toUInt8 else b) = id b := by
      intro b hb
      rw [if_neg, id]
      rintro rfl
      apply hc
      rw [← Char.toNat_inj]
      exact toNat_eq_of_mem_utf8EncodeChar hb (by decide)
    rw [List.map_congr_left hother, List.map_id]

def Symbol.anchor (symbol : Symbol) : Char :=
  hyphenate symbol.lower

theorem slug_eq (title : Text) :
    slug title = (title.symbols.map Symbol.anchor).flatMap String.utf8EncodeChar := by
  unfold slug
  rw [Text.toLower_eq, List.map_flatMap, List.flatMap_map, List.flatMap_map]
  simp only [map_utf8EncodeChar_eq]
  rfl

theorem lowerChar_anchor (symbol : Symbol) : lowerChar symbol.anchor = symbol.anchor := by
  unfold Symbol.anchor hyphenate
  split
  . decide +kernel
  . apply Symbol.lowerChar_lower

theorem anchor_ne_space (symbol : Symbol) : symbol.anchor ≠ ' ' := by
  unfold Symbol.anchor hyphenate
  split
  . decide
  . assumption

theorem anchor_char_anchor (symbol : Symbol) : (Symbol.char symbol.anchor).anchor = symbol.anchor := by
  change hyphenate (lowerChar symbol.anchor) = symbol.anchor
  rw [lowerChar_anchor, hyphenate, if_neg (anchor_ne_space symbol)]

theorem slug_slug (title : Text) : slug (slug title) = slug title := by
  rw [slug_eq (slug title), slug_eq title, Text.symbols_flatMap, List.map_map, List.map_map]
  congr 2
  funext symbol
  apply anchor_char_anchor

def isCapital (b : UInt8) : Bool :=
  'A'.toUInt8 ≤ b && b ≤ 'Z'.toUInt8

theorem isCapital_iff {b : UInt8} : isCapital b = true ↔ 65 ≤ b.toNat ∧ b.toNat ≤ 90 := by
  simp only [isCapital, Bool.and_eq_true, decide_eq_true_eq, UInt8.le_iff_toNat_le]
  rfl

theorem exists_anchor_of_mem_slug {b : UInt8} {title : Text} (h : b ∈ slug title) (hb : b.toNat < 128) :
    ∃ symbol : Symbol, symbol.anchor.toNat = b.toNat := by
  rw [slug_eq, List.flatMap_map, List.mem_flatMap] at h
  obtain ⟨symbol, -, h⟩ := h
  exact ⟨symbol, toNat_eq_of_mem_utf8EncodeChar h hb⟩

theorem space_not_mem_slug (title : Text) : ' '.toUInt8 ∉ slug title := by
  intro h
  obtain ⟨symbol, hsymbol⟩ := exists_anchor_of_mem_slug h (by decide)
  apply anchor_ne_space symbol
  rw [← Char.toNat_inj]
  exact hsymbol

theorem not_isCapital_of_mem_slug {b : UInt8} {title : Text} (h : b ∈ slug title) :
    isCapital b = false := by
  rw [← Bool.not_eq_true, isCapital_iff]
  intro hb
  obtain ⟨symbol, hsymbol⟩ := exists_anchor_of_mem_slug h (by omega)
  have hlower := congrArg Char.toNat (lowerChar_anchor symbol)
  rw [toNat_lowerChar_of_ascii (by omega), if_pos (by omega)] at hlower
  omega

/--
The bytes are the same, or a letter in both cases, or a space and a hyphen.
-/
def AlikeInAnchor (a b : UInt8) : Prop :=
  a = b ∨ (isCapital a = true ∧ b = a + 32) ∨ (isCapital b = true ∧ a = b + 32)
    ∨ (a = ' '.toUInt8 ∧ b = '-'.toUInt8) ∨ (a = '-'.toUInt8 ∧ b = ' '.toUInt8)

instance (a b : UInt8) : Decidable (AlikeInAnchor a b) :=
  inferInstanceAs (Decidable (_ ∨ (_ ∧ _) ∨ (_ ∧ _) ∨ (_ ∧ _) ∨ (_ ∧ _)))

def anchorByte (b : UInt8) : UInt8 :=
  if b = ' '.toUInt8 then '-'.toUInt8 else if isCapital b then b + 32 else b

theorem anchorByte_capital {b : UInt8} (h : isCapital b = true) : anchorByte b = b + 32 := by
  unfold anchorByte
  rw [if_neg, if_pos h]
  rintro rfl
  cases h

theorem toNat_capital_add {b : UInt8} (h : isCapital b = true) : (b + 32).toNat = b.toNat + 32 := by
  rw [isCapital_iff] at h
  rw [UInt8.toNat_add]
  change (b.toNat + 32) % 256 = b.toNat + 32
  omega

theorem anchorByte_small {b : UInt8} (h : isCapital b = true) : anchorByte (b + 32) = b + 32 := by
  have hcode := toNat_capital_add h
  rw [isCapital_iff] at h
  unfold anchorByte
  rw [if_neg, if_neg]
  . rw [isCapital_iff]
    omega
  . intro hspace
    rw [hspace] at hcode
    have hcode : 32 = b.toNat + 32 := hcode
    omega

theorem AlikeInAnchor.anchorByte_eq {a b : UInt8} (h : AlikeInAnchor a b) :
    anchorByte a = anchorByte b := by
  rcases h with rfl | ⟨hcapital, rfl⟩ | ⟨hcapital, rfl⟩ | ⟨rfl, rfl⟩ | ⟨rfl, rfl⟩
  . rfl
  . rw [anchorByte_capital hcapital, anchorByte_small hcapital]
  . rw [anchorByte_capital hcapital, anchorByte_small hcapital]
  . rfl
  . rfl

theorem changesAscii_anchorByte : Text.ChangesAscii anchorByte := by
  constructor
  . intro b hb
    unfold anchorByte
    split
    . decide
    split
    . next h =>
      rw [toNat_capital_add h]
      rw [isCapital_iff] at h
      omega
    . exact hb
  . intro b hb
    unfold anchorByte
    rw [if_neg, if_neg]
    . rw [isCapital_iff]
      omega
    . rintro rfl
      exact absurd hb (by decide)

theorem lowerChar_ofNat_add {c : Char} (hlow : 65 ≤ c.toNat) (hhigh : c.toNat ≤ 90) :
    lowerChar (Char.ofNat (c.toNat + 32)) = lowerChar c := by
  have hcode : (Char.ofNat (c.toNat + 32)).toNat = c.toNat + 32 := by
    apply toNat_ofNat_of_isValidChar
    unfold Nat.isValidChar
    omega
  rw [← Char.toNat_inj, toNat_lowerChar_of_ascii (by omega), toNat_lowerChar_of_ascii (by omega), hcode,
    if_neg (by omega), if_pos (by omega)]

theorem anchor_mapAsciiChar (c : Char) :
    (Symbol.char (Text.mapAsciiChar anchorByte c)).anchor = (Symbol.char c).anchor := by
  unfold Text.mapAsciiChar
  split
  . next hc =>
    have hbyte : (UInt8.ofNat c.toNat).toNat = c.toNat := by
      rw [UInt8.toNat_ofNat']
      omega
    unfold anchorByte
    split
    . next hspace =>
      rw [hspace] at hbyte
      obtain rfl : ' ' = c := by
        rw [← Char.toNat_inj]
        exact hbyte
      decide +kernel
    split
    . next hcapital =>
      have hcode := toNat_capital_add hcapital
      rw [isCapital_iff] at hcapital
      rw [hcode, hbyte]
      exact congrArg hyphenate (lowerChar_ofNat_add (by omega) (by omega))
    . rw [hbyte, Char.ofNat_toNat]
  . rfl

theorem anchor_mapAsciiSymbol (symbol : Symbol) :
    (Text.mapAsciiSymbol anchorByte symbol).anchor = symbol.anchor := by
  cases symbol with
  | char c => apply anchor_mapAsciiChar
  | stray b => rfl

theorem slug_map_anchorByte (title : Text) : slug (title.map anchorByte) = slug title := by
  rw [slug_eq, slug_eq, changesAscii_anchorByte.symbols_map, List.map_map]
  congr 2
  funext symbol
  apply anchor_mapAsciiSymbol

theorem slug_eq_of_alike {title other : Text} (h : List.Forall₂ AlikeInAnchor title other) :
    slug other = slug title := by
  have hbytes : title.map anchorByte = other.map anchorByte := by
    induction h with
    | nil => rfl
    | cons hbyte _ ih => rw [List.map_cons, List.map_cons, hbyte.anchorByte_eq, ih]
  rw [← slug_map_anchorByte other, ← hbytes, slug_map_anchorByte]

/--
An anchor holds neither a space nor a capital letter and is its own anchor, and titles that are alike but
for the case of letters and for hyphens in the place of spaces have the same one.
-/
theorem slug_is_canonical (title : Text) :
    ' '.toUInt8 ∉ slug title
      ∧ (∀ b ∈ slug title, isCapital b = false)
      ∧ slug (slug title) = slug title
      ∧ ∀ other, List.Forall₂ AlikeInAnchor title other → slug other = slug title := by
  refine ⟨space_not_mem_slug title, ?_, slug_slug title, ?_⟩
  . intro b hb
    exact not_isCapital_of_mem_slug hb
  . intro other hother
    exact slug_eq_of_alike hother

def unusualTitle : Text :=
  Text.ofString "Fast \u212aey-" ++ [0xC3] ++ Text.ofString "\u00c9T"

theorem slug_unusualTitle_alike :
    slug unusualTitle = Text.ofString "fast-key-\ufffd\u00e9t"
      ∧ ' '.toUInt8 ∉ slug unusualTitle
      ∧ slug (slug unusualTitle) = slug unusualTitle
      ∧ slug (Text.ofString "fAST-\u212aEY " ++ [0xC3] ++ Text.ofString "\u00c9t") = slug unusualTitle := by
  obtain ⟨hspace, -, hself, halike⟩ := slug_is_canonical unusualTitle
  refine ⟨by decide +kernel, hspace, hself, ?_⟩
  apply halike
  decide +kernel

end Commentary
