import Commentary.Proofs.Text.Encoding
import Commentary.Proofs.Text.LowerCase
import Mathlib.Data.List.Forall2

/-!
This module contains the lower case of a text, character by character. A text with a given lower case is
written with the characters that become those of the lower case one by one, and for a small letter of ASCII
these are the letter, its capital and two letters that are not ASCII. A byte of ASCII is a character of its
own, so changing such bytes changes these characters and leaves the others where they are.
-/

namespace Commentary

namespace Symbol

def lower : Symbol → Char
  | .char c => lowerChar c
  | .stray _ => replacementChar

theorem lowerChar_lower (symbol : Symbol) : lowerChar symbol.lower = symbol.lower := by
  cases symbol with
  | char c => apply lowerChar_lowerChar
  | stray b =>
    change lowerChar replacementChar = replacementChar
    decide +kernel

end Symbol

def EitherCase (c d : Char) : Prop :=
  d = c ∨ d = c.toUpper

theorem isLower_iff {c : Char} : c.isLower = true ↔ 97 ≤ c.toNat ∧ c.toNat ≤ 122 := by
  rw [← Char.toNat_val]
  change (decide (97 ≤ c.val) && decide (c.val ≤ 122)) = true ↔ _
  simp only [Bool.and_eq_true, decide_eq_true_eq, UInt32.le_iff_toNat_le]
  rfl

theorem toNat_toUpper {c : Char} (h : c.isLower = true) : c.toUpper.toNat + 32 = c.toNat := by
  have hletters : ∀ n < 123, 97 ≤ n → (Char.ofNat n).toUpper.toNat + 32 = n := by
    decide +kernel
  rw [isLower_iff] at h
  have hcode := hletters c.toNat (by omega) h.1
  rwa [Char.ofNat_toNat] at hcode

theorem eq_lowerChar_iff {c d : Char} (h : c.isLower = true) :
    c = lowerChar d ↔ EitherCase c d ∨ c = 'i' ∧ d = '\u0130' ∨ c = 'k' ∧ d = '\u212a' := by
  have hupper := toNat_toUpper h
  rw [isLower_iff] at h
  constructor
  . rintro rfl
    rcases lowerChar_cases d with ⟨hself, -⟩ | ⟨row, hrow, hcovers, hcode⟩
    . exact .inl (.inl hself.symm)
    rw [CaseRow.covers_iff] at hcovers
    rcases caseTable_ascii row hrow with hrow | hrow | hrow | hrow
    . refine .inl (.inr ?_)
      rw [← Char.toNat_inj]
      omega
    . refine .inr (.inl ?_)
      simp only [← Char.toNat_inj, Char.reduceToNat]
      omega
    . refine .inr (.inr ?_)
      simp only [← Char.toNat_inj, Char.reduceToNat]
      omega
    . omega
  . rintro ((rfl | rfl) | ⟨rfl, rfl⟩ | ⟨rfl, rfl⟩)
    . rw [← Char.toNat_inj, toNat_lowerChar_of_ascii (by omega), if_neg (by omega)]
    . rw [← Char.toNat_inj, toNat_lowerChar_of_ascii (by omega), if_pos (by omega), hupper]
    . decide +kernel
    . decide +kernel

namespace Text

variable {t : Text} {name : String}

theorem toLower_eq (t : Text) :
    toLower t = (t.symbols.map Symbol.lower).flatMap String.utf8EncodeChar := by
  unfold toLower
  rw [List.flatMap_map]
  congr 1
  funext symbol
  cases symbol with
  | char c => rfl
  | stray b => rfl

theorem symbols_flatMap (cs : List Char) :
    symbols (cs.flatMap String.utf8EncodeChar) = cs.map .char := by
  have happend := symbols_flatMap_append cs []
  rw [List.append_nil] at happend
  rw [happend]
  apply List.append_nil

theorem flatMap_utf8EncodeChar_inj {cs ds : List Char} :
    cs.flatMap String.utf8EncodeChar = ds.flatMap String.utf8EncodeChar ↔ cs = ds := by
  constructor
  . intro h
    have hsymbols := congrArg symbols h
    rw [symbols_flatMap, symbols_flatMap] at hsymbols
    apply List.map_injective_iff.mpr _ hsymbols
    intro c d hcd
    exact Symbol.char.inj hcd
  . rintro rfl
    rfl

theorem ofString_inj {s t : String} : ofString s = ofString t ↔ s = t := by
  unfold ofString
  rw [flatMap_utf8EncodeChar_inj, String.toList_inj]

/--
The text is the name, with a character for each of its letters that has the given form.
-/
def Spells (form : Char → Char → Prop) (name : String) (t : Text) : Prop :=
  ∃ cs : List Char, List.Forall₂ form name.toList cs ∧ t = cs.flatMap String.utf8EncodeChar

theorem spells_congr {form other : Char → Char → Prop}
    (h : ∀ c ∈ name.toList, ∀ d, form c d ↔ other c d) : Spells form name t ↔ Spells other name t := by
  apply exists_congr
  intro cs
  have hzip : ∀ {c d : Char}, (c, d) ∈ name.toList.zip cs → (form c d ↔ other c d) := by
    intro c d hmem
    exact h c (List.of_mem_zip hmem).1 d
  rw [List.forall₂_iff_zip, List.forall₂_iff_zip]
  refine and_congr_left' (and_congr_right' ⟨?_, ?_⟩)
  . intro hforms c d hmem
    exact (hzip hmem).mp (hforms hmem)
  . intro hforms c d hmem
    exact (hzip hmem).mpr (hforms hmem)

theorem toLower_eq_ofString_iff (h : replacementChar ∉ name.toList) :
    toLower t = name ↔ Spells (fun c d => c = lowerChar d) name t := by
  rw [toLower_eq, ofString, flatMap_utf8EncodeChar_inj]
  constructor
  . intro hname
    have hchars : t.symbols.all (fun s => s.char?.isSome) = true := by
      rw [List.all_eq_true]
      intro symbol hsymbol
      cases symbol with
      | char c => rfl
      | stray b =>
        apply absurd _ h
        rw [← hname]
        exact List.mem_map_of_mem hsymbol
    obtain ⟨cs, hcs⟩ := exists_eq_map_char hchars
    refine ⟨cs, ?_, ?_⟩
    . rw [← hname, hcs, List.map_map, ← List.forall₂_map_right_iff, List.forall₂_eq_eq_eq]
      rfl
    . rw [← ofSymbols_symbols t, hcs, ofSymbols, List.flatMap_map]
      rfl
  . rintro ⟨cs, hcs, rfl⟩
    rw [← List.forall₂_map_right_iff, List.forall₂_eq_eq_eq] at hcs
    rw [symbols_flatMap, List.map_map, hcs]
    rfl

theorem toLower_eq_iff_spells {p : Char → Bool} {form : Char → Char → Prop}
    (hp : ∀ c, p c = true → c.isLower = true ∧ ∀ d, c = lowerChar d ↔ form c d)
    (hname : name.toList.all p = true) : toLower t = name ↔ Spells form name t := by
  rw [List.all_eq_true] at hname
  have hreplacement : replacementChar ∉ name.toList := by
    intro hmem
    exact absurd (hp _ (hname _ hmem)).1 (by decide)
  rw [toLower_eq_ofString_iff hreplacement]
  apply spells_congr
  intro c hc
  exact (hp c (hname c hc)).2

/-! Changing the bytes of ASCII in a text. -/

theorem leading?_of_ascii {a : UInt8} (h : a.toNat < 128) (t : Text) :
    leading? a t = some (Char.ofNat a.toNat, 0) := by
  have hlead := leading?_one h t
  rwa [UInt8.ofNat_toNat] at hlead

theorem le_toNat_of_leading? {a : UInt8} {c : Char} {n : Nat} (h : leading? a t = some (c, n))
    (ha : 128 ≤ a.toNat) : 128 ≤ c.toNat := by
  have hencode := utf8EncodeChar_of_leading? h
  by_contra hc
  rw [utf8EncodeChar_of_ascii (by omega), List.cons.injEq] at hencode
  rw [← hencode.1, UInt8.toNat_ofNat'] at ha
  omega

structure ChangesAscii (f : UInt8 → UInt8) : Prop where
  lt : ∀ {b : UInt8}, b.toNat < 128 → (f b).toNat < 128
  eq_self : ∀ {b : UInt8}, 128 ≤ b.toNat → f b = b

def mapAsciiChar (f : UInt8 → UInt8) (c : Char) : Char :=
  if c.toNat < 128 then Char.ofNat (f (UInt8.ofNat c.toNat)).toNat else c

def mapAsciiSymbol (f : UInt8 → UInt8) : Symbol → Symbol
  | .char c => .char (mapAsciiChar f c)
  | .stray b => .stray b

namespace ChangesAscii

variable {f : UInt8 → UInt8}

theorem continuation?_map (hf : ChangesAscii f) (b : UInt8) : continuation? (f b) = continuation? b := by
  by_cases hb : b.toNat < 128
  . have hnone : ∀ b : UInt8, b.toNat < 128 → continuation? b = none := by
      intro b hb
      unfold continuation?
      rw [if_neg]
      simp only [UInt8.le_iff_toNat_le, UInt8.reduceToNat]
      omega
    rw [hnone b hb, hnone (f b) (hf.lt hb)]
  . rw [hf.eq_self (by omega)]

theorem leading?_map_right (hf : ChangesAscii f) (a : UInt8) (t : Text) : leading? a (t.map f) = leading? a t := by
  have hbyte : ∀ n : Nat, (t.map f)[n]? >>= continuation? = t[n]? >>= continuation? := by
    intro n
    rw [List.getElem?_map]
    cases t[n]? with
    | none => rfl
    | some b => exact hf.continuation?_map b
  unfold leading?
  simp only [hbyte]

theorem leading?_map (hf : ChangesAscii f) (a : UInt8) (t : Text) :
    leading? (f a) (t.map f) = (leading? a t).map fun (c, n) => (mapAsciiChar f c, n) := by
  by_cases ha : a.toNat < 128
  . have hcode : (Char.ofNat a.toNat).toNat = a.toNat := by
      apply toNat_ofNat_of_isValidChar
      unfold Nat.isValidChar
      omega
    rw [leading?_of_ascii (hf.lt ha), leading?_of_ascii ha, Option.map_some]
    dsimp only
    rw [mapAsciiChar, hcode, if_pos ha, UInt8.ofNat_toNat]
  . rw [hf.eq_self (by omega), hf.leading?_map_right]
    cases hlead : leading? a t with
    | none => rfl
    | some found =>
      have hc := le_toNat_of_leading? hlead (by omega)
      rw [Option.map_some]
      dsimp only
      rw [mapAsciiChar, if_neg (by omega)]

theorem symbols_map (hf : ChangesAscii f) (t : Text) : symbols (t.map f) = t.symbols.map (mapAsciiSymbol f) := by
  -- A byte is changed where it is read, without a change to what is read before and after it.
  have hgo : ∀ (skip : Nat) (t : Text),
      symbols.go skip (t.map f) = (symbols.go skip t).map (mapAsciiSymbol f) := by
    intro skip t
    fun_induction symbols.go skip t with
    | case1 =>
      rw [List.map_nil, symbols.go]
      rfl
    | case2 skip b t ih => exact ih
    | case3 a t c n hlead ih =>
      rw [List.map_cons, List.map_cons, ← ih, symbols.go, hf.leading?_map, hlead]
      rfl
    | case4 a t hlead ih =>
      have ha : 128 ≤ a.toNat := by
        rw [← Nat.not_lt]
        intro ha
        rw [leading?_of_ascii ha] at hlead
        cases hlead
      rw [List.map_cons, List.map_cons, ← ih, symbols.go, hf.leading?_map, hlead, hf.eq_self ha]
      rfl
  apply hgo

end ChangesAscii

end Text

end Commentary
