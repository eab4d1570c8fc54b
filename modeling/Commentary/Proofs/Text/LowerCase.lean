import Commentary.Proofs.Text.Symbol
import Commentary.Text.LowerCase

/-!
This module contains the lower case of characters and the bytes of a text in lower case: a byte that comes
before `a` stands there only if it stands in the text itself. No character that the case table leads to is
one that it leads from, so what is in lower case stays as it is.
-/

namespace Commentary

theorem caseTable_shift :
    ∀ row ∈ caseTable, 97 ≤ row.first + row.shift
      ∧ (row.last + row.shift < 0xD800
        ∨ 0xE000 ≤ row.first + row.shift ∧ row.last + row.shift < 0x110000) := by
  decide +kernel

theorem caseTable_ascii :
    ∀ row ∈ caseTable, row.first = 0x41 ∧ row.last = 0x5A ∧ row.shift = 32
      ∨ row.first = 0x130 ∧ row.last = 0x130 ∧ row.shift = -199
      ∨ row.first = 0x212A ∧ row.last = 0x212A ∧ row.shift = -8383
      ∨ 128 ≤ row.first ∧ 128 ≤ row.first + row.shift := by
  decide +kernel

namespace CaseRow

variable {row other : CaseRow} {n : Nat}

theorem covers_iff :
    row.covers n = true ↔ row.first ≤ n ∧ n ≤ row.last ∧ (n - row.first) % row.step = 0 := by
  simp [covers, and_assoc]

/--
Decide whether no character that `row` leads to is one that `other` leads from. Where the two meet, each
has only every second character, and not the same ones.
-/
def avoids (row other : CaseRow) : Bool :=
  Nat.blt (row.last + row.shift).toNat other.first || Nat.blt other.last (row.first + row.shift).toNat
    || (row.step == 2 || row.first == row.last) && other.step == 2
      && ((row.first + row.shift).toNat + other.first) % 2 == 1

theorem not_covers_of_avoids {m : Nat} (h : row.avoids other = true) (hlow : 0 ≤ row.first + row.shift)
    (hcovers : row.covers n = true) (hm : (m : Int) = n + row.shift) : ¬ other.covers m = true := by
  intro hother
  rw [covers_iff] at hcovers hother
  simp only [avoids, Bool.or_eq_true, Bool.and_eq_true, beq_iff_eq, Nat.blt_eq] at h
  rcases h with (hbelow | habove) | ⟨⟨hrow, hstep⟩, hparity⟩
  . omega
  . omega
  . rw [hstep] at hother
    rcases hrow with hrow | hrow
    . rw [hrow] at hcovers
      omega
    . omega

end CaseRow

theorem caseTable_avoids : ∀ row ∈ caseTable, caseTable.all row.avoids = true := by
  decide +kernel

theorem lowerChar_cases (c : Char) :
    (lowerChar c = c ∧ ∀ row ∈ caseTable, ¬ row.covers c.toNat = true)
      ∨ ∃ row ∈ caseTable, row.covers c.toNat = true
        ∧ ((lowerChar c).toNat : Int) = c.toNat + row.shift := by
  unfold lowerChar
  split
  . next row hrow =>
    have hmem := List.mem_of_find?_eq_some hrow
    have hcovers := List.find?_some hrow
    refine .inr ⟨row, hmem, hcovers, ?_⟩
    obtain ⟨hlow, hhigh⟩ := caseTable_shift row hmem
    rw [CaseRow.covers_iff] at hcovers
    rw [toNat_ofNat_of_isValidChar]
    . omega
    . unfold Nat.isValidChar
      omega
  . next hnone =>
    rw [List.find?_eq_none] at hnone
    exact .inl ⟨rfl, hnone⟩

theorem lowerChar_eq_or (c : Char) : lowerChar c = c ∨ 97 ≤ (lowerChar c).toNat := by
  rcases lowerChar_cases c with ⟨hself, -⟩ | ⟨row, hrow, hcovers, hcode⟩
  . exact .inl hself
  . have hshift := (caseTable_shift row hrow).1
    rw [CaseRow.covers_iff] at hcovers
    omega

theorem lowerChar_lowerChar (c : Char) : lowerChar (lowerChar c) = lowerChar c := by
  rcases lowerChar_cases c with ⟨hself, -⟩ | ⟨row, hrow, hcovers, hcode⟩
  . rw [hself, hself]
  rcases lowerChar_cases (lowerChar c) with ⟨hself, -⟩ | ⟨other, hother, hagain, -⟩
  . exact hself
  . have havoids := List.all_eq_true.mp (caseTable_avoids row hrow) other hother
    have hlow := (caseTable_shift row hrow).1
    exact absurd hagain (CaseRow.not_covers_of_avoids havoids (by omega) hcovers hcode)

theorem toNat_lowerChar_of_ascii {c : Char} (h : c.toNat < 128) :
    (lowerChar c).toNat = if 65 ≤ c.toNat ∧ c.toNat ≤ 90 then c.toNat + 32 else c.toNat := by
  rcases lowerChar_cases c with ⟨hself, hnone⟩ | ⟨row, hrow, hcovers, hcode⟩
  . have hfirst := hnone _ List.mem_cons_self
    rw [CaseRow.covers_iff] at hfirst
    rw [hself, if_neg]
    intro hupper
    exact hfirst ⟨hupper.1, hupper.2, Nat.mod_one _⟩
  . rw [CaseRow.covers_iff] at hcovers
    have hascii := caseTable_ascii row hrow
    rw [if_pos]
    all_goals omega

namespace Text

theorem mem_of_mem_toLower {b : UInt8} {t : Text} (h : b ∈ toLower t) (hb : b.toNat < 97) : b ∈ t := by
  unfold toLower at h
  obtain ⟨symbol, hsymbol, h⟩ := List.mem_flatMap.mp h
  cases symbol with
  | char c =>
    dsimp only at h
    have hcode := toNat_eq_of_mem_utf8EncodeChar h (by omega)
    rcases lowerChar_eq_or c with hsame | hlater
    . rw [hsame] at h
      exact mem_of_mem_bytes hsymbol h
    . omega
  | stray a =>
    have hcode := toNat_eq_of_mem_utf8EncodeChar h (by omega)
    rw [← hcode] at hb
    exact absurd hb (by decide)

end Text

end Commentary
