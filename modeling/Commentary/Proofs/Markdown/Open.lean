import Commentary.Markdown.Block
import Mathlib.Data.List.TakeDrop

/-!
This module contains the blocks that are opened by three kinds of lines: blank lines, lines that begin
with a letter, an opening bracket or a number sign, and bullets with such a text. Every other kind of
block is tried on the way and found not to start there.
-/

namespace Commentary

namespace Markdown

variable {a b : UInt8} {around : List Block} {c : Cursor}

def isInert (b : UInt8) : Bool :=
  Html.isLetter b || b = '['.toUInt8 || b = '#'.toUInt8

theorem Cursor.view_mk (column : Nat) (rest : Text) : Cursor.view { column, rest } = rest := rfl

theorem ne_of_isInert (h : isInert b = true) (ha : isInert a = false) : b ≠ a := by
  rintro rfl
  rw [h] at ha
  cases ha

theorem isLetter_toNat (h : Html.isLetter b = true) :
    65 ≤ b.toNat ∧ b.toNat ≤ 90 ∨ 97 ≤ b.toNat ∧ b.toNat ≤ 122 := by
  unfold Html.isLetter Html.isUpper at h
  simp only [Bool.or_eq_true, Bool.and_eq_true, decide_eq_true_eq, UInt8.le_iff_toNat_le] at h
  exact h

theorem isInert_toNat (h : isInert b = true) :
    b.toNat = 35 ∨ 65 ≤ b.toNat ∧ b.toNat ≤ 91 ∨ 97 ≤ b.toNat ∧ b.toNat ≤ 122 := by
  unfold isInert at h
  simp only [Bool.or_eq_true, decide_eq_true_eq] at h
  rcases h with (hletter | rfl) | rfl
  . have := isLetter_toNat hletter
    omega
  . decide
  . decide

theorem isSpace_of_isInert (h : isInert b = true) : isSpace b = false := by
  have hb := isInert_toNat h
  unfold isSpace
  simp only [Bool.or_eq_false_iff, Bool.and_eq_false_iff, decide_eq_false_iff_not,
    UInt8.le_iff_toNat_le, ← UInt8.toNat_inj, UInt8.reduceToNat]
  omega

theorem isDigit_of_isInert (h : isInert b = true) : Html.isDigit b = false := by
  have hb := isInert_toNat h
  unfold Html.isDigit
  simp only [Bool.and_eq_false_iff, decide_eq_false_iff_not, UInt8.le_iff_toNat_le]
  change ¬ 48 ≤ b.toNat ∨ ¬ b.toNat ≤ 57
  omega

theorem allSpace_cons (h : isSpace b = false) (t : Text) : allSpace (b :: t) = false := by
  unfold allSpace
  rw [List.all_cons, h, Bool.false_and]

theorem indentation_cons (h : isInert b = true) (column : Nat) (t : Text) :
    indentation column (b :: t) = (0, 0) := by
  unfold indentation indentation.go
  rw [if_neg (ne_of_isInert h (by decide)), if_neg (ne_of_isInert h (by decide))]

theorem isBreak_of_isInert (h : isInert b = true) (column : Nat) (t : Text) :
    isBreak column (b :: t) = false := by
  unfold isBreak
  rw [List.filter_cons_of_pos (by rw [isSpace_of_isInert h]; rfl)]
  dsimp only
  rw [decide_eq_false (ne_of_isInert h (by decide : isInert '*'.toUInt8 = false)),
    decide_eq_false (ne_of_isInert h (by decide : isInert '-'.toUInt8 = false)),
    decide_eq_false (ne_of_isInert h (by decide : isInert '_'.toUInt8 = false))]
  simp

theorem span_of_neg {p : UInt8 → Bool} (h : p b = false) (t : Text) :
    (b :: t).span p = ([], b :: t) := by
  rw [List.span_eq_takeWhile_dropWhile, List.takeWhile_cons_of_neg (by simp [h]),
    List.dropWhile_cons_of_neg (by simp [h])]

theorem span_space_of_isInert (h : isInert b = true) (t : Text) :
    (b :: t).span (· = ' '.toUInt8) = ([], b :: t) := by
  apply span_of_neg
  exact decide_eq_false (ne_of_isInert h (by decide))

theorem ofLine?_of_isInert (h : isInert b = true) (t : Text) : ItemStart.ofLine? (b :: t) = none := by
  unfold ItemStart.ofLine?
  rw [span_space_of_isInert h]
  dsimp only
  rw [span_of_neg (isDigit_of_isInert h)]
  dsimp only
  rw [decide_eq_false (ne_of_isInert h (by decide : isInert '-'.toUInt8 = false)),
    decide_eq_false (ne_of_isInert h (by decide : isInert '*'.toUInt8 = false)),
    decide_eq_false (ne_of_isInert h (by decide : isInert '+'.toUInt8 = false))]
  rfl

theorem underline?_of_isInert (h : isInert b = true) (t : Text) : underline? (b :: t) = none := by
  unfold underline?
  rw [span_space_of_isInert h]
  dsimp only
  rw [if_neg (ne_of_isInert h (by decide : isInert '='.toUInt8 = false)),
    if_neg (ne_of_isInert h (by decide : isInert '-'.toUInt8 = false)), ite_self]

theorem fence?_of_isInert (h : isInert b = true) (t : Text) : fence? (b :: t) = none := by
  unfold fence?
  dsimp only
  rw [decide_eq_false (ne_of_isInert h (by decide : isInert '\x60'.toUInt8 = false)),
    decide_eq_false (ne_of_isInert h (by decide : isInert '~'.toUInt8 = false))]
  rfl

theorem start?_of_isInert (h : isInert b = true) (afterParagraph : Bool) (t : Text) :
    Html.start? afterParagraph (b :: t) = none := by
  unfold Html.start?
  rw [span_space_of_isInert h]
  have hbracket : Text.after? "<" (b :: t) = none := by
    change (if '<'.toUInt8 = b then _ else none) = none
    exact if_neg (Ne.symm (ne_of_isInert h (by decide)))
  dsimp only
  rw [hbracket]
  rfl

theorem lineHeading?_of_ne (h : b ≠ '#'.toUInt8) (t : Text) : lineHeading? (b :: t) = none := by
  unfold lineHeading?
  rw [span_of_neg (decide_eq_false h)]
  rfl

theorem afterQuoteMark?_of_isInert (h : isInert b = true) (column : Nat) (t : Text) :
    afterQuoteMark? { column, rest := b :: t } = none := by
  have hne := ne_of_isInert h (by decide : isInert '>'.toUInt8 = false)
  unfold afterQuoteMark?
  rw [Cursor.view_mk, indentation_cons h]
  dsimp only
  rw [if_pos (by simp [hne])]

theorem openBlocks_of_allSpace (around old : List Block) (h : allSpace c.view = true) :
    openBlocks around old c = { blocks := around } := by
  unfold openBlocks
  dsimp only
  rw [if_pos h, if_pos h]

def withText (around old : List Block) (text : Text) : List Block :=
  match lastParagraph? old with
  | some lines => around ++ old.dropLast ++ [.paragraph (lines ++ [text])]
  | none => around ++ [.paragraph [text]]

theorem openBlocks_of_isInert (h : isInert b = true) (around old : List Block) (column : Nat)
    (t : Text) :
    openBlocks around old { column, rest := b :: t } =
      match lineHeading? (b :: t) with
      | some heading => { blocks := around ++ [.line], headings := [heading] }
      | none => { blocks := withText around old (b :: t) } := by
  have htext : (if 0 < (b :: t).length then List.drop 0 (b :: t) else []) = b :: t :=
    if_pos (Nat.zero_lt_succ _)
  have hspace : (b :: t).dropWhile isSpace = b :: t :=
    List.dropWhile_cons_of_neg (by simp [isSpace_of_isInert h])
  unfold openBlocks
  dsimp only
  -- none of the blocks that are tried before a heading starts with such a byte
  rw [Cursor.view_mk, allSpace_cons (isSpace_of_isInert h), indentation_cons h,
    isBreak_of_isInert h, ofLine?_of_isInert h, afterQuoteMark?_of_isInert h, start?_of_isInert h]
  rw [Option.filter_none]
  dsimp only
  rw [htext, hspace, fence?_of_isInert h]
  simp only [Bool.false_eq_true, if_false, reduceCtorEq, Nat.not_lt_zero]
  unfold withText
  cases lineHeading? (b :: t) with
  | some heading => rfl
  | none => cases lastParagraph? old <;> rfl

def bulletLine (text : Text) : Text :=
  '-'.toUInt8 :: ' '.toUInt8 :: text

def bulletStart (text : Text) : ItemStart where
  length := 1
  mark := '-'.toUInt8
  number := none
  content := ' '.toUInt8 :: text

def bulletList : Block :=
  .list '-'.toUInt8 false 2 false

theorem ofLine?_bulletLine (t : Text) : ItemStart.ofLine? (bulletLine t) = some (bulletStart t) := by
  unfold ItemStart.ofLine? bulletLine
  rw [span_of_neg (by decide)]
  dsimp only
  rw [span_of_neg (by decide)]
  rfl

theorem isBreak_bulletLine (h : isInert b = true) (t : Text) :
    isBreak 0 (bulletLine (b :: t)) = false := by
  have hmarks : (bulletLine (b :: t)).filter (fun b => !isSpace b) =
      '-'.toUInt8 :: b :: t.filter fun b => !isSpace b := by
    unfold bulletLine
    rw [List.filter_cons_of_pos (by decide), List.filter_cons_of_neg (by decide),
      List.filter_cons_of_pos (by rw [isSpace_of_isInert h]; rfl)]
  unfold isBreak
  rw [hmarks]
  dsimp only
  rw [List.all_cons, List.all_cons,
    decide_eq_false (ne_of_isInert h (by decide : isInert '-'.toUInt8 = false)), Bool.false_and,
    Bool.and_false, Bool.and_false, Bool.false_and]

theorem underline?_bulletLine (h : isInert b = true) (t : Text) :
    underline? (bulletLine (b :: t)) = none := by
  have hbar : (bulletLine (b :: t)).dropWhile (· = '-'.toUInt8) = ' '.toUInt8 :: b :: t := by
    unfold bulletLine
    rw [List.dropWhile_cons_of_pos (by decide), List.dropWhile_cons_of_neg (by decide)]
  have hspace : allSpace (' '.toUInt8 :: b :: t) = false := allSpace_cons (isSpace_of_isInert h) t
  unfold underline?
  rw [show (bulletLine (b :: t)).span (· = ' '.toUInt8) = ([], bulletLine (b :: t)) from
    span_of_neg (by decide) _]
  unfold bulletLine at hbar ⊢
  dsimp only
  rw [hbar, hspace, Bool.and_false]
  rfl

theorem isEmpty_bulletStart (h : isInert b = true) (t : Text) :
    (bulletStart (b :: t)).isEmpty = false :=
  allSpace_cons (isSpace_of_isInert h) t

theorem gap_bulletStart (h : isInert b = true) (t : Text) : (bulletStart (b :: t)).gap = 1 := by
  unfold ItemStart.gap
  rw [isEmpty_bulletStart h]
  unfold bulletStart indentation indentation.go indentation.go
  rw [if_pos rfl, if_neg (ne_of_isInert h (by decide)), if_neg (ne_of_isInert h (by decide))]
  rfl

theorem contentOf_bulletStart (h : isInert b = true) (t : Text) :
    (bulletStart (b :: t)).contentOf { rest := bulletLine (b :: t) } =
      { column := 2, rest := b :: t } := by
  unfold ItemStart.contentOf
  rw [gap_bulletStart h]
  rfl

theorem withItem_bulletStart (h : isInert b = true) (t : Text) (mark : UInt8) (ordered : Bool)
    (offset : Nat) (emptyItem : Bool) :
    withItem (bulletStart (b :: t)) [.list mark ordered offset emptyItem] =
      [.list mark ordered 2 true, .item] := by
  unfold withItem
  rw [gap_bulletStart h]
  rfl

theorem openBlocks_bulletLine (h : isInert b = true) (hmark : b ≠ '#'.toUInt8)
    (haround : around = [] ∨ around = [bulletList]) (old : List Block) (t : Text) :
    openBlocks around old { rest := bulletLine (b :: t) } =
      { blocks := [.list '-'.toUInt8 false 2 true, .item, .paragraph [b :: t]]
        itemOpened := true } := by
  have hspace : allSpace (bulletLine (b :: t)) = false := allSpace_cons (by decide) _
  have hwidth : indentation 0 (bulletLine (b :: t)) = (0, 0) := rfl
  have hstart : Cursor.start { rest := bulletLine (b :: t) } = 0 := rfl
  have hlength : (b :: t).length < (bulletLine (b :: t)).length := by
    unfold bulletLine
    simp
  have hopen (blocks : List Block) :
      openBlocks blocks [] { column := 2, rest := b :: t } =
        { blocks := blocks ++ [.paragraph [b :: t]] } := by
    rw [openBlocks_of_isInert h, lineHeading?_of_ne hmark]
    rfl
  have hitem (p : ItemStart → Bool) (hp : p (bulletStart (b :: t)) = true) :
      (some (bulletStart (b :: t))).filter p = some (bulletStart (b :: t)) := by
    rw [Option.filter_some, if_pos hp]
  unfold openBlocks
  dsimp only
  rw [Cursor.view_mk, hstart, hspace, hwidth, isBreak_bulletLine h, ofLine?_bulletLine, hitem]
  . dsimp only
    rw [contentOf_bulletStart h, hopen, isEmpty_bulletStart h, if_neg Bool.false_ne_true,
      if_neg (Nat.not_lt_zero 3), if_neg Bool.false_ne_true, dif_pos ⟨rfl, hlength⟩]
    -- the item goes into the list around it, or into a new one
    rcases haround with rfl | rfl
    all_goals
      change Outcome.mk (withItem _ [.list _ _ _ _] ++ _) _ _ = _
      rw [withItem_bulletStart h]
      rfl
  . rw [isEmpty_bulletStart h]
    simp [bulletStart]

end Markdown

end Commentary
