import Commentary.Source.Classify
import Mathlib.Data.List.Infix

/-!
This module contains where the text of a token comes from: in the enumeration and the function mode it
is an excerpt of the line, so it holds no byte that the line does not.
-/

namespace Commentary

namespace Text

theorem after?_eq_some_iff {start t rest : Text} : after? start t = some rest ↔ t = start ++ rest := by
  induction start generalizing t with
  | nil =>
    rw [after?, Option.some.injEq]
    rfl
  | cons a start ih =>
    cases t with
    | nil => simp [after?]
    | cons b t =>
      rw [after?]
      split
      . next h => simp [ih, h]
      . next h => simp [Ne.symm h]

theorem dropForms.go_isSuffix (forms : List Text) (skip : Nat) (t : Text) : go forms skip t <:+ t := by
  fun_induction go forms skip t with
  | case1 => apply List.suffix_rfl
  | case2 skip b t ih => exact ih.trans (List.suffix_cons b t)
  | case3 => apply List.suffix_rfl
  | case4 a t n h ih => exact ih.trans (List.suffix_cons a t)

theorem trimLeft_isSuffix (t : Text) : trimLeft t <:+ t := by
  apply dropForms.go_isSuffix

theorem trimRight_isPrefix (t : Text) : trimRight t <+: t := by
  rw [← List.reverse_suffix, trimRight, List.reverse_reverse]
  apply dropForms.go_isSuffix

theorem trim_isInfix (t : Text) : trim t <:+: t := by
  exact (trimRight_isPrefix _).isInfix.trans (trimLeft_isSuffix t).isInfix

theorem dropEndWhile_isPrefix (p : UInt8 → Bool) (t : Text) : dropEndWhile p t <+: t := by
  rw [← List.reverse_suffix, dropEndWhile, List.reverse_reverse]
  apply List.dropWhile_suffix

theorem untilBlank_isPrefix (t : Text) : untilBlank t <+: t := by
  fun_induction untilBlank t with
  | case1 => apply List.prefix_rfl
  | case2 a t h ih => simpa using ih
  | case3 => apply List.nil_prefix

theorem firstWord?_isInfix (t : Text) : (firstWord? t).getD [] <:+: t := by
  unfold firstWord?
  split
  . apply List.nil_infix
  . next h =>
    rw [Option.getD_some, ← h]
    exact (untilBlank_isPrefix _).isInfix.trans (trimLeft_isSuffix t).isInfix

theorem dropSymbol_isSuffix (t : Text) : dropSymbol t <:+ t := by
  cases t with
  | nil => apply List.suffix_rfl
  | cons a t =>
    rw [dropSymbol]
    split
    . exact (List.drop_suffix _ t).trans (List.suffix_cons a t)
    . apply List.suffix_cons

end Text

namespace Source

theorem unframe_isInfix (t : Text) : unframe t <:+: t := by
  exact (Text.trim_isInfix _).trans (Text.dropEndWhile_isPrefix _ t).isInfix

theorem variantName_isInfix (line : Text) : variantName line <:+: line := by
  refine (Text.trim_isInfix _).trans ?_
  apply List.IsPrefix.isInfix
  apply List.takeWhile_prefix

theorem functionName_isInfix (rest : Text) : functionName rest <:+: rest := by
  refine List.IsInfix.trans ?_ (Text.firstWord?_isInfix rest)
  apply List.IsPrefix.isInfix
  apply List.takeWhile_prefix

theorem text_classifyEnum_isInfix (v : Vocabulary) (line : Text) :
    (classifyEnum v line).text <:+: line := by
  refine List.IsInfix.trans ?_ (Text.trim_isInfix line)
  unfold classifyEnum
  generalize Text.trim line = line
  dsimp only
  split
  . apply List.nil_infix
  split
  . apply List.nil_infix
  split
  . next title h =>
    rw [Text.after?_eq_some_iff] at h
    rw [h]
    exact (unframe_isInfix title).trans (List.suffix_append _ title).isInfix
  split
  . exact (Text.trim_isInfix _).trans (List.dropWhile_suffix _).isInfix
  split
  . apply List.nil_infix
  split
  . apply variantName_isInfix
  . apply List.infix_rfl

theorem text_classifyFunction_isInfix (v : Vocabulary) (line : Text) :
    (classifyFunction v line).text <:+: line := by
  unfold classifyFunction
  split
  . next text h =>
    rw [Text.after?_eq_some_iff] at h
    rw [h]
    exact (Text.dropSymbol_isSuffix text).isInfix.trans (List.suffix_append _ text).isInfix
  split
  . next rest h =>
    rw [Text.after?_eq_some_iff] at h
    rw [h]
    exact (functionName_isInfix rest).trans (List.suffix_append _ rest).isInfix
  . apply List.infix_rfl

end Source

end Commentary
