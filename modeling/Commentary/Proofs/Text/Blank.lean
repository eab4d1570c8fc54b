import Commentary.Text.Blank
import Mathlib.Data.List.Infix

/-!
This module contains the texts that are white space only: those that are written with white space
characters. The encodings of these characters are recognised wherever they stand, since none of them is
the beginning of another.
-/

namespace Commentary

namespace Text

structure PrefixFree (forms : List Text) : Prop where
  ne_nil : ∀ f ∈ forms, f ≠ []
  eq_of_isPrefix : ∀ f ∈ forms, ∀ g ∈ forms, f <+: g → f = g

variable {forms : List Text} {form t : Text}

theorem leadingForm_eq_zero_iff (h : PrefixFree forms) :
    leadingForm forms t = 0 ↔ ∀ form ∈ forms, ¬ form <+: t := by
  unfold leadingForm
  cases hfind : forms.find? t.startsWith with
  | none => simpa [startsWith] using hfind
  | some form =>
    have hmem := List.mem_of_find?_eq_some hfind
    have hstart : form <+: t := by
      simpa [startsWith] using List.find?_some hfind
    simp only [List.length_eq_zero_iff, h.ne_nil form hmem, false_iff]
    intro hnone
    exact hnone form hmem hstart

theorem leadingForm_append (h : PrefixFree forms) (hmem : form ∈ forms) (t : Text) :
    leadingForm forms (form ++ t) = form.length := by
  unfold leadingForm
  cases hfind : forms.find? (form ++ t).startsWith with
  | none =>
    have hnone := List.find?_eq_none.mp hfind form hmem
    simp [startsWith] at hnone
  | some found =>
    have hfound := List.mem_of_find?_eq_some hfind
    have hstart : found <+: form ++ t := by
      simpa [startsWith] using List.find?_some hfind
    rcases List.prefix_or_prefix_of_prefix hstart (List.prefix_append form t) with hle | hle
    . rw [h.eq_of_isPrefix found hfound form hmem hle]
    . rw [h.eq_of_isPrefix form hmem found hfound hle]

theorem dropForms.go_eq_drop (forms : List Text) (skip : Nat) (t : Text) :
    go forms skip t = dropForms forms (t.drop skip) := by
  induction skip generalizing t with
  | zero => rfl
  | succ skip ih =>
    cases t with
    | nil => rfl
    | cons b t =>
      rw [go, ih]
      rfl

theorem dropForms_append (h : PrefixFree forms) (hmem : form ∈ forms) (t : Text) :
    dropForms forms (form ++ t) = dropForms forms t := by
  have hlead := leadingForm_append h hmem t
  cases form with
  | nil => exact absurd rfl (h.ne_nil [] hmem)
  | cons b form =>
    rw [List.cons_append] at hlead ⊢
    unfold dropForms
    rw [dropForms.go, hlead]
    simp only [List.length_cons]
    rw [dropForms.go_eq_drop]
    simp [dropForms]

theorem dropForms_eq_self (h : leadingForm forms t = 0) : dropForms forms t = t := by
  cases t with
  | nil => rfl
  | cons b t =>
    unfold dropForms
    rw [dropForms.go, h]

theorem dropForms_flatten (h : PrefixFree forms) {fs : List Text} (hfs : ∀ f ∈ fs, f ∈ forms) :
    dropForms forms fs.flatten = [] := by
  induction fs with
  | nil => rfl
  | cons f fs ih =>
    rw [List.forall_mem_cons] at hfs
    rw [List.flatten_cons, dropForms_append h hfs.1]
    exact ih hfs.2

theorem exists_eq_flatten_append_dropForms (h : PrefixFree forms) (t : Text) :
    ∃ fs : List Text, (∀ f ∈ fs, f ∈ forms) ∧ t = fs.flatten ++ dropForms forms t := by
  by_cases hlead : leadingForm forms t = 0
  . refine ⟨[], by simp, ?_⟩
    rw [dropForms_eq_self hlead]
    rfl
  . rw [leadingForm_eq_zero_iff h] at hlead
    push Not at hlead
    obtain ⟨form, hmem, rest, rfl⟩ := hlead
    -- forms are not empty, so less is left after each of them
    have hlength : rest.length < (form ++ rest).length := by
      simpa [List.length_pos_iff] using h.ne_nil form hmem
    obtain ⟨fs, hfs, hrest⟩ := exists_eq_flatten_append_dropForms h rest
    rw [dropForms_append h hmem]
    refine ⟨form :: fs, ?_, ?_⟩
    . rw [List.forall_mem_cons]
      exact ⟨hmem, hfs⟩
    . rw [List.flatten_cons, List.append_assoc, ← hrest]
termination_by t.length

theorem dropForms_eq_nil_iff (h : PrefixFree forms) :
    dropForms forms t = [] ↔ ∃ fs : List Text, (∀ f ∈ fs, f ∈ forms) ∧ t = fs.flatten := by
  constructor
  . intro hnil
    obtain ⟨fs, hfs, ht⟩ := exists_eq_flatten_append_dropForms h t
    rw [hnil, List.append_nil] at ht
    exact ⟨fs, hfs, ht⟩
  . rintro ⟨fs, hfs, rfl⟩
    exact dropForms_flatten h hfs

theorem prefixFree_blankForms : PrefixFree blankForms := by
  constructor
  . decide +kernel
  . decide +kernel

theorem prefixFree_reversedBlankForms : PrefixFree (blankForms.map List.reverse) := by
  constructor
  . decide +kernel
  . decide +kernel

def IsWhiteSpace (t : Text) : Prop :=
  ∃ cs : List Char, (∀ c ∈ cs, c ∈ blankChars) ∧ t = cs.flatMap String.utf8EncodeChar

theorem trimLeft_eq_nil_iff : trimLeft t = [] ↔ IsWhiteSpace t := by
  unfold trimLeft IsWhiteSpace
  rw [dropForms_eq_nil_iff prefixFree_blankForms]
  constructor
  . rintro ⟨fs, hfs, rfl⟩
    induction fs with
    | nil => exact ⟨[], by simp, rfl⟩
    | cons f fs ih =>
      rw [List.forall_mem_cons] at hfs
      obtain ⟨c, hc, rfl⟩ := List.mem_map.mp hfs.1
      obtain ⟨cs, hcs, heq⟩ := ih hfs.2
      refine ⟨c :: cs, ?_, ?_⟩
      . rw [List.forall_mem_cons]
        exact ⟨hc, hcs⟩
      . rw [List.flatten_cons, List.flatMap_cons, heq]
  . rintro ⟨cs, hcs, rfl⟩
    refine ⟨cs.map String.utf8EncodeChar, ?_, ?_⟩
    . intro f hf
      obtain ⟨c, hc, rfl⟩ := List.mem_map.mp hf
      exact List.mem_map_of_mem (hcs c hc)
    . rw [List.flatMap_def]

theorem firstWord?_eq_none_iff : firstWord? t = none ↔ IsWhiteSpace t := by
  rw [← trimLeft_eq_nil_iff]
  unfold firstWord?
  cases trimLeft t with
  | nil => simp
  | cons a rest => simp

theorem firstWord?_space (t : Text) : firstWord? (" " ++ t) = firstWord? t := by
  unfold firstWord? trimLeft
  rw [dropForms_append prefixFree_blankForms (by decide +kernel)]

theorem dropForms_eq_self_of_head? {p : UInt8 → Bool} (h : PrefixFree forms)
    (hforms : ∀ form ∈ forms, form.head?.all p = false) (ht : t.head?.all p = true) :
    dropForms forms t = t := by
  apply dropForms_eq_self
  rw [leadingForm_eq_zero_iff h]
  rintro form hmem ⟨rest, rfl⟩
  cases form with
  | nil => exact h.ne_nil [] hmem rfl
  | cons b form =>
    have hform : p b = false := hforms (b :: form) hmem
    have hfirst : p b = true := ht
    rw [hform] at hfirst
    cases hfirst

def isVisible (b : UInt8) : Bool :=
  32 < b && b < 127

theorem trim_eq_self (hfirst : t.head?.all isVisible = true) (hlast : t.getLast?.all isVisible = true) :
    trim t = t := by
  have hleft : trimLeft t = t := by
    apply dropForms_eq_self_of_head? prefixFree_blankForms _ hfirst
    decide +kernel
  have hright : dropForms (blankForms.map List.reverse) t.reverse = t.reverse := by
    apply dropForms_eq_self_of_head? prefixFree_reversedBlankForms (p := isVisible)
    . decide +kernel
    . rwa [List.head?_reverse]
  unfold trim trimRight
  rw [hleft, hright, List.reverse_reverse]

end Text

end Commentary
