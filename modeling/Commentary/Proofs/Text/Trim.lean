import Commentary.Proofs.Text.Blank

/-!
This module contains what is left of a text without the white space at its ends. A text may be cut inside
a character, so the bytes at the end of one piece might turn out to be white space together with those at
the beginning of the next one. That does not happen where the next piece begins with a byte that occurs
in white space only as a first one.
-/

namespace Commentary

namespace Text

variable {forms : List Text} {s t u : Text} {b : UInt8}

theorem leadingForm_nil (h : PrefixFree forms) : leadingForm forms [] = 0 := by
  rw [leadingForm_eq_zero_iff h]
  intro form hmem hnil
  apply h.ne_nil form hmem
  exact List.prefix_nil.mp hnil

theorem leadingForm_dropForms (h : PrefixFree forms) (t : Text) :
    leadingForm forms (dropForms forms t) = 0 := by
  have hgo : ∀ skip, leadingForm forms (dropForms.go forms skip t) = 0 := by
    intro skip
    fun_induction dropForms.go forms skip t with
    | case1 => exact leadingForm_nil h
    | case2 skip a t ih => exact ih
    | case3 a t hlead => exact hlead
    | case4 a t n hlead ih => exact ih
  exact hgo 0

theorem dropForms_flatten_append (h : PrefixFree forms) {fs : List Text} (hfs : ∀ f ∈ fs, f ∈ forms)
    (t : Text) : dropForms forms (fs.flatten ++ t) = dropForms forms t := by
  induction fs with
  | nil => rfl
  | cons f fs ih =>
    rw [List.forall_mem_cons] at hfs
    rw [List.flatten_cons, List.append_assoc, dropForms_append h hfs.1]
    exact ih hfs.2

theorem dropForms_append_cons (h : PrefixFree forms) (hb : ∀ form ∈ forms, b ∉ form.tail)
    (hne : dropForms forms t ≠ []) (rest : Text) :
    dropForms forms (t ++ b :: rest) = dropForms forms t ++ b :: rest := by
  -- No form begins in what is left of a text and goes on in what is added to it.
  have hlead := leadingForm_dropForms h t
  obtain ⟨fs, hfs, ht⟩ := exists_eq_flatten_append_dropForms h t
  generalize dropForms forms t = kept at *
  rw [ht, List.append_assoc, dropForms_flatten_append h hfs]
  apply dropForms_eq_self
  rw [leadingForm_eq_zero_iff h] at hlead ⊢
  intro form hmem hform
  rcases List.prefix_or_prefix_of_prefix hform (List.prefix_append kept _) with hinside | ⟨more, rfl⟩
  . exact hlead form hmem hinside
  . rw [List.prefix_append_right_inj] at hform
    cases more with
    | nil =>
      apply hlead _ hmem
      rw [List.append_nil]
    | cons b' more =>
      rw [List.cons_prefix_cons] at hform
      apply hb _ hmem
      rw [List.tail_append_of_ne_nil hne, hform.1]
      simp

theorem isWhiteSpace_iff :
    IsWhiteSpace t ↔ ∃ fs : List Text, (∀ f ∈ fs, f ∈ blankForms) ∧ t = fs.flatten := by
  rw [← trimLeft_eq_nil_iff, trimLeft, dropForms_eq_nil_iff prefixFree_blankForms]

theorem isWhiteSpace_iff_reverse :
    IsWhiteSpace t
      ↔ ∃ fs : List Text, (∀ f ∈ fs, f ∈ blankForms.map List.reverse) ∧ t.reverse = fs.flatten := by
  rw [isWhiteSpace_iff]
  constructor
  . rintro ⟨fs, hfs, rfl⟩
    refine ⟨(fs.map List.reverse).reverse, ?_, List.reverse_flatten⟩
    intro f hf
    obtain ⟨g, hg, rfl⟩ := List.mem_map.mp (List.mem_reverse.mp hf)
    exact List.mem_map_of_mem (hfs g hg)
  . rintro ⟨fs, hfs, ht⟩
    refine ⟨(fs.map List.reverse).reverse, ?_, ?_⟩
    . intro f hf
      obtain ⟨g, hg, rfl⟩ := List.mem_map.mp (List.mem_reverse.mp hf)
      obtain ⟨form, hform, rfl⟩ := List.mem_map.mp (hfs g hg)
      rwa [List.reverse_reverse]
    . rw [← List.reverse_flatten, ← ht, List.reverse_reverse]

theorem isWhiteSpace_nil : IsWhiteSpace [] := by
  exact ⟨[], by simp, rfl⟩

theorem IsWhiteSpace.append (ht : IsWhiteSpace t) (hu : IsWhiteSpace u) : IsWhiteSpace (t ++ u) := by
  obtain ⟨cs, hcs, rfl⟩ := ht
  obtain ⟨ds, hds, rfl⟩ := hu
  refine ⟨cs ++ ds, ?_, ?_⟩
  . rw [List.forall_mem_append]
    exact ⟨hcs, hds⟩
  . rw [List.flatMap_append]

theorem trimLeft_append_left (hu : IsWhiteSpace u) (t : Text) : trimLeft (u ++ t) = trimLeft t := by
  obtain ⟨fs, hfs, rfl⟩ := isWhiteSpace_iff.mp hu
  apply dropForms_flatten_append prefixFree_blankForms hfs

theorem trimRight_append_right (hu : IsWhiteSpace u) (t : Text) :
    trimRight (t ++ u) = trimRight t := by
  obtain ⟨fs, hfs, hreverse⟩ := isWhiteSpace_iff_reverse.mp hu
  unfold trimRight
  rw [List.reverse_append, hreverse, dropForms_flatten_append prefixFree_reversedBlankForms hfs]

theorem trimLeft_append_cons (hb : ∀ form ∈ blankForms, b ∉ form.tail) (hne : trimLeft t ≠ [])
    (rest : Text) : trimLeft (t ++ b :: rest) = trimLeft t ++ b :: rest := by
  apply dropForms_append_cons prefixFree_blankForms hb hne

theorem trimRight_concat_append (hb : ∀ form ∈ blankForms.map List.reverse, b ∉ form.tail)
    (hne : trimRight t ≠ []) (start : Text) :
    trimRight (start ++ [b] ++ t) = start ++ [b] ++ trimRight t := by
  unfold trimRight at hne ⊢
  rw [ne_eq, List.reverse_eq_nil_iff] at hne
  rw [List.reverse_append, List.reverse_concat,
    dropForms_append_cons prefixFree_reversedBlankForms hb hne]
  simp

theorem not_mem_tail_of_cons_mem {f : Text} (h : b :: f ∈ blankForms) :
    ∀ form ∈ blankForms, b ∉ form.tail := by
  have hall : (blankForms.all fun f => f.head?.all fun b =>
      blankForms.all fun form => decide (b ∉ form.tail)) = true := by
    decide +kernel
  have hfirst := List.all_eq_true.mp hall _ h
  simpa using hfirst

theorem trimLeft_append_right (hu : IsWhiteSpace u) (hne : trimLeft t ≠ []) :
    trimLeft (t ++ u) = trimLeft t ++ u := by
  -- White space that is added at the end stays apart from what is left of a text.
  obtain ⟨fs, hfs, rfl⟩ := isWhiteSpace_iff.mp hu
  cases fs with
  | nil => simp
  | cons f fs =>
    rw [List.forall_mem_cons] at hfs
    cases f with
    | nil => exact absurd rfl (prefixFree_blankForms.ne_nil [] hfs.1)
    | cons b f =>
      rw [List.flatten_cons, List.cons_append]
      apply trimLeft_append_cons _ hne
      exact not_mem_tail_of_cons_mem hfs.1

theorem trim_append_whiteSpace (hs : IsWhiteSpace s) (hu : IsWhiteSpace u) (t : Text) :
    trim (s ++ t ++ u) = trim t := by
  unfold trim
  rw [List.append_assoc, trimLeft_append_left hs]
  by_cases ht : trimLeft t = []
  . have hwhite := (trimLeft_eq_nil_iff.mp ht).append hu
    rw [trimLeft_eq_nil_iff.mpr hwhite, ht]
  . rw [trimLeft_append_right hu ht, trimRight_append_right hu]

theorem exists_eq_append_trimLeft (t : Text) : ∃ u, IsWhiteSpace u ∧ t = u ++ trimLeft t := by
  obtain ⟨fs, hfs, ht⟩ := exists_eq_flatten_append_dropForms prefixFree_blankForms t
  exact ⟨fs.flatten, isWhiteSpace_iff.mpr ⟨fs, hfs, rfl⟩, ht⟩

theorem exists_eq_trimRight_append (t : Text) : ∃ u, IsWhiteSpace u ∧ t = trimRight t ++ u := by
  obtain ⟨fs, hfs, ht⟩ :=
    exists_eq_flatten_append_dropForms prefixFree_reversedBlankForms t.reverse
  refine ⟨fs.flatten.reverse, ?_, ?_⟩
  . rw [isWhiteSpace_iff_reverse]
    exact ⟨fs, hfs, List.reverse_reverse _⟩
  . unfold trimRight
    rw [← List.reverse_append, ← ht, List.reverse_reverse]

theorem trim_eq_nil_iff : trim t = [] ↔ IsWhiteSpace t := by
  constructor
  . intro hnil
    obtain ⟨s, hs, ht⟩ := exists_eq_append_trimLeft t
    obtain ⟨u, hu, hleft⟩ := exists_eq_trimRight_append (trimLeft t)
    rw [← trim, hnil, List.nil_append] at hleft
    rw [ht, hleft]
    exact hs.append hu
  . intro hwhite
    rw [trim, trimLeft_eq_nil_iff.mpr hwhite]
    rfl

def StartsBlank (t : Text) : Prop :=
  ∃ c ∈ blankChars, String.utf8EncodeChar c <+: t

def EndsBlank (t : Text) : Prop :=
  ∃ c ∈ blankChars, String.utf8EncodeChar c <:+ t

theorem IsWhiteSpace.startsBlank (h : IsWhiteSpace t) (hne : t ≠ []) : StartsBlank t := by
  obtain ⟨cs, hcs, rfl⟩ := h
  cases cs with
  | nil => exact absurd rfl hne
  | cons c cs =>
    rw [List.forall_mem_cons] at hcs
    exact ⟨c, hcs.1, List.prefix_append _ _⟩

theorem not_startsBlank_iff : ¬ StartsBlank t ↔ leadingForm blankForms t = 0 := by
  rw [leadingForm_eq_zero_iff prefixFree_blankForms]
  simp [StartsBlank, blankForms]

theorem not_endsBlank_iff :
    ¬ EndsBlank t ↔ leadingForm (blankForms.map List.reverse) t.reverse = 0 := by
  rw [leadingForm_eq_zero_iff prefixFree_reversedBlankForms]
  simp [EndsBlank, blankForms]

theorem trimLeft_eq_self (h : ¬ StartsBlank t) : trimLeft t = t := by
  apply dropForms_eq_self
  exact not_startsBlank_iff.mp h

theorem trimRight_eq_self (h : ¬ EndsBlank t) : trimRight t = t := by
  unfold trimRight
  rw [dropForms_eq_self (not_endsBlank_iff.mp h), List.reverse_reverse]

section Visible

variable (hb : ∀ form ∈ blankForms, b ∉ form)

include hb

theorem IsWhiteSpace.not_mem (h : IsWhiteSpace t) : b ∉ t := by
  obtain ⟨fs, hfs, rfl⟩ := isWhiteSpace_iff.mp h
  intro hmem
  obtain ⟨f, hf, hmem⟩ := List.mem_flatten.mp hmem
  exact hb f (hfs f hf) hmem

theorem not_startsBlank_cons (t : Text) : ¬ StartsBlank (b :: t) := by
  rintro ⟨c, hc, hstart⟩
  have hform : String.utf8EncodeChar c ∈ blankForms := List.mem_map_of_mem hc
  cases hbytes : String.utf8EncodeChar c with
  | nil => exact prefixFree_blankForms.ne_nil _ hform hbytes
  | cons a form =>
    rw [hbytes] at hstart hform
    apply hb _ hform
    rw [(List.cons_prefix_cons.mp hstart).1]
    apply List.mem_cons_self

theorem not_endsBlank_concat (t : Text) : ¬ EndsBlank (t ++ [b]) := by
  rintro ⟨c, hc, start, hend⟩
  have hform : String.utf8EncodeChar c ∈ blankForms := List.mem_map_of_mem hc
  cases hbytes : String.utf8EncodeChar c using List.reverseRecOn with
  | nil => exact prefixFree_blankForms.ne_nil _ hform hbytes
  | append_singleton form a =>
    rw [hbytes, ← List.append_assoc] at hend
    rw [hbytes] at hform
    apply hb _ hform
    rw [(List.append_inj' hend rfl).2]
    apply List.mem_append_right
    apply List.mem_singleton_self

theorem exists_trimLeft_append_cons (s t : Text) : ∃ kept, trimLeft (s ++ b :: t) = kept ++ b :: t := by
  by_cases hs : trimLeft s = []
  . refine ⟨[], ?_⟩
    rw [trimLeft_append_left (trimLeft_eq_nil_iff.mp hs)]
    apply trimLeft_eq_self
    exact not_startsBlank_cons hb t
  . refine ⟨trimLeft s, ?_⟩
    apply trimLeft_append_cons _ hs
    intro form hform hmem
    exact hb form hform (List.mem_of_mem_tail hmem)

theorem exists_trim_append_cons (hu : IsWhiteSpace u) (s : Text) :
    ∃ kept, trim (s ++ b :: u) = kept ++ [b] := by
  obtain ⟨kept, hkept⟩ := exists_trimLeft_append_cons hb s u
  refine ⟨kept, ?_⟩
  rw [trim, hkept, List.append_cons, trimRight_append_right hu]
  apply trimRight_eq_self
  exact not_endsBlank_concat hb kept

end Visible

theorem not_startsBlank_trim (t : Text) : ¬ StartsBlank (trim t) := by
  rintro ⟨c, hc, hstart⟩
  have hleft : ¬ StartsBlank (trimLeft t) := by
    rw [not_startsBlank_iff]
    exact leadingForm_dropForms prefixFree_blankForms t
  obtain ⟨u, -, hu⟩ := exists_eq_trimRight_append (trimLeft t)
  apply hleft
  refine ⟨c, hc, ?_⟩
  rw [hu]
  exact hstart.trans (List.prefix_append _ u)

theorem not_endsBlank_trim (t : Text) : ¬ EndsBlank (trim t) := by
  unfold trim trimRight
  rw [not_endsBlank_iff, List.reverse_reverse]
  exact leadingForm_dropForms prefixFree_reversedBlankForms _

theorem trim_trim (t : Text) : trim (trim t) = trim t := by
  have hleft := trimLeft_eq_self (not_startsBlank_trim t)
  have hright := trimRight_eq_self (not_endsBlank_trim t)
  rw [trim, hleft, hright]

end Text

end Commentary
