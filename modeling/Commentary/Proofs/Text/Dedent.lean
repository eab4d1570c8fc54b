import Commentary.Proofs.Source.Excerpt
import Commentary.Proofs.Text.Lines
import Commentary.Proofs.Text.Trim
import Mathlib.Data.List.Forall2

/-!
This module contains what is left of the lines of an indented text. Beginnings of texts are compared, so
that a common beginning is described by the texts that it begins with: the indentation that is removed
is the longest one there is. Nothing is left to be removed after that.
-/

namespace Commentary

namespace Text

variable {q s t line indent : Text} {lines : List Text}

def IsIndent (t : Text) : Prop :=
  ∀ b ∈ t, b = ' '.toUInt8 ∨ b = '\t'.toUInt8

theorem isPrefix_commonStart_iff : q <+: commonStart s t ↔ q <+: s ∧ q <+: t := by
  fun_induction commonStart s t generalizing q with
  | case1 a s t ih =>
    cases q with
    | nil => simp
    | cons b q =>
      simp only [List.cons_prefix_cons, ih]
      tauto
  | case2 a s b t hne =>
    cases q with
    | nil => simp
    | cons c q =>
      simp only [List.cons_prefix_cons, List.prefix_nil, reduceCtorEq, false_iff]
      rintro ⟨⟨rfl, -⟩, rfl, -⟩
      exact hne rfl
  | case3 s t hempty =>
    cases s with
    | nil =>
      rw [List.prefix_nil]
      exact ⟨fun hq => by simp [hq], fun hq => hq.1⟩
    | cons a s =>
      cases t with
      | nil =>
        rw [List.prefix_nil]
        exact ⟨fun hq => by simp [hq], fun hq => hq.2⟩
      | cons b t => exact absurd rfl (hempty a s b t rfl)

theorem isPrefix_foldl_commonStart_iff {first : Text} {others : List Text} :
    q <+: others.foldl commonStart first ↔ ∀ t ∈ first :: others, q <+: t := by
  induction others generalizing first with
  | nil => simp
  | cons second others ih =>
    rw [List.foldl_cons, ih]
    simp only [List.forall_mem_cons, isPrefix_commonStart_iff, and_assoc]

theorem isPrefix_indentation_iff : q <+: indentation line ↔ IsIndent q ∧ q <+: line := by
  unfold indentation IsIndent
  induction line generalizing q with
  | nil =>
    rw [List.takeWhile_nil, List.prefix_nil]
    exact ⟨fun hq => by simp [hq], fun hq => hq.2⟩
  | cons a line ih =>
    cases q with
    | nil => simp
    | cons b q =>
      by_cases ha : a = ' '.toUInt8 ∨ a = '\t'.toUInt8
      . rw [List.takeWhile_cons_of_pos (by simpa using ha)]
        simp only [List.cons_prefix_cons, List.forall_mem_cons, ih]
        constructor
        . rintro ⟨rfl, hq, hprefix⟩
          exact ⟨⟨ha, hq⟩, rfl, hprefix⟩
        . rintro ⟨⟨-, hq⟩, rfl, hprefix⟩
          exact ⟨rfl, hq, hprefix⟩
      . rw [List.takeWhile_cons_of_neg (by simpa using ha)]
        simp only [List.cons_prefix_cons, List.forall_mem_cons, List.prefix_nil, reduceCtorEq, false_iff]
        rintro ⟨⟨hb, -⟩, rfl, -⟩
        exact ha hb

theorem isBlank_iff : isBlank t = true ↔ IsWhiteSpace t := by
  rw [← trimLeft_eq_nil_iff, isBlank, decide_eq_true_iff]

theorem isPrefix_commonIndentation_iff (h : ∃ line ∈ lines, ¬ IsWhiteSpace line) :
    q <+: commonIndentation lines
      ↔ IsIndent q ∧ ∀ line ∈ lines, ¬ IsWhiteSpace line → q <+: line := by
  have hfilter : ∀ line, line ∈ lines.filter (fun line => !isBlank line)
      ↔ line ∈ lines ∧ ¬ IsWhiteSpace line := by
    intro line
    simp [isBlank_iff, ← Bool.not_eq_true]
  unfold commonIndentation
  cases hkept : lines.filter fun line => !isBlank line with
  | nil =>
    obtain ⟨line, hline⟩ := h
    rw [← hfilter, hkept] at hline
    cases hline
  | cons first others =>
    simp only [List.map_cons]
    rw [isPrefix_foldl_commonStart_iff, ← List.map_cons, List.forall_mem_map, ← hkept]
    simp only [hfilter, isPrefix_indentation_iff, and_imp]
    constructor
    . intro hall
      obtain ⟨line, hline, hne⟩ := h
      exact ⟨(hall line hline hne).1, fun line hline hne => (hall line hline hne).2⟩
    . rintro ⟨hq, hall⟩ line hline hne
      exact ⟨hq, hall line hline hne⟩

theorem commonIndentation_eq_nil (h : ∀ line ∈ lines, IsWhiteSpace line) :
    commonIndentation lines = [] := by
  have hnone : lines.filter (fun line => !isBlank line) = [] := by
    rw [List.filter_eq_nil_iff]
    intro line hline
    simpa using isBlank_iff.mpr (h line hline)
  unfold commonIndentation
  rw [hnone]
  rfl

theorem isIndent_commonIndentation (lines : List Text) : IsIndent (commonIndentation lines) := by
  by_cases h : ∃ line ∈ lines, ¬ IsWhiteSpace line
  . exact ((isPrefix_commonIndentation_iff h).mp List.prefix_rfl).1
  . push Not at h
    rw [commonIndentation_eq_nil h]
    simp [IsIndent]

theorem commonIndentation_isPrefix (hline : line ∈ lines) (hne : ¬ IsWhiteSpace line) :
    commonIndentation lines <+: line := by
  apply ((isPrefix_commonIndentation_iff ⟨line, hline, hne⟩).mp List.prefix_rfl).2 line hline hne

theorem IsIndent.isWhiteSpace (h : IsIndent t) : IsWhiteSpace t := by
  induction t with
  | nil => exact isWhiteSpace_nil
  | cons b t ih =>
    rw [IsIndent, List.forall_mem_cons] at h
    have hb : IsWhiteSpace [b] := by
      rcases h.1 with rfl | rfl
      . exact ⟨[' '], by simp [blankChars], by decide⟩
      . exact ⟨['\t'], by simp [blankChars], by decide⟩
    exact hb.append (ih h.2)

def unindent (indent line : Text) : Text :=
  if isBlank line then [] else (after? indent line).getD line

theorem unindent_of_isWhiteSpace (h : IsWhiteSpace line) : unindent indent line = [] := by
  unfold unindent
  rw [if_pos (isBlank_iff.mpr h)]

theorem eq_append_unindent (hne : ¬ IsWhiteSpace line) (hindent : indent <+: line) :
    line = indent ++ unindent indent line := by
  obtain ⟨rest, rfl⟩ := hindent
  unfold unindent
  rw [if_neg (mt isBlank_iff.mp hne), after?_eq_some_iff.mpr rfl, Option.getD_some]

theorem not_isWhiteSpace_unindent (h : IsIndent indent) (hne : ¬ IsWhiteSpace line)
    (hindent : indent <+: line) : ¬ IsWhiteSpace (unindent indent line) := by
  intro hblank
  apply hne
  rw [eq_append_unindent hne hindent]
  exact h.isWhiteSpace.append hblank

theorem unindent_nil (h : IsWhiteSpace line → line = []) : unindent [] line = line := by
  by_cases hblank : IsWhiteSpace line
  . rw [unindent_of_isWhiteSpace hblank, h hblank]
  . exact (eq_append_unindent hblank List.nil_prefix).symm

theorem lf_not_mem_unindent (h : lf ∉ line) : lf ∉ unindent indent line := by
  unfold unindent
  split
  . simp
  . cases hrest : after? indent line with
    | none => exact h
    | some rest =>
      rw [after?_eq_some_iff] at hrest
      rw [hrest, List.mem_append, not_or] at h
      exact h.2

def unwrap (t : Text) : Text :=
  let t := if t.head? = some lf then t.tail else t
  if t.getLast? = some lf then t.dropLast else t

theorem unwrap_eq_self (hfirst : t.head? ≠ some lf) (hlast : t.getLast? ≠ some lf) : unwrap t = t := by
  unfold unwrap
  dsimp only
  rw [if_neg hfirst, if_neg hlast]

theorem dedent_eq (t : Text) :
    dedent t =
      join [lf] ((split lf (unwrap t)).map (unindent (commonIndentation (split lf (unwrap t))))) := by
  have hunwrap : chop lf ((after? [lf] t).getD t) = unwrap t := by
    unfold chop unwrap
    cases t with
    | nil => rfl
    | cons b t =>
      by_cases hb : b = lf
      . subst hb
        rfl
      . simp [after?, hb, Ne.symm hb]
  unfold dedent
  rw [← hunwrap]
  rfl

theorem split_dedent (t : Text) :
    split lf (dedent t) =
      (split lf (unwrap t)).map (unindent (commonIndentation (split lf (unwrap t)))) := by
  rw [dedent_eq, split_join]
  . rw [List.forall_mem_map]
    intro line hline
    exact lf_not_mem_unindent (not_mem_of_mem_split hline)
  . simpa using split_ne_nil lf (unwrap t)

theorem eq_nil_of_mem_split_dedent (h : line ∈ split lf (dedent t)) (hblank : IsWhiteSpace line) :
    line = [] := by
  rw [split_dedent] at h
  obtain ⟨before, hbefore, rfl⟩ := List.mem_map.mp h
  by_cases hwhite : IsWhiteSpace before
  . exact unindent_of_isWhiteSpace hwhite
  . exact absurd hblank (not_isWhiteSpace_unindent (isIndent_commonIndentation _) hwhite
      (commonIndentation_isPrefix hbefore hwhite))

theorem eq_nil_of_forall_isPrefix (hsome : ∃ line ∈ split lf (unwrap t), ¬ IsWhiteSpace line)
    (hq : IsIndent q) (hall : ∀ line ∈ split lf (dedent t), ¬ IsWhiteSpace line → q <+: line) :
    q = [] := by
  rw [split_dedent, List.forall_mem_map] at hall
  generalize split lf (unwrap t) = lines at *
  -- the shared indentation together with `q` would be shared as well
  have hlonger : commonIndentation lines ++ q <+: commonIndentation lines := by
    rw [isPrefix_commonIndentation_iff hsome]
    constructor
    . rw [IsIndent, List.forall_mem_append]
      exact ⟨isIndent_commonIndentation lines, hq⟩
    . intro line hline hne
      have hindent := commonIndentation_isPrefix hline hne
      rw [eq_append_unindent hne hindent, List.prefix_append_right_inj]
      apply hall line hline
      exact not_isWhiteSpace_unindent (isIndent_commonIndentation lines) hne hindent
  have hlength := hlonger.length_le
  rw [List.length_append] at hlength
  rw [← List.length_eq_zero_iff]
  omega

theorem commonIndentation_split_dedent (t : Text) : commonIndentation (split lf (dedent t)) = [] := by
  by_cases hsome : ∃ line ∈ split lf (dedent t), ¬ IsWhiteSpace line
  . obtain ⟨hindent, hall⟩ := (isPrefix_commonIndentation_iff hsome).mp List.prefix_rfl
    refine eq_nil_of_forall_isPrefix (t := t) ?_ hindent hall
    obtain ⟨line, hline, hne⟩ := hsome
    rw [split_dedent] at hline
    obtain ⟨before, hbefore, rfl⟩ := List.mem_map.mp hline
    refine ⟨before, hbefore, ?_⟩
    intro hblank
    rw [unindent_of_isWhiteSpace hblank] at hne
    exact hne isWhiteSpace_nil
  . push Not at hsome
    exact commonIndentation_eq_nil hsome

/--
The lines of a text, without the line feeds around it, lose the longest text of spaces and tabs that all
of them begin with, blank lines apart, which become empty. No line is added or lost. A text that has been
treated so is not changed by the same again, unless it has a line feed at one of its ends.
-/
theorem dedent_removes_longest_indentation (s : Text) :
    (∃ indent : Text, IsIndent indent
      ∧ (split lf (dedent s)).length = (split lf (unwrap s)).length
      ∧ List.Forall₂
          (fun before after =>
            (IsWhiteSpace before → after = []) ∧ (¬ IsWhiteSpace before → before = indent ++ after))
          (split lf (unwrap s)) (split lf (dedent s))
      ∧ ((∃ line ∈ split lf (unwrap s), ¬ IsWhiteSpace line) →
          ∀ q, IsIndent q → (∀ line ∈ split lf (dedent s), ¬ IsWhiteSpace line → q <+: line) → q = []))
      ∧ ((dedent s).head? ≠ some lf → (dedent s).getLast? ≠ some lf →
          dedent (dedent s) = dedent s) := by
  constructor
  . refine ⟨commonIndentation (split lf (unwrap s)), isIndent_commonIndentation _, ?_, ?_, ?_⟩
    . rw [split_dedent, List.length_map]
    . rw [split_dedent, List.forall₂_map_right_iff, List.forall₂_same]
      intro line hline
      refine ⟨unindent_of_isWhiteSpace, ?_⟩
      intro hne
      exact eq_append_unindent hne (commonIndentation_isPrefix hline hne)
    . intro hsome q hq hall
      exact eq_nil_of_forall_isPrefix hsome hq hall
  . intro hfirst hlast
    have hsame : ∀ line ∈ split lf (dedent s), unindent [] line = id line := by
      intro line hline
      exact unindent_nil (eq_nil_of_mem_split_dedent hline)
    rw [dedent_eq (dedent s), unwrap_eq_self hfirst hlast, commonIndentation_split_dedent,
      List.map_congr_left hsame, List.map_id, join_split]

example : dedent "\n\t\ta\n \n\t b\n" = Text.ofString "\ta\n\n b" := by
  decide +kernel

end Text

end Commentary
