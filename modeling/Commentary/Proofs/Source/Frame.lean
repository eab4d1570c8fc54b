import Commentary.Proofs.Source.Access
import Commentary.Proofs.Source.Rules
import Commentary.Proofs.Text.Split
import Commentary.Proofs.Text.Trim

/-!
This module contains what is left of a heading without its frame. First the dashes at the end are removed
and then the white space, each of them once, so a dash stays at the end of a heading whose frame has a
gap.
-/

namespace Commentary

namespace Source

open Text (EndsBlank IsWhiteSpace)

variable {v : Vocabulary} {t line text : Text}

/--
The text ends with dashes among which there is white space.
-/
def GapInFrame (t : Text) : Prop :=
  ∃ title gap frame : Text, t = title ++ ['-'.toUInt8] ++ gap ++ frame
    ∧ gap ≠ [] ∧ IsWhiteSpace gap ∧ ∀ b ∈ frame, b = '-'.toUInt8

theorem dash_not_mem_blankForms : ∀ form ∈ Text.blankForms, '-'.toUInt8 ∉ form := by
  decide +kernel

theorem unframe_append_dashes {frame : Text} (h : ∀ b ∈ frame, b = '-'.toUInt8) (t : Text) :
    unframe (t ++ frame) = unframe t := by
  induction frame using List.reverseRecOn with
  | nil => rw [List.append_nil]
  | append_singleton frame b ih =>
    rw [List.forall_mem_append, List.forall_mem_singleton] at h
    rw [← ih h.1, ← List.append_assoc]
    unfold unframe
    rw [Text.dropEndWhile_append_pos (by simpa using h.2)]

theorem unframe_of_getLast?_ne (h : t.getLast? ≠ some '-'.toUInt8) : unframe t = Text.trim t := by
  unfold unframe
  rw [Text.dropEndWhile_eq_self]
  intro b hb
  rw [decide_eq_false_iff_not]
  rintro rfl
  exact h hb

theorem getLast?_unframe_eq_dash_iff :
    (unframe t).getLast? = some '-'.toUInt8 ↔ GapInFrame t := by
  constructor
  . intro hlast
    obtain ⟨frame, ht, hframe, hstop⟩ :=
      Text.exists_eq_dropEndWhile_append (fun b => decide (b = '-'.toUInt8)) t
    unfold unframe at hlast
    generalize Text.dropEndWhile _ t = inner at hlast ht hstop
    obtain ⟨margin, -, hmargin⟩ := Text.exists_eq_append_trimLeft inner
    obtain ⟨gap, hgap, hkept⟩ := Text.exists_eq_trimRight_append (Text.trimLeft inner)
    obtain ⟨title, htitle⟩ := List.getLast?_eq_some_iff.mp hlast
    rw [← Text.trim, htitle] at hkept
    rw [hkept, ← List.append_assoc, ← List.append_assoc] at hmargin
    subst hmargin
    refine ⟨margin ++ title, gap, frame, ht, ?_, hgap, by simpa using hframe⟩
    -- without a gap the dashes would have been removed up to here
    rintro rfl
    rcases hstop with hnil | ⟨start, b, hstart, hb⟩
    . simp at hnil
    . rw [List.append_nil] at hstart
      have hdash := List.singleton_inj.mp (List.append_inj' hstart rfl).2
      simp [← hdash] at hb
  . rintro ⟨title, gap, frame, rfl, hne, hgap, hframe⟩
    have hlast : (title ++ ['-'.toUInt8] ++ gap).getLast? ≠ some '-'.toUInt8 := by
      rw [List.getLast?_append_of_ne_nil _ hne]
      intro hdash
      exact hgap.not_mem dash_not_mem_blankForms (List.mem_of_getLast? hdash)
    obtain ⟨kept, hkept⟩ := Text.exists_trim_append_cons dash_not_mem_blankForms hgap title
    rw [unframe_append_dashes hframe, unframe_of_getLast?_ne hlast, ← List.append_cons, hkept,
      List.getLast?_concat]

theorem not_endsBlank_unframe (t : Text) : ¬ EndsBlank (unframe t) := by
  apply Text.not_endsBlank_trim

theorem unframe_unframe_iff : unframe (unframe t) = unframe t ↔ ¬ GapInFrame t := by
  rw [← getLast?_unframe_eq_dash_iff]
  constructor
  . intro hself hlast
    obtain ⟨start, hstart⟩ := List.getLast?_eq_some_iff.mp hlast
    -- what is left after another dash is gone is shorter
    have hshort : unframe (unframe t) = unframe start := by
      rw [hstart]
      apply unframe_append_dashes
      simp
    have hlength := (unframe_isInfix start).length_le
    rw [← hshort, hself, hstart, List.length_append, List.length_singleton] at hlength
    omega
  . intro hlast
    rw [unframe_of_getLast?_ne hlast]
    apply Text.trim_trim

theorem exists_title_of_classifyEnum_eq_heading {target : Option Target}
    (h : classifyEnum v line = .heading text target) :
    target = none ∧ ∃ title, Text.after? "/// ### " (Text.trim line) = some title
      ∧ text = unframe title := by
  have hrule := enumRule_classifyEnum v line
  rw [h] at hrule
  cases hrule with
  | heading htitle => exact ⟨rfl, _, htitle, rfl⟩

theorem trim_mark_append (hne : text ≠ []) (hend : ¬ EndsBlank text) :
    Text.trim (Text.ofString "/// ### " ++ text) = Text.ofString "/// ### " ++ text := by
  have hleft : Text.trimLeft (Text.ofString "/// ### " ++ text) = Text.ofString "/// ### " ++ text := by
    apply Text.trimLeft_eq_self
    apply Text.not_startsBlank_cons
    decide +kernel
  have hright := Text.trimRight_eq_self hend
  have hmark : Text.ofString "/// ### " = Text.ofString "/// ###" ++ [' '.toUInt8] := by
    decide
  rw [Text.trim, hleft, hmark, Text.trimRight_concat_append _ (by rwa [hright]), hright]
  decide +kernel

theorem classifyEnum_mark_append (hne : text ≠ []) (hend : ¬ EndsBlank text) :
    classifyEnum v (Text.ofString "/// ### " ++ text) = .heading (unframe text) none := by
  have hopener : ¬ Text.startsWith (Text.ofString "/// ### " ++ text) (scopeOpener v) = true := by
    intro hstart
    obtain ⟨rest, hrest⟩ := Text.startsWith_iff.mp hstart
    have hhead : some '/'.toUInt8 = some 'p'.toUInt8 := congrArg List.head? hrest
    exact absurd hhead (by decide)
  have hcloser : Text.ofString "/// ### " ++ text ≠ Text.ofString "\x7d" := by
    intro hequal
    have hhead : some '/'.toUInt8 = some '\x7d'.toUInt8 := congrArg List.head? hequal
    exact absurd hhead (by decide)
  unfold classifyEnum
  simp only [trim_mark_append hne hend]
  rw [if_neg hopener, if_neg hcloser, Text.after?_append]

theorem exists_classifyConfig_framed (v : Vocabulary) (hstart : line.startsWith "-- #" = true)
    (hend : line.endsWith "--" = true) :
    ∃ token, classifyConfig v line = some token ∧ (token.kind = .doc ∨ token.kind = .heading)
      ∧ token.text = [Text.lf] ++ unframe (line.drop 3) ++ [Text.lf] := by
  have hcomment := commentText_of_framed hstart hend
  rw [classifyConfig, classifyConfigWith_of_mark targetHeadings v hstart]
  cases targetHeadings.find? fun entry => line.startsWith entry.1 with
  | none => exact ⟨_, rfl, .inl rfl, hcomment⟩
  | some entry => exact ⟨_, rfl, .inr rfl, hcomment⟩

/--
A heading never ends with white space. It ends with a dash exactly where its frame has a gap, and exactly
then it is not the heading of a line that has only the mark of a heading before it. In a configuration
script the same holds of the framed headings.
-/
theorem heading_ends_in_dash_iff_gap_in_frame (v : Vocabulary) (line : Text) :
    (∀ (text : Text) (target : Option Target), classifyEnum v line = .heading text target →
      ∃ title, Text.after? "/// ### " (Text.trim line) = some title
        ∧ ¬ EndsBlank text
        ∧ (text.getLast? = some '-'.toUInt8 ↔ GapInFrame title)
        ∧ (text ≠ [] →
            (classifyEnum v (Text.ofString "/// ### " ++ text) = .heading text target
              ↔ ¬ GapInFrame title)))
      ∧ (line.startsWith "-- #" = true → line.endsWith "--" = true →
          ∃ token title, classifyConfig v line = some token
            ∧ (token.kind = .doc ∨ token.kind = .heading)
            ∧ token.text = [Text.lf] ++ title ++ [Text.lf]
            ∧ ¬ EndsBlank title
            ∧ (title.getLast? = some '-'.toUInt8 ↔ GapInFrame (line.drop 3))) := by
  constructor
  . intro text target hheading
    obtain ⟨rfl, title, htitle, rfl⟩ := exists_title_of_classifyEnum_eq_heading hheading
    refine ⟨title, htitle, not_endsBlank_unframe title, getLast?_unframe_eq_dash_iff, ?_⟩
    intro hne
    rw [classifyEnum_mark_append hne (not_endsBlank_unframe title), ← unframe_unframe_iff]
    simp
  . intro hstart hend
    obtain ⟨token, htoken, hkind, htext⟩ := exists_classifyConfig_framed v hstart hend
    exact ⟨token, _, htoken, hkind, htext, not_endsBlank_unframe _, getLast?_unframe_eq_dash_iff⟩

theorem gapInFrame_spaced :
    classifyEnum {} "  /// ### a - -" = .heading "a -" none
      ∧ GapInFrame "a - -"
      ∧ classifyEnum {} "/// ### Exploring ----" = .heading "Exploring" none
      ∧ ¬ GapInFrame "Exploring ----"
      ∧ Text.startsWith "-- # a - --" "-- #" = true
      ∧ Text.endsWith "-- # a - --" "--" = true
      ∧ GapInFrame (List.drop 3 (Text.ofString "-- # a - --")) := by
  have hspaced : classifyEnum {} "  /// ### a - -" = .heading "a -" none := by
    decide +kernel
  have hwhole : classifyEnum {} "/// ### Exploring ----" = .heading "Exploring" none := by
    decide +kernel
  have hstart : Text.startsWith "-- # a - --" "-- #" = true := by
    decide +kernel
  have hend : Text.endsWith "-- # a - --" "--" = true := by
    decide +kernel
  refine ⟨hspaced, ?_, hwhole, ?_, hstart, hend, ?_⟩
  . obtain ⟨title, htitle, -, hgap, -⟩ := (heading_ends_in_dash_iff_gap_in_frame {} _).1 _ _ hspaced
    have hrest : Text.after? "/// ### " (Text.trim "  /// ### a - -") = some (Text.ofString "a - -") := by
      decide +kernel
    rw [hrest, Option.some.injEq] at htitle
    subst htitle
    exact hgap.mp (by decide +kernel)
  . obtain ⟨title, htitle, -, hgap, -⟩ := (heading_ends_in_dash_iff_gap_in_frame {} _).1 _ _ hwhole
    have hrest : Text.after? "/// ### " (Text.trim "/// ### Exploring ----") =
        some (Text.ofString "Exploring ----") := by
      decide +kernel
    rw [hrest, Option.some.injEq] at htitle
    subst htitle
    exact mt hgap.mpr (by decide +kernel)
  . obtain ⟨token, title, htoken, -, htext, -, hgap⟩ :=
      (heading_ends_in_dash_iff_gap_in_frame {} _).2 hstart hend
    have hdoc : classifyConfig {} "-- # a - --" = some (.doc "\n# a -\n") := by
      decide +kernel
    have hsides : Text.ofString "\n# a -\n" = [Text.lf] ++ Text.ofString "# a -" ++ [Text.lf] := by
      decide +kernel
    rw [hdoc, Option.some.injEq] at htoken
    subst htoken
    have htitle : Text.ofString "# a -" = title := by
      simpa [Token.text, hsides] using htext
    subst htitle
    exact hgap.mp (by decide +kernel)

theorem exists_heading_ending_in_dash :
    (∃ v line text target, classifyEnum v line = .heading text target
        ∧ text.getLast? = some '-'.toUInt8
        ∧ text ≠ []
        ∧ classifyEnum v (Text.ofString "/// ### " ++ text) ≠ .heading text target)
      ∧ ∃ v line token title, Text.startsWith line "-- #" = true
          ∧ Text.endsWith line "--" = true
          ∧ classifyConfig v line = some token
          ∧ token.text = [Text.lf] ++ title ++ [Text.lf]
          ∧ title.getLast? = some '-'.toUInt8 := by
  constructor
  . refine ⟨{}, "/// ### a - -", "a -", none, ?_⟩
    decide +kernel
  . refine ⟨{}, "-- # a - --", .doc "\n# a -\n", "# a -", ?_⟩
    decide +kernel

end Source

end Commentary
