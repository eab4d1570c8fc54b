import Commentary.Proofs.Source.Rules
import Mathlib.Data.List.Find
import Mathlib.Data.List.Pairwise

/-!
This module contains the choice of a configuration document by a heading. No line begins like two of the
target headings, so their order does not matter, and the rules for other lines do not apply to any of them,
whatever declarations begin with.
-/

namespace Commentary

namespace Source

variable {line : Text} {headings : List (Text × Target)} {entry : Text × Target}

theorem targetHeadings_disjoint :
    targetHeadings.Pairwise fun first second => ¬ first.1 <+: second.1 ∧ ¬ second.1 <+: first.1 := by
  decide +kernel

theorem pairwise_not_startsWith (line : Text) :
    targetHeadings.Pairwise fun first second =>
      ¬ (line.startsWith first.1 = true ∧ line.startsWith second.1 = true) := by
  apply targetHeadings_disjoint.imp
  rintro first second ⟨hfirst, hsecond⟩ ⟨hline, hline'⟩
  rw [Text.startsWith, List.isPrefixOf_iff_prefix] at hline hline'
  rcases List.prefix_or_prefix_of_prefix hline hline' with hle | hle
  . exact hfirst hle
  . exact hsecond hle

theorem subsingleton_startsWith (line : Text) :
    {entry ∈ targetHeadings | line.startsWith entry.1 = true}.Subsingleton := by
  rintro first ⟨hfirst, hline⟩ second ⟨hsecond, hline'⟩
  have hsymm : Std.Symm fun first second : Text × Target =>
      ¬ (line.startsWith first.1 = true ∧ line.startsWith second.1 = true) := by
    constructor
    intro first second hnot hboth
    exact hnot ⟨hboth.2, hboth.1⟩
  by_contra hne
  exact (pairwise_not_startsWith line).forall hfirst hsecond hne ⟨hline, hline'⟩

theorem find?_perm (line : Text) (h : headings.Perm targetHeadings) :
    headings.find? (fun entry => line.startsWith entry.1) =
      targetHeadings.find? (fun entry => line.startsWith entry.1) := by
  symm
  apply List.find?_eq_find?_of_perm h.symm
  exact subsingleton_startsWith line

theorem classifyConfigWith_perm (v : Vocabulary) (line : Text) (h : headings.Perm targetHeadings) :
    classifyConfigWith headings v line = classifyConfig v line := by
  have hfind : headings.find? _ = targetHeadings.find? _ := find?_perm line h
  unfold classifyConfig classifyConfigWith
  rw [hfind]

theorem find?_of_startsWith (hentry : entry ∈ targetHeadings) (h : line.startsWith entry.1 = true) :
    targetHeadings.find? (fun entry => line.startsWith entry.1) = some entry := by
  cases hfind : targetHeadings.find? fun entry => line.startsWith entry.1 with
  | none => exact absurd h (List.find?_eq_none.mp hfind entry hentry)
  | some found =>
    have hfound := List.mem_of_find?_eq_some hfind
    have hline := List.find?_some hfind
    rw [subsingleton_startsWith line ⟨hfound, hline⟩ ⟨hentry, h⟩]

theorem commentText_of_mark (h : line.startsWith "-- #" = true) :
    commentText line ≠ []
      ∧ ∃ rest, line = Text.ofString "-- " ++ rest
        ∧ commentText line =
          if line.endsWith "--" = true then [Text.lf] ++ unframe rest ++ [Text.lf] else rest := by
  have hdrop : ∃ rest, line = Text.ofString "-- " ++ '#'.toUInt8 :: rest
      ∧ line.drop 3 = '#'.toUInt8 :: rest := by
    obtain ⟨rest, rfl⟩ := Text.startsWith_iff.mp h
    exact ⟨rest, rfl, rfl⟩
  obtain ⟨rest, hline, hdrop⟩ := hdrop
  by_cases hend : line.endsWith "--" = true
  . rw [commentText_of_framed h hend, hdrop]
    refine ⟨by simp, '#'.toUInt8 :: rest, hline, ?_⟩
    rw [if_pos hend]
  . rw [commentText_of_not_framed (fun hframed => hend hframed.2), hdrop]
    refine ⟨by simp, '#'.toUInt8 :: rest, hline, ?_⟩
    rw [if_neg hend]

/--
At most one target heading is the beginning of a line, so they can stand in any order. A line that begins
like one of them selects its document, with the text that it has as an ordinary comment.
-/
theorem target_headings_in_any_order (v : Vocabulary) (line : Text) :
    (targetHeadings.Pairwise fun first second =>
        ¬ (line.startsWith first.1 = true ∧ line.startsWith second.1 = true))
      ∧ (∀ headings : List (Text × Target), headings.Perm targetHeadings →
          classifyConfigWith headings v line = classifyConfig v line)
      ∧ ∀ entry ∈ targetHeadings, line.startsWith entry.1 = true →
          ∃ text rest, line = Text.ofString "-- " ++ rest
            ∧ text = (if line.endsWith "--" = true then [Text.lf] ++ unframe rest ++ [Text.lf] else rest)
            ∧ text ≠ []
            ∧ classifyConfigWith [] v line = some (.doc text)
            ∧ classifyConfig v line = some (.heading text entry.2) := by
  refine ⟨pairwise_not_startsWith line, ?_, ?_⟩
  . intro headings hperm
    exact classifyConfigWith_perm v line hperm
  . intro entry hentry hstart
    have hmark := startsWith_of_mem_targetHeadings hentry hstart
    obtain ⟨hne, rest, hrest, htext⟩ := commentText_of_mark hmark
    refine ⟨commentText line, rest, hrest, htext, hne, ?_, ?_⟩
    . rw [classifyConfigWith_of_mark [] v hmark]
      rfl
    . rw [classifyConfig, classifyConfigWith_of_mark targetHeadings v hmark,
        find?_of_startsWith hentry hstart]
      rfl

def dashedVocabulary : Vocabulary where
  namespaceStart := "-- #"

theorem dashedVocabulary_in_any_order :
    Text.startsWith "-- ### Modes ----" dashedVocabulary.filled.namespaceStart = true
      ∧ Text.startsWith "-- ### Modes ----" "-- ### Modes " = true
      ∧ targetHeadings.reverse.Perm targetHeadings
      ∧ classifyConfigWith targetHeadings.reverse dashedVocabulary "-- ### Modes ----" =
          classifyConfig dashedVocabulary "-- ### Modes ----"
      ∧ ∃ text : Text, text ≠ []
        ∧ classifyConfigWith [] dashedVocabulary "-- ### Modes ----" = some (.doc text)
        ∧ classifyConfig dashedVocabulary "-- ### Modes ----" = some (.heading text (some .modes)) := by
  obtain ⟨-, horder, hheading⟩ := target_headings_in_any_order dashedVocabulary "-- ### Modes ----"
  have hstart : Text.startsWith "-- ### Modes ----" "-- ### Modes " = true := by
    decide +kernel
  have hreverse : targetHeadings.reverse.Perm targetHeadings := List.reverse_perm targetHeadings
  obtain ⟨text, rest, -, -, hne, hdoc, hselects⟩ :=
    hheading ("-- ### Modes ", .modes) (by decide +kernel) hstart
  refine ⟨by decide +kernel, hstart, hreverse, horder _ hreverse, ?_⟩
  exact ⟨text, hne, hdoc, hselects⟩

end Source

end Commentary
