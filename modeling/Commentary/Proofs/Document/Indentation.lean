import Commentary.Proofs.Document.Messages
import Commentary.Proofs.Text.Trim

/-!
This module contains that the layout of an annotated enumeration does not matter: lines may be indented
and may be followed by white space, of any kind and each in its own way.
-/

namespace Commentary

namespace Text

def Padded (line padded : Text) : Prop :=
  ∃ before after, IsWhiteSpace before ∧ IsWhiteSpace after ∧ padded = before ++ line ++ after

end Text

open Text (Padded)

theorem Source.classifyEnum_of_padded {line padded : Text} (v : Vocabulary) (h : Padded line padded) :
    classifyEnum v padded = classifyEnum v line := by
  obtain ⟨before, after, hbefore, hafter, rfl⟩ := h
  unfold classifyEnum
  rw [Text.trim_append_whiteSpace hbefore hafter]

namespace Messages

variable {v : Vocabulary} {lines padded : List Text}

theorem extract_eq_of_map_classifyEnum_eq
    (h : padded.map (Source.classifyEnum v) = lines.map (Source.classifyEnum v)) :
    extract v padded = extract v lines := by
  obtain ⟨hfound, hread⟩ := extractFrom_outside v padded
  obtain ⟨hfound', hread'⟩ := extractFrom_outside v lines
  unfold extract
  dsimp only
  rw [hfound, hfound', hread, hread', h]

/--
White space around the lines changes neither the document nor how many lines are read for it.
-/
theorem extract_ignores_padding (v : Vocabulary) (lines padded : List Text)
    (h : List.Forall₂ Padded lines padded) : extract v padded = extract v lines := by
  apply extract_eq_of_map_classifyEnum_eq
  induction h with
  | nil => rfl
  | cons hline _ ih => rw [List.map_cons, List.map_cons, Source.classifyEnum_of_padded v hline, ih]

def brokenOffLines : List Text :=
  ["pub enum ExternalMsg \x7b", "/// ### A", Text.ofString "/// x" ++ [0xE2, 0x80], "X,", "\x7d", "Y,"]

def brokenOffPadded : List Text :=
  ["\tpub enum ExternalMsg \x7b\u00a0", "  /// ### A\r",
   Text.ofString "\u3000/// x" ++ [0xE2, 0x80] ++ Text.ofString "\u0085 ", "X,\u2003", "\n\x7d\t\t",
   "Y,"]

theorem brokenOffPadded_ignores_padding :
    List.Forall₂ Padded brokenOffLines brokenOffPadded
      ∧ extract {} brokenOffPadded =
          ({ categories :=
              [{ title := "A"
                 sections :=
                   [{ title := "X", body := [Text.ofString "x" ++ [0xE2, 0x80]] }, {}] }] }, 5) := by
  have hpadded : List.Forall₂ Padded brokenOffLines brokenOffPadded := by
    have hwhite : ∀ s : String, s.toList.all isBlankChar = true →
        Text.IsWhiteSpace (Text.ofString s) := by
      intro s hs
      refine ⟨s.toList, ?_, rfl⟩
      simpa [isBlankChar] using hs
    refine .cons ⟨"\t", "\u00a0", hwhite _ ?_, hwhite _ ?_, ?_⟩
      (.cons ⟨"  ", "\r", hwhite _ ?_, hwhite _ ?_, ?_⟩
      (.cons ⟨"\u3000", "\u0085 ", hwhite _ ?_, hwhite _ ?_, ?_⟩
      (.cons ⟨"", "\u2003", hwhite _ ?_, hwhite _ ?_, ?_⟩
      (.cons ⟨"\n", "\t\t", hwhite _ ?_, hwhite _ ?_, ?_⟩
      (.cons ⟨"", "", hwhite _ ?_, hwhite _ ?_, ?_⟩ .nil)))))
    all_goals decide +kernel
  refine ⟨hpadded, ?_⟩
  rw [extract_ignores_padding {} brokenOffLines brokenOffPadded hpadded]
  decide +kernel

end Messages

end Commentary
