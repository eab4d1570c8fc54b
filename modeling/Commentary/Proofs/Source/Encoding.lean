import Commentary.Proofs.Source.Rules
import Commentary.Proofs.Text.Encoding

/-!
This module contains that the token of a well-formed line has a well-formed text. The vocabulary may be
any bytes: its words are only compared with the line, and where one of them is cut off, an ASCII byte
follows it.
-/

namespace Commentary

namespace Source

open Text (Utf8)

variable {line : Text}

theorem utf8_unframe {t : Text} (h : Utf8 t) : Utf8 (unframe t) := by
  apply Text.utf8_trim
  apply Text.utf8_dropEndWhile _ h
  intro b hb
  rw [of_decide_eq_true hb]
  decide

theorem utf8_variantName (h : Utf8 line) : Utf8 (variantName line) := by
  apply Text.utf8_trim
  apply Text.utf8_takeWhile _ h
  intro b hb
  simp only [Bool.not_eq_false', Bool.or_eq_true, decide_eq_true_eq] at hb
  rcases hb with (rfl | rfl) | rfl
  all_goals decide

theorem utf8_functionName {rest : Text} (h : Utf8 rest) : Utf8 (functionName rest) := by
  unfold functionName
  cases hword : Text.firstWord? rest with
  | none => exact Text.utf8_nil
  | some word =>
    apply Text.utf8_takeWhile _ (Text.utf8_firstWord? h hword)
    intro b hb
    simp only [Bool.not_eq_false', Bool.or_eq_true, decide_eq_true_eq] at hb
    rcases hb with rfl | rfl
    all_goals decide

theorem utf8_classifyEnum (v : Vocabulary) (h : Utf8 line) : Utf8 (classifyEnum v line).text := by
  replace h := Text.utf8_trim h
  have hrule := enumRule_classifyEnum v line
  generalize classifyEnum v line = token at hrule
  cases hrule with
  | scopeStart | scopeEnd | blank => exact Text.utf8_nil
  | heading htitle =>
    apply utf8_unframe
    exact Text.utf8_after? (Text.utf8_ofString _) h htitle
  | doc =>
    apply Text.utf8_trim
    apply Text.utf8_dropWhile _ h
    intro b hb
    simp only [Bool.or_eq_true, decide_eq_true_eq] at hb
    rcases hb with rfl | rfl
    all_goals decide
  | declaration => exact utf8_variantName h
  | plain => exact h

theorem utf8_commentText (hstart : line.startsWith "-- " = true) (h : Utf8 line) :
    Utf8 (commentText line) := by
  obtain ⟨rest, rfl⟩ := Text.startsWith_iff.mp hstart
  have hrest : Utf8 rest := h.of_append_left (Text.utf8_ofString _)
  have hdrop : List.drop 3 (Text.ofString "-- " ++ rest) = rest := rfl
  unfold commentText
  rw [hdrop]
  dsimp only
  split
  . exact (Text.utf8_lf.append (utf8_unframe hrest)).append Text.utf8_lf
  . exact hrest

theorem utf8_classifyConfig {v : Vocabulary} {token : Token} (h : Utf8 line)
    (htoken : classifyConfig v line = some token) : Utf8 token.text := by
  cases configRule_of_classifyConfig htoken with
  | skip => exact Text.utf8_nil
  | heading hentry hstart =>
    have hmark := startsWith_of_mem_targetHeadings hentry hstart
    exact utf8_commentText (startsWith_comment_of_mark hmark) h
  | statement hrule =>
    cases hrule with
    | doc hstart => exact utf8_commentText hstart h
    | blank | empty => exact Text.utf8_nil
    | declaration _ hword => exact Text.utf8_firstWord? h hword
    | plain => exact h

theorem utf8_classifyFunction (v : Vocabulary) (h : Utf8 line) :
    Utf8 (classifyFunction v line).text := by
  have hrule := functionRule_classifyFunction v line
  generalize classifyFunction v line = token at hrule
  cases hrule with
  | doc htext =>
    apply Text.utf8_dropSymbol
    exact Text.utf8_after? (Text.utf8_ofString _) h htext
  | @declaration rest hrest =>
    -- the keyword need not be well-formed, but the space after it stands at a boundary
    rw [Text.after?_eq_some_iff, List.append_assoc] at hrest
    rw [hrest] at h
    have hspace : Text.AtBoundary (Text.ofString " " ++ rest) :=
      Text.atBoundary_append (Text.utf8_ofString _) (by decide) rest
    apply utf8_functionName
    exact (h.of_append hspace).2.of_append_left (Text.utf8_ofString _)
  | plain => exact h

end Source

end Commentary
