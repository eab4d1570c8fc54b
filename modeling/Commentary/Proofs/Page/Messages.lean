import Commentary.Page.Render
import Commentary.Proofs.Document.Texts
import Commentary.Proofs.Text.LowerCase

/-!
This module contains the lines of the page of an enumeration. A page is written as one text; since the
texts of an extracted document and the anchors of its titles hold no line feed, the lines of the page
are those it was put together from.
-/

namespace Commentary

theorem lf_not_mem_slug {title : Text} (h : Text.lf ∉ title) : Text.lf ∉ slug title := by
  intro hlf
  unfold slug at hlf
  obtain ⟨b, hb, hmap⟩ := List.mem_map.mp hlf
  split at hmap
  . exact absurd hmap (by decide)
  . rw [hmap] at hb
    exact h (Text.mem_of_mem_toLower hb (by decide))

namespace Page

variable {m : Messages}

def orBlank (lines : List Text) : List Text :=
  if lines = [] then [[]] else lines

theorem split_join_lf {lines : List Text} (h : ∀ line ∈ lines, Text.lf ∉ line) :
    Text.split Text.lf (Text.join [Text.lf] lines) = orBlank lines := by
  unfold orBlank
  split
  . next hnil =>
    rw [hnil]
    rfl
  . next hne => exact Text.split_join h hne

theorem withFinalNewline_append (t : Text) :
    withFinalNewline (t ++ standardFooter) = t ++ standardFooter ++ [Text.lf] := by
  have hfooter : ∃ start b, standardFooter = start ++ [b] ∧ b ≠ Text.lf := by
    refine ⟨standardFooter.dropLast, 'd'.toUInt8, ?_, ?_⟩
    . decide +kernel
    . decide
  obtain ⟨start, b, hfooter, hb⟩ := hfooter
  unfold withFinalNewline
  rw [hfooter, ← List.append_assoc, Text.dropEndWhile_append_neg]
  simpa using hb

theorem lf_not_mem_contentsLine {c : Category} (h : c.AllTexts (Text.lf ∉ ·)) :
    Text.lf ∉ contentsLine c := by
  unfold contentsLine
  simp only [List.mem_append, not_or]
  refine ⟨⟨⟨⟨?_, h.1⟩, ?_⟩, lf_not_mem_slug h.1⟩, ?_⟩
  all_goals decide

theorem lf_not_mem_sectionLines {s : Section} (h : s.AllTexts (Text.lf ∉ ·)) :
    ∀ line ∈ sectionLines s, Text.lf ∉ line := by
  unfold sectionLines
  simp only [List.forall_mem_append, List.forall_mem_cons]
  simp only [List.mem_append, not_or]
  refine ⟨⟨⟨⟨?_, h.1⟩, ?_⟩, h.2⟩, ?_⟩
  all_goals decide

theorem lf_not_mem_categoryLines {c : Category} (h : c.AllTexts (Text.lf ∉ ·)) :
    ∀ line ∈ categoryLines c, Text.lf ∉ line := by
  unfold categoryLines
  simp only [List.forall_mem_append, List.forall_mem_cons]
  simp only [List.mem_append, not_or]
  refine ⟨⟨⟨?_, h.1⟩, ?_⟩, ?_⟩
  . decide
  . decide
  . intro line hline
    obtain ⟨s, hs, hline⟩ := List.mem_flatMap.mp hline
    exact lf_not_mem_sectionLines (h.2 s (List.mem_filter.mp hs).1) line hline

theorem split_contents (h : m.AllTexts (Text.lf ∉ ·)) :
    Text.split Text.lf (contents m) = orBlank (m.categories.map contentsLine) := by
  apply split_join_lf
  intro line hline
  obtain ⟨c, hc, rfl⟩ := List.mem_map.mp hline
  exact lf_not_mem_contentsLine (h c hc)

theorem split_messageBody (h : m.AllTexts (Text.lf ∉ ·)) :
    Text.split Text.lf (messageBody m) = orBlank (m.categories.flatMap categoryLines) := by
  apply split_join_lf
  intro line hline
  obtain ⟨c, hc, hline⟩ := List.mem_flatMap.mp hline
  exact lf_not_mem_categoryLines (h c hc) line hline

def headerLines : List Text :=
  ["# Full List of Messages", [], "xplr [messages][1] categorized based on their purpose.", [],
   "## Categories", []]

def footerLines : List Text :=
  ["## Also See:", [], "- [Message][1]", [], "[1]: message.md", []]

theorem split_messages (h : m.AllTexts (Text.lf ∉ ·)) :
    Text.split Text.lf (messages m) =
      headerLines ++ orBlank (m.categories.map contentsLine) ++ [[]]
        ++ orBlank (m.categories.flatMap categoryLines) ++ [[]] ++ footerLines := by
  -- The parts of the page meet at line feeds, so each can be cut by itself.
  have hpage : messages m =
      Text.join [Text.lf] headerLines ++ Text.lf :: (contents m ++ Text.lf :: ([] ++ Text.lf ::
        (messageBody m ++ Text.lf :: ([] ++ Text.lf :: Text.join [Text.lf] footerLines)))) := by
    have hheader : standardHeader = Text.join [Text.lf] headerLines ++ [Text.lf] := by
      decide +kernel
    have hfooter : standardFooter ++ [Text.lf] =
        Text.lf :: Text.lf :: Text.join [Text.lf] footerLines := by
      decide +kernel
    have hgap : Text.ofString "\n\n" = [Text.lf, Text.lf] := by
      decide
    unfold messages
    rw [withFinalNewline_append, List.append_assoc _ standardFooter, hheader, hfooter, hgap]
    simp
  rw [hpage]
  simp only [Text.split_append_cons]
  rw [split_contents h, split_messageBody h, Text.split_join (by decide +kernel) (by decide),
    Text.split_join (by decide +kernel) (by decide)]
  simp [Text.split]

/--
The lines of the page of a source. Every title and every line of a titled section stands on a line of
its own, in the order of the source, and nothing of a section without a title is on the page.
-/
theorem split_messages_extract (v : Vocabulary) (text : Text) :
    Text.split Text.lf (messages (Messages.extract v text.lines).1) =
      headerLines
        ++ orBlank ((Messages.extract v text.lines).1.categories.map fun c =>
          Text.ofString "- [" ++ c.title ++ Text.ofString "](#" ++ slug c.title ++ Text.ofString ")")
        ++ [[]]
        ++ orBlank ((Messages.extract v text.lines).1.categories.flatMap fun c =>
          [Text.ofString "### " ++ c.title, []]
            ++ (c.sections.filter (·.title ≠ [])).flatMap fun s =>
              [Text.ofString "#### " ++ s.title, []] ++ s.body ++ [[]])
        ++ [[]]
        ++ footerLines
      ∧ (Messages.extract v text.lines).1.AllTexts (Text.lf ∉ ·) := by
  have hlf := Messages.lf_not_mem_extract v text
  exact ⟨split_messages hlf, hlf⟩

end Page

end Commentary
