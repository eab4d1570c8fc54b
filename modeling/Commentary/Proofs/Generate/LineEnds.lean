import Commentary.Proofs.Generate.Pages
import Commentary.Proofs.Text.Lines

/-!
This module contains that the pages of a source do not depend on how its lines end. A source is read
line by line, so it is enough that its lines are the same.
-/

namespace Commentary

namespace Generate

variable {engine other : Template.Engine} {m : Manifest} {fs : FileSystem} {a b : Text}

theorem pagesOf_congr (h : a.lines = b.lines) (pass : Pass) :
    pagesOf engine m fs a pass = pagesOf engine m fs b pass := by
  cases pass with
  | messages =>
    unfold pagesOf messagesPages messagesContent
    rw [h]
  | configuration =>
    unfold pagesOf configurationPages
    rw [h]
  | functions =>
    unfold pagesOf functionsPages
    rw [h]

theorem renderSource_congr {pass : Text} (hlayout : SameLayout m fs pass engine other)
    (h : a.lines = b.lines) : renderSource m fs pass a engine = renderSource m fs pass b other := by
  unfold renderSource
  cases hparse : Pass.parse pass with
  | error e => simp only [bind, Except.bind]
  | ok p =>
    have hname := Pass.parse_eq_ok_iff.mp hparse
    simp only [bind, Except.bind, pagesOf_congr h, hlayout.pagesOf_eq hname]

/--
Lines are found again in the text that either kind of line end makes of them, with a line end after the
last one, and also without if the last one is not empty. So a source without carriage returns gives the
same pages, or fails in the same way, with a carriage return before every line feed, and with the line
feed that its last line lacks. This presupposes that the layout of a template, if there is one, does not
show the addresses of the one rendering or of the other.
-/
theorem renderSource_ignores_line_ends :
    (∀ ls : List Text, ls ≠ [] → (∀ l ∈ ls, Text.lf ∉ l ∧ l.getLast? ≠ some Text.cr) →
      Text.lines (Text.joinLF ls ++ [Text.lf]) = ls
        ∧ Text.lines (Text.joinCRLF ls ++ [Text.cr, Text.lf]) = ls
        ∧ (ls.getLast? ≠ some [] →
            Text.lines (Text.joinLF ls) = ls ∧ Text.lines (Text.joinCRLF ls) = ls))
      ∧ ∀ (m : Manifest) (fs : FileSystem) (engine other : Template.Engine) (pass text : Text),
          SameLayout m fs pass engine other → Text.cr ∉ text →
          renderSource m fs pass (Text.withCRLF text) engine = renderSource m fs pass text other
            ∧ (text ≠ [] → text.getLast? ≠ some Text.lf →
                renderSource m fs pass (text ++ [Text.lf]) engine =
                  renderSource m fs pass text other) := by
  constructor
  . intro ls hne h
    obtain ⟨hlf, hcrlf⟩ := Text.lines_terminated h hne
    refine ⟨hlf, hcrlf, ?_⟩
    intro hlast
    exact Text.lines_unterminated h hlast hne
  . intro m fs engine other pass text hlayout hcr
    refine ⟨renderSource_congr hlayout (Text.lines_withCRLF hcr), ?_⟩
    intro hne hlast
    exact renderSource_congr hlayout (Text.lines_append_lf hcr hne hlast)

def modesOnly : Manifest where
  configuration := some { source := "init.lua", outputs := { modes := "modes.md" } }

def openEndedScript : Text :=
  "-- ### Modes \n--\n\n-- x"

def openEndedPage : Page where
  pass := .configuration
  name := "configuration/modes"
  path := "modes.md"
  content := "### Modes \n\n\nx\n"

theorem openEndedScript_renders_alike :
    Text.cr ∉ openEndedScript
      ∧ openEndedScript.getLast? ≠ some Text.lf
      ∧ SameLayout modesOnly {} "configuration" (Template.write? 1) (Template.write? 2)
      ∧ renderSource modesOnly {} "configuration" (Text.withCRLF openEndedScript) (Template.write? 1) =
          .ok [openEndedPage]
      ∧ renderSource modesOnly {} "configuration" (openEndedScript ++ [Text.lf]) (Template.write? 1) =
          .ok [openEndedPage]
      ∧ Text.lines (Text.joinCRLF [[], Text.ofString "a\rb", []] ++ [Text.cr, Text.lf]) =
          [[], Text.ofString "a\rb", []] := by
  have hcr : Text.cr ∉ openEndedScript := by
    decide +kernel
  have hlast : openEndedScript.getLast? ≠ some Text.lf := by
    decide +kernel
  have hlayout : SameLayout modesOnly {} "configuration" (Template.write? 1) (Template.write? 2) := by
    intro _ e layout hentry
    cases hentry
  have hpages : renderSource modesOnly {} "configuration" openEndedScript (Template.write? 2) =
      .ok [openEndedPage] := by
    decide +kernel
  obtain ⟨hlines, hrender⟩ := renderSource_ignores_line_ends
  obtain ⟨hcrlf, hlf⟩ := hrender modesOnly {} _ _ "configuration" openEndedScript hlayout hcr
  refine ⟨hcr, hlast, hlayout, ?_, ?_, ?_⟩
  . rw [hcrlf, hpages]
  . rw [hlf (by decide +kernel) hlast, hpages]
  . exact (hlines [[], Text.ofString "a\rb", []] (by simp) (by decide +kernel)).2.1

end Generate

end Commentary
