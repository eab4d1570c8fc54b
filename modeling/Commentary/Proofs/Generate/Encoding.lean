import Commentary.Proofs.Document.Texts
import Commentary.Proofs.Generate.Pages
import Commentary.Proofs.Page.Slug
import Commentary.Proofs.Source.Encoding

/-!
This module contains that the pages of a well-formed source are well-formed: the tokens of its lines are,
so the documents made of them are, and a page puts nothing else between their texts than well-formed
text.
-/

namespace Commentary

open Text (Utf8)

theorem utf8_slug (title : Text) : Utf8 (slug title) := by
  rw [slug_eq]
  exact ⟨_, rfl⟩

theorem ConfigDocs.utf8_subHeading {name : Text} (h : Utf8 name) : Utf8 (subHeading name) := by
  unfold subHeading
  apply Utf8.append _ Text.utf8_lf
  apply Utf8.append _ h
  exact Text.utf8_lf.append (Text.utf8_ofString _)

namespace Page

theorem utf8_withFinalNewline {t : Text} (h : Utf8 t) : Utf8 (withFinalNewline t) := by
  unfold withFinalNewline
  apply Utf8.append _ Text.utf8_lf
  apply Text.utf8_dropEndWhile _ h
  intro b hb
  rw [of_decide_eq_true hb]
  decide

theorem utf8_contentsLine {c : Category} (h : Utf8 c.title) : Utf8 (contentsLine c) := by
  unfold contentsLine
  apply Utf8.append _ (Text.utf8_ofString _)
  apply Utf8.append _ (utf8_slug _)
  apply Utf8.append _ (Text.utf8_ofString _)
  exact (Text.utf8_ofString _).append h

theorem utf8_sectionLines {s : Section} (h : s.AllTexts Utf8) :
    ∀ line ∈ sectionLines s, Utf8 line := by
  unfold sectionLines
  rw [List.forall_mem_append, List.forall_mem_append, List.forall_mem_cons,
    List.forall_mem_singleton]
  exact ⟨⟨⟨(Text.utf8_ofString _).append h.1, Text.utf8_nil⟩, h.2⟩, Text.utf8_nil⟩

theorem utf8_categoryLines {c : Category} (h : c.AllTexts Utf8) :
    ∀ line ∈ categoryLines c, Utf8 line := by
  unfold categoryLines
  rw [List.forall_mem_append, List.forall_mem_cons, List.forall_mem_singleton,
    List.forall_mem_flatMap]
  refine ⟨⟨(Text.utf8_ofString _).append h.1, Text.utf8_nil⟩, ?_⟩
  intro s hs
  exact utf8_sectionLines (h.2 s (List.mem_filter.mp hs).1)

theorem utf8_messages {m : Messages} (h : m.AllTexts Utf8) : Utf8 (messages m) := by
  have hcontents : Utf8 (contents m) := by
    apply Text.utf8_join Text.utf8_lf
    rw [List.forall_mem_map]
    intro c hc
    exact utf8_contentsLine (h c hc).1
  have hbody : Utf8 (messageBody m) := by
    apply Text.utf8_join Text.utf8_lf
    rw [List.forall_mem_flatMap]
    intro c hc
    exact utf8_categoryLines (h c hc)
  unfold messages
  apply utf8_withFinalNewline
  apply Utf8.append _ (Text.utf8_ofString _)
  apply Utf8.append _ hbody
  apply Utf8.append _ (Text.utf8_ofString _)
  exact (Text.utf8_ofString _).append hcontents

theorem utf8_paragraphs {p : Paragraphs} (h : ∀ paragraph ∈ p, ∀ line ∈ paragraph, Utf8 line) :
    Utf8 (paragraphs p) := by
  unfold paragraphs
  apply utf8_withFinalNewline
  apply Text.utf8_join (Text.utf8_ofString _)
  rw [List.forall_mem_map]
  intro paragraph hparagraph
  apply Text.utf8_join Text.utf8_lf
  exact h paragraph (List.mem_filter.mp hparagraph).1

theorem utf8_functionEntry {headingStart : Text} {f : FunctionDoc} (hstart : Utf8 headingStart)
    (hname : Utf8 f.name) (hdoc : ∀ line ∈ f.doc, Utf8 line) : Utf8 (functionEntry headingStart f) := by
  unfold functionEntry
  apply Utf8.append _ Text.utf8_lf
  apply Utf8.append _ (Text.utf8_join Text.utf8_lf hdoc)
  apply Utf8.append _ (Text.utf8_ofString _)
  apply Utf8.append _ hname
  exact (Text.utf8_ofString _).append hstart

theorem utf8_functions {headingStart : Text} {d : FunctionDocs} (hstart : Utf8 headingStart)
    (h : d.AllTexts Utf8) : Utf8 (functions headingStart d) := by
  obtain ⟨hfunctions, horphan⟩ := h
  unfold functions
  apply Utf8.append
  . apply Text.utf8_flatMap
    intro f hf
    exact utf8_functionEntry hstart (hfunctions f hf).1 (hfunctions f hf).2
  . cases hdoc : d.orphan with
    | none => exact Text.utf8_nil
    | some doc =>
      rw [hdoc] at horphan
      exact (Text.utf8_join Text.utf8_lf horphan).append Text.utf8_lf

end Page

namespace Generate

/--
The pages of a source that is well-formed UTF-8 are so too, in the standard layout and with a well-formed
beginning of the functions' headings. The words of the manifest that lines are compared with may be any
bytes.
-/
theorem renderSource_keeps_utf8 (engine : Template.Engine) (m : Manifest) (fs : FileSystem)
    (name text : Text) (pages : List Page) (htext : text.isUtf8 = true)
    (hlayout : ∀ e ∈ m.messages, e.template = [])
    (hstart : ∀ e ∈ m.functions, e.headingStart.isUtf8 = true)
    (h : renderSource m fs name text engine = .ok pages) : ∀ page ∈ pages, page.content.isUtf8 = true := by
  simp only [Text.isUtf8_iff] at htext hstart ⊢
  have hlines := Text.utf8_of_mem_lines htext
  obtain ⟨pass, -, hpages⟩ := renderSource_eq_ok_iff.mp h
  cases pass with
  | messages =>
    obtain ⟨e, content, hentry, hcontent, rfl⟩ := pagesOf_messages_eq_ok_iff.mp hpages
    unfold messagesContent at hcontent
    dsimp only at hcontent
    rw [if_pos (hlayout e hentry)] at hcontent
    rw [List.forall_mem_singleton, ← Except.ok.inj hcontent]
    apply Page.utf8_messages
    apply Messages.allTexts_extract _ Text.utf8_nil
    intro line hline
    exact Source.utf8_classifyEnum m.vocabulary (hlines line hline)
  | configuration =>
    obtain ⟨e, docs, -, hdocs, rfl⟩ := pagesOf_configuration_eq_ok_iff.mp hpages
    rw [List.forall_mem_map]
    intro t _
    apply Page.utf8_paragraphs
    apply ConfigDocs.allTexts_extract _ Text.utf8_nil _ hdocs
    . intro line hline token htoken
      exact Source.utf8_classifyConfig (hlines line hline) htoken
    . intro name hname
      exact ConfigDocs.utf8_subHeading hname
  | functions =>
    obtain ⟨e, hentry, rfl⟩ := pagesOf_functions_eq_ok_iff.mp hpages
    rw [List.forall_mem_singleton]
    apply Page.utf8_functions (hstart e hentry)
    apply FunctionDocs.allTexts_extract
    intro line hline
    exact Source.utf8_classifyFunction m.vocabulary (hlines line hline)

def halfCharacter : Manifest where
  messages := some { source := "m.rs", output := "m.md", enumName := [0xff] }
  configuration := some
    { source := "init.lua", namespaceStart := [0xE2, 0x80], outputs := { modes := "modes.md" } }
  functions := some { source := "f.rs", output := "f.md", headingStart := "\u00e9.", keyword := [0xC3] }

def halfCharacterScript : Text :=
  "-- ### Modes \n-- \u00fc\n\u2003n\u00e9 = 1\n"

def halfCharacterPage : Page where
  pass := .configuration
  name := "configuration/modes"
  path := "modes.md"
  content := "\n#### n\u00e9\n\n### Modes \n\u00fc\n"

theorem halfCharacterScript_keeps_utf8 :
    halfCharacterScript.isUtf8 = true
      ∧ (halfCharacter.vocabulary.namespaceStart.isUtf8 = false)
      ∧ (∀ e ∈ halfCharacter.messages, e.template = [])
      ∧ (∀ e ∈ halfCharacter.functions, e.headingStart.isUtf8 = true)
      ∧ renderSource halfCharacter {} "configuration" halfCharacterScript = .ok [halfCharacterPage]
      ∧ halfCharacterPage.content.isUtf8 = true := by
  have htext : halfCharacterScript.isUtf8 = true := by
    decide +kernel
  have hlayout : ∀ e ∈ halfCharacter.messages, e.template = [] := by
    rintro e ⟨⟩
    rfl
  have hstart : ∀ e ∈ halfCharacter.functions, e.headingStart.isUtf8 = true := by
    rintro e ⟨⟩
    decide +kernel
  have hpages : renderSource halfCharacter {} "configuration" halfCharacterScript =
      .ok [halfCharacterPage] := by
    decide +kernel
  have hutf8 := renderSource_keeps_utf8 Template.standard halfCharacter {} "configuration"
    halfCharacterScript [halfCharacterPage] htext hlayout hstart hpages
  exact ⟨htext, by decide +kernel, hlayout, hstart, hpages,
    hutf8 halfCharacterPage (List.mem_singleton_self halfCharacterPage)⟩

end Generate

end Commentary
