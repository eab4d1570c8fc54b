import Commentary.Proofs.Generate.Cause
import Commentary.Proofs.Generate.Pages
import Commentary.Proofs.Page.Functions
import Commentary.Proofs.Text.Lines

/-!
This module contains how pages end. A page of messages or of a configuration document ends with exactly
one line feed. The page of functions ends as the last line of documentation does, so it may end with
none or with several.
-/

namespace Commentary

namespace Text

variable {before last : Text}

def EndsInOneLF (t : Text) : Prop :=
  t.getLast? = some lf ∧ t.dropLast.getLast? ≠ some lf

instance (t : Text) : Decidable (EndsInOneLF t) :=
  inferInstanceAs (Decidable (_ ∧ _))

def Ended (t : Text) : Prop :=
  t = [] ∨ t.getLast? = some lf

theorem ended_append_lf (t : Text) : Ended (t ++ [lf]) := by
  right
  apply List.getLast?_concat

theorem Ended.append {s t : Text} (hs : Ended s) (ht : Ended t) : Ended (s ++ t) := by
  rcases ht with rfl | ht
  . rwa [List.append_nil]
  . right
    rw [List.getLast?_append, ht]
    rfl

theorem ended_flatMap {f : α → Text} (hf : ∀ a, Ended (f a)) (as : List α) : Ended (as.flatMap f) := by
  induction as with
  | nil => exact .inl rfl
  | cons a as ih =>
    rw [List.flatMap_cons]
    exact (hf a).append ih

theorem flatMap_eq_nil_iff {f : α → Text} (hf : ∀ a, f a ≠ []) {as : List α} :
    as.flatMap f = [] ↔ as = [] := by
  cases as with
  | nil => simp
  | cons a as => simp [hf]

theorem endsInOneLF_append_lf (t : Text) : EndsInOneLF (t ++ [lf]) ↔ t.getLast? ≠ some lf := by
  unfold EndsInOneLF
  rw [List.getLast?_concat, List.dropLast_concat]
  simp

theorem endsInOneLF_append_line (hbefore : Ended before) (hlast : lf ∉ last) :
    EndsInOneLF (before ++ last ++ [lf]) ↔ last ≠ [] ∨ before = [] := by
  rw [endsInOneLF_append_lf]
  by_cases hempty : last = []
  . rcases hbefore with hbefore | hbefore
    . simp [hempty, hbefore]
    . have hne : before ≠ [] := by
        intro hnil
        simp [hnil] at hbefore
      simp [hempty, hbefore, hne]
  . rw [List.getLast?_append_of_ne_nil before hempty]
    simp only [ne_eq, hempty, not_false_eq_true, true_or, iff_true]
    intro hlf
    exact hlast (List.mem_of_getLast? hlf)

end Text

namespace Page

variable {headingStart : Text} {d : FunctionDocs}

theorem endsInOneLF_withFinalNewline (t : Text) : Text.EndsInOneLF (withFinalNewline t) := by
  unfold withFinalNewline
  rw [Text.endsInOneLF_append_lf]
  obtain ⟨-, -, -, hempty | ⟨start, b, hstop, hb⟩⟩ :=
    Text.exists_eq_dropEndWhile_append (· = Text.lf) t
  . rw [hempty]
    simp
  . rw [hstop, List.getLast?_concat]
    simpa using hb

theorem ended_functionEntry (f : FunctionDoc) : Text.Ended (functionEntry headingStart f) := by
  apply Text.ended_append_lf

theorem ended_functions (d : FunctionDocs) : Text.Ended (functions headingStart d) := by
  unfold functions
  apply (Text.ended_flatMap ended_functionEntry _).append
  split
  . apply Text.ended_append_lf
  . exact .inl rfl

theorem exists_functions_eq (headingStart : Text) {last : Text} (hdocs : ∀ f ∈ d.functions, f.doc ≠ [])
    (horphan : d.orphan ≠ some [])
    (hlast : (d.functions.flatMap FunctionDoc.doc ++ d.orphan.getD []).getLast? = some last) :
    ∃ before, functions headingStart d = before ++ last ++ [Text.lf] ∧ Text.Ended before
      ∧ (before = [] ↔ d.functions = [] ∧ d.orphan = some [last]) := by
  unfold functions
  cases hd : d.orphan with
  | some doc =>
    rw [hd] at horphan hlast
    rw [Option.getD_some, List.getLast?_append_of_ne_nil _ (by simpa using horphan)] at hlast
    obtain ⟨closed, rfl⟩ := List.getLast?_eq_some_iff.mp hlast
    refine ⟨d.functions.flatMap (functionEntry headingStart) ++ closed.flatMap (· ++ [Text.lf]),
      ?_, ?_, ?_⟩
    . dsimp only
      rw [Text.join_append_singleton]
      simp
    . exact (Text.ended_flatMap ended_functionEntry _).append
        (Text.ended_flatMap Text.ended_append_lf _)
    . rw [List.append_eq_nil_iff, Text.flatMap_eq_nil_iff (by simp [functionEntry]),
        Text.flatMap_eq_nil_iff (by simp)]
      simp
  | none =>
    rw [hd] at hlast
    cases hfunctions : d.functions using List.reverseRecOn with
    | nil => simp [hfunctions] at hlast
    | append_singleton fs f =>
      rw [hfunctions] at hdocs hlast
      have hdoc : f.doc ≠ [] := hdocs f (by simp)
      simp only [List.flatMap_append, List.flatMap_singleton, Option.getD_none, List.append_nil] at hlast
      rw [List.getLast?_append_of_ne_nil _ hdoc] at hlast
      obtain ⟨closed, hclosed⟩ := List.getLast?_eq_some_iff.mp hlast
      refine ⟨fs.flatMap (functionEntry headingStart) ++
        (Text.ofString "\n### " ++ headingStart ++ f.name ++ Text.ofString "\n" ++ [Text.lf])
          ++ closed.flatMap (· ++ [Text.lf]), ?_, ?_, ?_⟩
      . have hgap : Text.ofString "\n\n" = Text.ofString "\n" ++ [Text.lf] := by
          decide
        simp only [List.flatMap_append, List.flatMap_singleton, functionEntry]
        rw [hclosed, Text.join_append_singleton, hgap]
        simp
      . exact ((Text.ended_flatMap ended_functionEntry _).append
          (Text.ended_append_lf _)).append (Text.ended_flatMap Text.ended_append_lf _)
      . simp

theorem endsInOneLF_functions_extract_iff (v : Vocabulary) (text : Text) :
    Text.EndsInOneLF (functions headingStart (FunctionDocs.extract v text.lines))
      ↔ ∃ last, (FunctionDocs.docLines text.lines).getLast? = some last
        ∧ (last ≠ [] ∨ FunctionDocs.extract v text.lines = { orphan := some [[]] }) := by
  have hlines := FunctionDocs.flatMap_doc_extract v text.lines
  obtain ⟨hfunctions, horphan⟩ := FunctionDocs.lf_not_mem_extract v text
  have hlf : ∀ line ∈ FunctionDocs.docLines text.lines, Text.lf ∉ line := by
    rw [← hlines]
    simp only [List.forall_mem_append, List.forall_mem_flatMap]
    exact ⟨fun f hf => (hfunctions f hf).2, horphan⟩
  cases hlast : (FunctionDocs.docLines text.lines).getLast? with
  | none =>
    rw [List.getLast?_eq_none_iff, FunctionDocs.docLines_eq_nil_iff v, ← functions_eq_nil_iff] at hlast
    rw [hlast]
    simp [Text.EndsInOneLF]
  | some last =>
    have hdocs : ∀ f ∈ (FunctionDocs.extract v text.lines).functions, f.doc ≠ [] :=
      fun f => FunctionDocs.doc_ne_nil_of_mem_extract
    rw [← hlines] at hlast
    obtain ⟨before, hpage, hended, hbefore⟩ := exists_functions_eq headingStart hdocs
      (FunctionDocs.orphan_extract_ne_nil v text.lines) hlast
    rw [hpage, Text.endsInOneLF_append_line hended (hlf last ?_), hbefore]
    . have hdocs : FunctionDocs.extract v text.lines = { orphan := some [[]] }
          ↔ (FunctionDocs.extract v text.lines).functions = []
            ∧ (FunctionDocs.extract v text.lines).orphan = some [[]] := by
        rw [FunctionDocs.mk.injEq]
      by_cases hempty : last = []
      . simp [hempty, hdocs]
      . simp [hempty]
    . rw [← hlines]
      exact List.mem_of_getLast? hlast

end Page

namespace Generate

variable {engine : Template.Engine} {m : Manifest} {fs : FileSystem} {text content : Text}

theorem endsInOneLF_of_page? {layout : Text} {document : Messages}
    (h : Template.page? layout document engine = some content) : content.EndsInOneLF := by
  obtain ⟨t, -, rfl⟩ := Option.map_eq_some_iff.mp h
  apply Page.endsInOneLF_withFinalNewline

theorem endsInOneLF_of_messagesContent {e : MessagesEntry}
    (h : messagesContent engine m e fs text = .ok content) : content.EndsInOneLF := by
  by_cases htemplate : e.template = []
  . unfold messagesContent at h
    dsimp only at h
    rw [if_pos htemplate] at h
    rw [← Except.ok.inj h]
    apply Page.endsInOneLF_withFinalNewline
  . cases hlayout : fs.readFile (m.path e.template) with
    | error fault =>
      rw [messagesContent_of_readFile_eq_error htemplate hlayout] at h
      cases h
    | ok layout =>
      rw [messagesContent_of_readFile_eq_ok htemplate hlayout] at h
      split at h
      . next hpage =>
        cases h
        exact endsInOneLF_of_page? hpage
      . cases h

/--
The pages of messages and of configuration documents end with exactly one line feed, whatever an engine
writes in the layout of a template. The page of functions is empty if the source has no line of
documentation, and ends with a line feed otherwise. That is the only one at its end if the last line of
documentation is not empty, or is all there is on the page.
-/
theorem endsInOneLF_of_renderSource (engine : Template.Engine) (m : Manifest) (fs : FileSystem)
    (name text : Text) (pages : List Page) (h : renderSource m fs name text engine = .ok pages) :
    ∀ page ∈ pages,
      (page.pass ≠ .functions → page.content.EndsInOneLF)
        ∧ (page.pass = .functions →
            (page.content = [] ↔ FunctionDocs.docLines text.lines = [])
              ∧ page.content.Ended
              ∧ (page.content.EndsInOneLF
                ↔ ∃ last, (FunctionDocs.docLines text.lines).getLast? = some last
                  ∧ (last ≠ []
                    ∨ FunctionDocs.extract m.vocabulary text.lines = { orphan := some [[]] }))) := by
  obtain ⟨pass, -, hpages⟩ := renderSource_eq_ok_iff.mp h
  cases pass with
  | messages =>
    obtain ⟨e, content, -, hcontent, rfl⟩ := pagesOf_messages_eq_ok_iff.mp hpages
    simp only [List.forall_mem_singleton]
    refine ⟨fun _ => endsInOneLF_of_messagesContent hcontent, ?_⟩
    intro hpass
    cases hpass
  | configuration =>
    obtain ⟨e, docs, -, -, rfl⟩ := pagesOf_configuration_eq_ok_iff.mp hpages
    simp only [List.forall_mem_map]
    intro t ht
    refine ⟨fun _ => Page.endsInOneLF_withFinalNewline _, ?_⟩
    intro hpass
    cases hpass
  | functions =>
    obtain ⟨e, -, rfl⟩ := pagesOf_functions_eq_ok_iff.mp hpages
    simp only [List.forall_mem_singleton]
    refine ⟨fun hpass => absurd rfl hpass, fun _ => ⟨?_, ?_, ?_⟩⟩
    . rw [Page.functions_eq_nil_iff, FunctionDocs.docLines_eq_nil_iff m.vocabulary]
    . apply Page.ended_functions
    . apply Page.endsInOneLF_functions_extract_iff

def blankEndedSource : Text :=
  "/// a\n///\npub fn f() \x7b\x7d\n"

def blankEndedPage : Page where
  pass := .functions
  name := "functions"
  path := "f.md"
  content := "\n### f\n\na\n\n"

theorem renderSource_blankEndedSource :
    renderSource functionsOnly {} "functions" blankEndedSource = .ok [blankEndedPage] := by
  decide +kernel

theorem endsInOneLF_blankEndedPage_iff :
    renderSource functionsOnly {} "functions" blankEndedSource = .ok [blankEndedPage]
      ∧ blankEndedPage.content.Ended
      ∧ (blankEndedPage.content.EndsInOneLF
        ↔ ∃ last, (FunctionDocs.docLines blankEndedSource.lines).getLast? = some last
          ∧ (last ≠ []
            ∨ FunctionDocs.extract functionsOnly.vocabulary blankEndedSource.lines =
                { orphan := some [[]] })) := by
  have h := endsInOneLF_of_renderSource Template.standard functionsOnly {} "functions" blankEndedSource
    [blankEndedPage] renderSource_blankEndedSource blankEndedPage
    (List.mem_singleton_self blankEndedPage)
  exact ⟨renderSource_blankEndedSource, (h.2 rfl).2⟩

theorem exists_page_not_endsInOneLF :
    ¬ ∀ (m : Manifest) (fs : FileSystem) (name text : Text) (pages : List Page),
      renderSource m fs name text = .ok pages → ∀ page ∈ pages, page.content.EndsInOneLF := by
  intro h
  have hpage := h functionsOnly {} "functions" blankEndedSource [blankEndedPage]
    renderSource_blankEndedSource blankEndedPage (List.mem_singleton_self blankEndedPage)
  exact absurd hpage (by decide +kernel)

end Generate

end Commentary
