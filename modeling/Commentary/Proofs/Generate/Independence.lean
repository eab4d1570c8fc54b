import Commentary.Proofs.Generate.Pages
import Mathlib.Data.List.Basic

/-!
This module contains what the pages of a pass depend on. All passes share one vocabulary, which is put
together from the entries of all of them, but the classification of lines in each mode uses only the
word that the pass's own entry gives.
-/

namespace Commentary

variable {v w : Vocabulary}

namespace Source

theorem classifyEnum_congr (h : v.enumName = w.enumName) : classifyEnum v = classifyEnum w := by
  have hopener : scopeOpener v = scopeOpener w := by
    unfold scopeOpener Vocabulary.filled
    rw [h]
  funext line
  unfold classifyEnum
  rw [hopener]

theorem classifyConfig_congr (h : v.namespaceStart = w.namespaceStart) :
    classifyConfig v = classifyConfig w := by
  have hstart : v.filled.namespaceStart = w.filled.namespaceStart := by
    unfold Vocabulary.filled
    rw [h]
  funext line
  unfold classifyConfig classifyConfigWith classifyStatement
  rw [hstart]

theorem classifyFunction_congr (h : v.functionKeyword = w.functionKeyword) :
    classifyFunction v = classifyFunction w := by
  have hkeyword : v.filled.functionKeyword = w.filled.functionKeyword := by
    unfold Vocabulary.filled
    rw [h]
  funext line
  unfold classifyFunction
  rw [hkeyword]

end Source

theorem Messages.extractFrom_congr (h : v.enumName = w.enumName) (p : Progress) (lines : List Text) :
    extractFrom v p lines = extractFrom w p lines := by
  induction lines generalizing p with
  | nil => rfl
  | cons line lines ih =>
    rw [extractFrom, extractFrom, Source.classifyEnum_congr h]
    split
    . rfl
    . rw [ih]

theorem Messages.extract_congr (h : v.enumName = w.enumName) (lines : List Text) :
    extract v lines = extract w lines := by
  unfold extract
  rw [extractFrom_congr h]

theorem ConfigDocs.extractFrom_congr (h : v.namespaceStart = w.namespaceStart) (s : Progress)
    (lines : List Text) : extractFrom v s lines = extractFrom w s lines := by
  induction lines generalizing s with
  | nil => rfl
  | cons line lines ih =>
    rw [extractFrom, extractFrom, Source.classifyConfig_congr h]
    split
    . rfl
    . rw [ih]

theorem ConfigDocs.extract_congr (h : v.namespaceStart = w.namespaceStart) (lines : List Text) :
    extract v lines = extract w lines := by
  unfold extract
  rw [extractFrom_congr h]

theorem FunctionDocs.extract_congr (h : v.functionKeyword = w.functionKeyword) (lines : List Text) :
    extract v lines = extract w lines := by
  unfold extract
  rw [Source.classifyFunction_congr h]

variable {m n : Manifest}

def Manifest.AgreeOn (m n : Manifest) : Pass → Prop
  | .messages => m.messages = n.messages
  | .configuration => m.configuration = n.configuration
  | .functions => m.functions = n.functions

theorem Manifest.path_congr (h : m.root = n.root) : m.path = n.path := by
  funext p
  unfold path
  rw [h]

def Page.shown (p : Page) : Text × Text :=
  (p.name, p.content)

namespace Generate

variable {engine other : Template.Engine} {fs : FileSystem} {text : Text}

theorem pagesOf_messages_congr (hroot : m.root = n.root) (h : m.messages = n.messages) :
    pagesOf engine m fs text .messages = pagesOf engine n fs text .messages := by
  have hname : m.vocabulary.enumName = n.vocabulary.enumName := by
    unfold Manifest.vocabulary
    rw [h]
  unfold pagesOf messagesPages messagesContent
  rw [h, Manifest.path_congr hroot, Messages.extract_congr hname]

theorem extract_configuration_congr (h : m.configuration = n.configuration) (lines : List Text) :
    ConfigDocs.extract m.vocabulary lines = ConfigDocs.extract n.vocabulary lines := by
  apply ConfigDocs.extract_congr
  unfold Manifest.vocabulary
  rw [h]

theorem extract_functions_congr (h : m.functions = n.functions) (lines : List Text) :
    FunctionDocs.extract m.vocabulary lines = FunctionDocs.extract n.vocabulary lines := by
  apply FunctionDocs.extract_congr
  unfold Manifest.vocabulary
  rw [h]

theorem pagesOf_congr_of_agreeOn {pass : Pass} (hroot : m.root = n.root) (h : m.AgreeOn n pass) :
    pagesOf engine m fs text pass = pagesOf engine n fs text pass := by
  cases pass with
  | messages => exact pagesOf_messages_congr hroot h
  | configuration =>
    replace h : m.configuration = n.configuration := h
    unfold pagesOf configurationPages
    rw [extract_configuration_congr h, h, Manifest.path_congr hroot]
  | functions =>
    replace h : m.functions = n.functions := h
    unfold pagesOf functionsPages
    rw [extract_functions_congr h, h, Manifest.path_congr hroot]

theorem shown_pagesOf_congr {pass : Pass} (hpass : pass ≠ .messages) (h : m.AgreeOn n pass) :
    (pagesOf engine m fs text pass).map (List.map Page.shown) =
      (pagesOf other n fs text pass).map (List.map Page.shown) := by
  cases pass with
  | messages => exact absurd rfl hpass
  | configuration =>
    replace h : m.configuration = n.configuration := h
    unfold pagesOf configurationPages
    rw [extract_configuration_congr h, h]
    cases n.configuration with
    | none => rfl
    | some e =>
      dsimp only
      cases ConfigDocs.extract n.vocabulary text.lines with
      | none => rfl
      | some docs =>
        change Except.ok _ = Except.ok _
        rw [List.map_map, List.map_map]
        rfl
  | functions =>
    replace h : m.functions = n.functions := h
    unfold pagesOf functionsPages
    rw [extract_functions_congr h, h]
    cases n.functions with
    | none => rfl
    | some e => rfl

/--
Manifests with the same root and the same entry for a pass give the same pages of that pass, or the same
error, whatever else they hold, unless a layout shows the addresses of the rendering. The pages of
configuration documents and of functions show the same with any other root too.
-/
theorem renderSource_reads_own_entry (m n : Manifest) (fs : FileSystem) (engine other : Template.Engine)
    (text : Text) (pass : Pass) (h : m.AgreeOn n pass) :
    (m.root = n.root → SameLayout m fs pass.name engine other →
        renderSource m fs pass.name text engine = renderSource n fs pass.name text other)
      ∧ (pass ≠ .messages →
          (renderSource m fs pass.name text engine).map (List.map Page.shown) =
            (renderSource n fs pass.name text other).map (List.map Page.shown)) := by
  rw [renderSource_name, renderSource_name]
  constructor
  . intro hroot hlayout
    rw [← pagesOf_congr_of_agreeOn hroot h]
    exact hlayout.pagesOf_eq pass.ofName?_name text
  . intro hpass
    exact shown_pagesOf_congr hpass h

def crowded : Manifest where
  messages := some { source := "m.rs", output := "m.md", enumName := "-- ### Modes " }
  configuration := some { source := "init.lua", outputs := { modes := "modes.md" } }
  functions := some { source := "f.rs", output := "f.md", keyword := "-- text" }
  root := "a"
  formatter := ["fmt"]

def configurationOnly (root : Text) : Manifest where
  configuration := crowded.configuration
  root := root

def namedScript : Text :=
  "-- ### Modes \n-- text\nxplr.b = 1\n"

def namedPage : Page where
  pass := .configuration
  name := "configuration/modes"
  path := "a/modes.md"
  content := "\n#### xplr.b\n\n### Modes \ntext\n"

theorem crowded_reads_own_entry :
    crowded.AgreeOn (configurationOnly "a") .configuration
      ∧ crowded.root = (configurationOnly "a").root
      ∧ SameLayout crowded {} Pass.configuration.name (Template.write? 1) (Template.write? 2)
      ∧ renderSource crowded {} Pass.configuration.name namedScript (Template.write? 1) = .ok [namedPage]
      ∧ renderSource (configurationOnly "a") {} Pass.configuration.name namedScript (Template.write? 2) =
          .ok [namedPage]
      ∧ (renderSource (configurationOnly "b") {} Pass.configuration.name namedScript
          (Template.write? 2)).map (List.map Page.shown) = .ok [namedPage.shown] := by
  have hpages : renderSource crowded {} Pass.configuration.name namedScript (Template.write? 1) =
      .ok [namedPage] := by
    decide +kernel
  have hlayout : SameLayout crowded {} Pass.configuration.name (Template.write? 1) (Template.write? 2) := by
    intro hname
    cases hname
  obtain ⟨hsame, -⟩ := renderSource_reads_own_entry crowded (configurationOnly "a") {}
    (Template.write? 1) (Template.write? 2) namedScript .configuration rfl
  obtain ⟨-, hshown⟩ := renderSource_reads_own_entry crowded (configurationOnly "b") {}
    (Template.write? 1) (Template.write? 2) namedScript .configuration rfl
  refine ⟨rfl, rfl, hlayout, hpages, ?_, ?_⟩
  . rw [← hsame rfl hlayout, hpages]
  . rw [← hshown (by decide), hpages]
    rfl

end Generate

end Commentary
