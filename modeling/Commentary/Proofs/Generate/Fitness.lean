import Commentary.Proofs.Document.Routing
import Commentary.Proofs.Generate.Cause
import Commentary.Proofs.Generate.Pages
import Commentary.Proofs.Manifest.Resolution
import Mathlib.Data.List.Nodup

/-!
This module contains what the pages of a manifest that is fit for use are like. Its passes are those that it
has an entry for, and the entry of each of them names an output, so there is a page for every pass, and
only a template can keep it from being rendered.
-/

namespace Commentary

theorem ConfigOutputs.eq_empty_iff {o : ConfigOutputs} : o = {} ↔ ∀ t, o.get t = [] := by
  constructor
  . rintro rfl t
    cases t <;> rfl
  . intro h
    rw [mk.injEq]
    exact ⟨h .overview, h .general, h .nodeTypes, h .layouts, h .modes⟩

theorem ite_some_eq_none_iff {c : Prop} [Decidable c] {a : α} {o : Option α} :
    (if c then some a else o) = none ↔ ¬ c ∧ o = none := by
  split
  . next h => simp [h]
  . next h => simp [h]

theorem not_any_eq_true_iff {o : Option α} {p : α → Bool} :
    ¬ o.any p = true ↔ ∀ a, o = some a → p a = false := by
  cases o with
  | none => simp
  | some a => simp

namespace Manifest

variable {m : Manifest} {p : Text} {pass : Pass}

theorem mem_passes_iff : pass ∈ m.passes ↔ m.configures pass = true := by
  unfold passes
  rw [List.mem_filter]
  exact and_iff_right pass.mem_all

structure Fit (m : Manifest) : Prop where
  passes : m.passes ≠ []
  messages : ∀ e, m.messages = some e → e.source ≠ [] ∧ e.output ≠ []
  configuration : ∀ e, m.configuration = some e → e.source ≠ [] ∧ ∃ t, e.outputs.get t ≠ []
  functions : ∀ e, m.functions = some e → e.source ≠ [] ∧ e.output ≠ []

theorem fault?_eq_none_iff : m.fault? = none ↔ Fit m := by
  unfold fault?
  simp only [ite_some_eq_none_iff, not_any_eq_true_iff, and_true, decide_eq_false_iff_not, not_or,
    ConfigOutputs.eq_empty_iff, not_forall]
  constructor
  . rintro ⟨hpasses, hmessages, hsource, houtput, hfunctions⟩
    exact ⟨hpasses, hmessages, fun e he => ⟨hsource e he, houtput e he⟩, hfunctions⟩
  . intro h
    exact ⟨h.passes, h.messages, fun e he => (h.configuration e he).1,
      fun e he => (h.configuration e he).2, h.functions⟩

theorem path_ne_nil (hp : p ≠ []) : m.path p ≠ [] := by
  unfold path Path.join
  split
  . exact hp
  . split
    . apply Path.clean_ne_nil
    . apply Path.clean_ne_nil

end Manifest

namespace Generate

variable {engine : Template.Engine} {m : Manifest} {fs : FileSystem} {text : Text} {pass : Pass}
  {pages : List Page}

theorem configurationPageName_injective : Function.Injective configurationPageName := by
  intro t u h
  have hall : ∀ t ∈ Target.all, ∀ u ∈ Target.all,
      configurationPageName t = configurationPageName u → t = u := by
    decide +kernel
  exact hall t t.mem_all u u.mem_all h

theorem pagesOf_eq_error_cases {cause : Error} (hpass : m.configures pass = true)
    (h : pagesOf engine m fs text pass = .error cause) :
    (∃ e, pass = .messages ∧ m.messages = some e ∧ messagesContent engine m e fs text = .error cause)
      ∨ (pass = .configuration ∧ ConfigDocs.extract m.vocabulary text.lines = none) := by
  cases pass with
  | messages =>
    obtain ⟨e, hentry⟩ := Option.isSome_iff_exists.mp hpass
    rw [pagesOf_messages hentry, messagesPages_eq_error_iff] at h
    exact .inl ⟨e, rfl, hentry, h⟩
  | configuration =>
    obtain ⟨e, hentry⟩ := Option.isSome_iff_exists.mp hpass
    simp only [pagesOf, hentry, configurationPages] at h
    split at h
    . next hextract => exact .inr ⟨rfl, hextract⟩
    . cases h
  | functions =>
    obtain ⟨e, hentry⟩ := Option.isSome_iff_exists.mp hpass
    simp only [pagesOf, hentry] at h
    cases h

theorem targets_ne_nil {e : ConfigurationEntry} (h : ∃ t, e.outputs.get t ≠ []) :
    ConfigurationEntry.targets e ≠ [] := by
  obtain ⟨t, ht⟩ := h
  apply List.ne_nil_of_mem (a := t)
  unfold ConfigurationEntry.targets
  rw [List.mem_filter]
  exact ⟨t.mem_all, by simpa using ht⟩

structure Complete (pass : Pass) (pages : List Page) : Prop where
  ne_nil : pages ≠ []
  pass : ∀ page ∈ pages, page.pass = pass
  path : ∀ page ∈ pages, page.path ≠ []
  names : (pages.map Page.name).Nodup

theorem complete_singleton {page : Page} (hpass : page.pass = pass) (hpath : page.path ≠ []) :
    Complete pass [page] where
  ne_nil := by simp
  pass := by simpa using hpass
  path := by simpa using hpath
  names := by simp

theorem complete_of_fit (hfit : m.Fit) (h : pagesOf engine m fs text pass = .ok pages) :
    Complete pass pages := by
  cases pass with
  | messages =>
    obtain ⟨e, content, hentry, -, rfl⟩ := pagesOf_messages_eq_ok_iff.mp h
    exact complete_singleton rfl (Manifest.path_ne_nil (hfit.messages e hentry).2)
  | configuration =>
    obtain ⟨e, docs, hentry, -, rfl⟩ := pagesOf_configuration_eq_ok_iff.mp h
    constructor
    . rw [ne_eq, List.map_eq_nil_iff]
      exact targets_ne_nil (hfit.configuration e hentry).2
    . rw [List.forall_mem_map]
      intro t ht
      rfl
    . rw [List.forall_mem_map]
      intro t ht
      apply Manifest.path_ne_nil
      simpa using (List.mem_filter.mp ht).2
    . rw [List.map_map]
      apply List.Nodup.map configurationPageName_injective
      apply List.Nodup.filter
      decide
  | functions =>
    obtain ⟨e, hentry, rfl⟩ := pagesOf_functions_eq_ok_iff.mp h
    exact complete_singleton rfl (Manifest.path_ne_nil (hfit.functions e hentry).2)

/--
The pass of a manifest that is fit for use is always known and configured. Unless a declaration of its source
has no name, it fails only if it has a template that cannot be read or makes no sense to the engine. If it
succeeds, it has at least one page, all of its pages have an output, and no two of them have the same name.
The pages of the configuration pass are those of the documents that have an output, in the order of the
documents, and each has the paragraphs of its own document.
-/
theorem renderSource_of_fit_manifest (engine : Template.Engine) (m : Manifest) (fs : FileSystem)
    (pass : Pass) (text : Text) (hfit : m.fault? = none) (hpass : pass ∈ m.passes)
    (hwords : pass = .configuration →
      ∀ line ∈ text.lines, Source.classifyConfig m.vocabulary line ≠ none) :
    (∀ cause, renderSource m fs pass.name text engine = .error cause →
      pass = .messages ∧ ∃ e, m.messages = some e ∧ e.template ≠ []
        ∧ ((∃ fault, fs.readFile (m.path e.template) = .error fault ∧ cause = .templateFile fault)
          ∨ ∃ layout, fs.readFile (m.path e.template) = .ok layout
              ∧ engine layout (Messages.extract m.vocabulary text.lines).1 = none
              ∧ cause = .templateMalformed))
      ∧ ∀ pages, renderSource m fs pass.name text engine = .ok pages →
          pages ≠ []
            ∧ (∀ page ∈ pages, page.pass = pass ∧ page.path ≠ [])
            ∧ (pages.map Page.name).Nodup
            ∧ (pass = .configuration → ∃ e docs, m.configuration = some e
                ∧ ConfigDocs.extract m.vocabulary text.lines = some docs
                ∧ pages = (Target.all.filter fun t => e.outputs.get t ≠ []).map fun t =>
                    { pass := .configuration
                      name := Text.ofString "configuration/" ++ Text.ofString t.name
                      path := m.path (e.outputs.get t)
                      content := Page.paragraphs (docs.get t) }) := by
  rw [renderSource_name]
  constructor
  . intro cause hcause
    rcases pagesOf_eq_error_cases (Manifest.mem_passes_iff.mp hpass) hcause with
      ⟨e, rfl, hentry, hcontent⟩ | ⟨rfl, hextract⟩
    . exact ⟨rfl, e, hentry, messagesContent_eq_error_iff.mp hcontent⟩
    . rw [ConfigDocs.extract, Option.map_eq_none_iff, ConfigDocs.extractFrom_eq_none_iff] at hextract
      obtain ⟨line, hline, hnone⟩ := hextract
      exact absurd hnone (hwords rfl line hline)
  . intro pages hpages
    have hcomplete := complete_of_fit (Manifest.fault?_eq_none_iff.mp hfit) hpages
    refine ⟨hcomplete.ne_nil, fun page hpage => ⟨hcomplete.pass page hpage, hcomplete.path page hpage⟩,
      hcomplete.names, ?_⟩
    rintro rfl
    exact pagesOf_configuration_eq_ok_iff.mp hpages

def everyPass : Manifest where
  messages := some { source := "m.rs", output := "m.md", template := "layout" }
  configuration := some { source := "c.lua", outputs := { modes := "modes.md", overview := "c.md" } }
  functions := some { source := "f.rs", output := "f.md" }

def threeDocumentsScript : Text :=
  "-- ### Modes -\n-- a\n-- ### Layouts -\n-- b\n-- # Configuration -\n-- c\n"

theorem everyPass_renders :
    everyPass.fault? = none
      ∧ everyPass.passes = [.messages, .configuration, .functions]
      ∧ (∃ fault, renderSource everyPass {} Pass.messages.name [] = .error (.templateFile fault))
      ∧ ∃ pages, renderSource everyPass {} Pass.configuration.name threeDocumentsScript = .ok pages
          ∧ pages.map Page.name =
              [Text.ofString "configuration/overview", Text.ofString "configuration/modes"] := by
  have hfit : everyPass.fault? = none := by
    decide +kernel
  refine ⟨hfit, rfl, ?_, ?_⟩
  . obtain ⟨hfails, -⟩ := renderSource_of_fit_manifest Template.standard everyPass {} .messages []
      hfit (by decide +kernel) (by simp)
    have hmissing : FileSystem.readFile {} (everyPass.path "layout") =
        .error ⟨"open", "layout", .notFound⟩ := by
      decide +kernel
    have hfailed : (renderSource everyPass {} Pass.messages.name []).isOk = false := by
      decide +kernel
    cases hrender : renderSource everyPass {} Pass.messages.name [] with
    | ok pages =>
      rw [hrender] at hfailed
      cases hfailed
    | error cause =>
      obtain ⟨-, e, hentry, -, ⟨fault, -, rfl⟩ | ⟨layout, hlayout, -⟩⟩ := hfails cause hrender
      . exact ⟨fault, rfl⟩
      . cases hentry
        rw [hmissing] at hlayout
        cases hlayout
  . have hwords : (threeDocumentsScript.lines.all fun line =>
        (Source.classifyConfig everyPass.vocabulary line).isSome) = true := by
      decide +kernel
    obtain ⟨hfails, hpages⟩ := renderSource_of_fit_manifest Template.standard everyPass {}
      .configuration threeDocumentsScript hfit (by decide +kernel) (fun _ line hline => by
        have hsome := List.all_eq_true.mp hwords line hline
        exact Option.isSome_iff_ne_none.mp hsome)
    cases hrender : renderSource everyPass {} Pass.configuration.name threeDocumentsScript with
    | error cause => cases (hfails cause hrender).1
    | ok pages =>
      obtain ⟨-, -, -, hown⟩ := hpages pages hrender
      obtain ⟨e, docs, hentry, -, rfl⟩ := hown rfl
      cases hentry
      refine ⟨_, rfl, ?_⟩
      rfl

end Generate

end Commentary
