import Commentary.Generate.Render
import Commentary.Proofs.Template.Plain

/-!
This module contains the pages of a pass that succeeds: one page of messages, one of functions, or one
for every configuration document that is written.
-/

namespace Commentary

theorem bind_eq_ok_iff {x : Except ε α} {f : α → Except ε β} {b : β} :
    x >>= f = .ok b ↔ ∃ a, x = .ok a ∧ f a = .ok b := by
  cases x with
  | error e => simp [bind, Except.bind]
  | ok a => simp [bind, Except.bind]

theorem Pass.mem_all (p : Pass) : p ∈ Pass.all := by
  cases p <;> decide

theorem Target.mem_all (t : Target) : t ∈ Target.all := by
  cases t <;> decide

theorem Pass.parse_eq_ok_iff {name : Text} {pass : Pass} :
    Pass.parse name = .ok pass ↔ Pass.ofName? name = some pass := by
  unfold Pass.parse
  cases Pass.ofName? name with
  | none => simp
  | some p => simp

theorem Pass.ofName?_name (pass : Pass) : Pass.ofName? pass.name = some pass := by
  cases pass <;> decide

namespace Generate

variable {engine other : Template.Engine} {m : Manifest} {fs : FileSystem} {name text : Text}
  {pages : List Page}

theorem renderSource_name (engine : Template.Engine) (m : Manifest) (fs : FileSystem) (pass : Pass)
    (text : Text) : renderSource m fs pass.name text engine = pagesOf engine m fs text pass := by
  cases pass <;> rfl

theorem renderSource_eq_ok_iff :
    renderSource m fs name text engine = .ok pages
      ↔ ∃ pass, Pass.ofName? name = some pass ∧ pagesOf engine m fs text pass = .ok pages := by
  unfold renderSource
  rw [bind_eq_ok_iff]
  simp only [Pass.parse_eq_ok_iff]

theorem pagesOf_messages_eq_ok_iff :
    pagesOf engine m fs text .messages = .ok pages
      ↔ ∃ e content, m.messages = some e ∧ messagesContent engine m e fs text = .ok content
        ∧ pages = [{ pass := .messages, name := Pass.messages.name, path := m.path e.output, content }] := by
  unfold pagesOf
  cases m.messages with
  | none => simp
  | some e =>
    dsimp only
    unfold messagesPages
    rw [bind_eq_ok_iff]
    constructor
    . rintro ⟨content, hcontent, hpages⟩
      cases hpages
      exact ⟨e, content, rfl, hcontent, rfl⟩
    . rintro ⟨_, content, hentry, hcontent, rfl⟩
      cases hentry
      exact ⟨content, hcontent, rfl⟩

theorem pagesOf_configuration_eq_ok_iff :
    pagesOf engine m fs text .configuration = .ok pages
      ↔ ∃ e docs, m.configuration = some e ∧ ConfigDocs.extract m.vocabulary text.lines = some docs
        ∧ pages = (ConfigurationEntry.targets e).map fun t =>
            { pass := .configuration
              name := configurationPageName t
              path := m.path (e.outputs.get t)
              content := Page.paragraphs (docs.get t) } := by
  unfold pagesOf
  cases m.configuration with
  | none => simp
  | some e =>
    dsimp only
    unfold configurationPages
    cases ConfigDocs.extract m.vocabulary text.lines with
    | none => simp
    | some docs => simp [eq_comm]

theorem pagesOf_functions_eq_ok_iff :
    pagesOf engine m fs text .functions = .ok pages
      ↔ ∃ e, m.functions = some e
        ∧ pages =
            [{ pass := .functions
               name := Pass.functions.name
               path := m.path e.output
               content :=
                Page.functions e.headingStart (FunctionDocs.extract m.vocabulary text.lines) }] := by
  unfold pagesOf
  cases m.functions with
  | none => simp
  | some e => simp [functionsPages, eq_comm]

theorem messagesContent_of_readFile_eq_error {e : MessagesEntry} {fault : FileError}
    (htemplate : e.template ≠ [])
    (hlayout : fs.readFile (m.path e.template) = .error fault) :
    messagesContent engine m e fs text = .error (.templateFile fault) := by
  unfold messagesContent
  dsimp only
  rw [if_neg htemplate, hlayout]
  rfl

theorem messagesContent_of_readFile_eq_ok {e : MessagesEntry} {layout : Text}
    (htemplate : e.template ≠ []) (hlayout : fs.readFile (m.path e.template) = .ok layout) :
    messagesContent engine m e fs text =
      match Template.page? layout (Messages.extract m.vocabulary text.lines).1 engine with
      | some content => .ok content
      | none => .error .templateMalformed := by
  unfold messagesContent
  dsimp only
  rw [if_neg htemplate, hlayout]
  rfl

def functionsOnly : Manifest where
  functions := some { source := "f.rs", output := "f.md" }

/--
Two renderings of the pass of the given name do the same with its template, which only messages have.
They do unless the layout shows the addresses at which the document lies.
-/
def SameLayout (m : Manifest) (fs : FileSystem) (name : Text) (engine other : Template.Engine) : Prop :=
  Pass.ofName? name = some .messages → ∀ e layout, m.messages = some e → e.template ≠ [] →
    fs.readFile (m.path e.template) = .ok layout → engine layout = other layout

namespace SameLayout

theorem symm {name : Text} (h : SameLayout m fs name engine other) :
    SameLayout m fs name other engine := by
  intro hname e layout hentry htemplate hlayout
  exact (h hname e layout hentry htemplate hlayout).symm

theorem of_isPlain {name : Text} {address other : Nat}
    (h : ∀ e layout, m.messages = some e → fs.readFile (m.path e.template) = .ok layout →
      Template.isPlain layout = true) :
    SameLayout m fs name (Template.write? address) (Template.write? other) := by
  intro _ e layout hentry _ hlayout
  exact Template.write?_eq_of_isPlain (h e layout hentry hlayout) address other

theorem messagesContent_eq {name : Text} {e : MessagesEntry} (h : SameLayout m fs name engine other)
    (hname : Pass.ofName? name = some .messages) (hentry : m.messages = some e) (text : Text) :
    messagesContent engine m e fs text = messagesContent other m e fs text := by
  by_cases htemplate : e.template = []
  . simp only [messagesContent, htemplate, ↓reduceIte]
  . cases hlayout : fs.readFile (m.path e.template) with
    | error fault =>
      rw [messagesContent_of_readFile_eq_error htemplate hlayout,
        messagesContent_of_readFile_eq_error htemplate hlayout]
    | ok layout =>
      rw [messagesContent_of_readFile_eq_ok htemplate hlayout,
        messagesContent_of_readFile_eq_ok htemplate hlayout, Template.page?, Template.page?,
        h hname e layout hentry htemplate hlayout]

theorem pagesOf_eq {name : Text} {pass : Pass} (h : SameLayout m fs name engine other)
    (hname : Pass.ofName? name = some pass) (text : Text) :
    pagesOf engine m fs text pass = pagesOf other m fs text pass := by
  cases pass with
  | messages =>
    unfold pagesOf
    cases hentry : m.messages with
    | none => rfl
    | some e =>
      dsimp only
      rw [messagesPages, messagesPages, h.messagesContent_eq hname hentry]
  | configuration => rfl
  | functions => rfl

theorem render_eq {name : Text} (h : SameLayout m fs name engine other) (cancelled : Bool) :
    render m fs cancelled ⟨name, engine⟩ = render m fs cancelled ⟨name, other⟩ := by
  unfold render
  dsimp only
  cases hparse : Pass.parse name with
  | error e => simp only [bind, Except.bind]
  | ok pass =>
    have hname := Pass.parse_eq_ok_iff.mp hparse
    simp only [bind, Except.bind, h.pagesOf_eq hname]

end SameLayout

end Generate

end Commentary
