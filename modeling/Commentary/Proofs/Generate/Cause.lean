import Commentary.Generate.Run
import Commentary.Proofs.Generate.Pages

/-!
This module contains the reasons for which a pass cannot be rendered, in terms of the manifest and the
file system, and that there are no others.
-/

namespace Commentary

namespace Generate

variable {m : Manifest} {fs : FileSystem}

/--
The reasons for which the pass of the given name cannot be rendered. Each of them presupposes that the
pass gets that far.
-/
inductive Fails (m : Manifest) (fs : FileSystem) (cancelled : Bool) (r : Request) : Error → Prop where
  | unknown (hname : Pass.ofName? r.name = none) : Fails m fs cancelled r (.unknownPass r.name)
  | notConfigured {pass : Pass} (hname : Pass.ofName? r.name = some pass)
      (hsource : m.source? pass = none) : Fails m fs cancelled r (.passNotConfigured pass)
  | cancelled {pass : Pass} {source : Text} (hname : Pass.ofName? r.name = some pass)
      (hsource : m.source? pass = some source) (hcancelled : cancelled = true) :
      Fails m fs cancelled r .cancelled
  | source {pass : Pass} {source : Text} {fault : FileError} (hname : Pass.ofName? r.name = some pass)
      (hsource : m.source? pass = some source) (hcancelled : cancelled = false)
      (hread : fs.readFile (m.path source) = .error fault) :
      Fails m fs cancelled r (.sourceFile fault)
  | template {e : MessagesEntry} {text : Text} {fault : FileError}
      (hname : Pass.ofName? r.name = some .messages) (hentry : m.messages = some e)
      (hcancelled : cancelled = false) (hread : fs.readFile (m.path e.source) = .ok text)
      (htemplate : e.template ≠ []) (hlayout : fs.readFile (m.path e.template) = .error fault) :
      Fails m fs cancelled r (.templateFile fault)
  | layout {e : MessagesEntry} {text layout : Text}
      (hname : Pass.ofName? r.name = some .messages) (hentry : m.messages = some e)
      (hcancelled : cancelled = false) (hread : fs.readFile (m.path e.source) = .ok text)
      (htemplate : e.template ≠ []) (hlayout : fs.readFile (m.path e.template) = .ok layout)
      (hpage : r.engine layout (Messages.extract m.vocabulary text.lines).1 = none) :
      Fails m fs cancelled r .templateMalformed

/--
The pass of the given name ends the program: it is the configuration pass, and a line of its source has
no token.
-/
structure Panics (m : Manifest) (fs : FileSystem) (cancelled : Bool) (r : Request) : Prop where
  configuration : Pass.ofName? r.name = some .configuration
  admitted : cancelled = false
  source : ∃ e text, m.configuration = some e ∧ fs.readFile (m.path e.source) = .ok text
    ∧ ConfigDocs.extract m.vocabulary text.lines = none

section Stages

variable {cancelled : Bool} {r : Request} {engine : Template.Engine} {source text : Text} {pass : Pass}
  {fault : FileError}

theorem render_of_ofName?_eq_none (hname : Pass.ofName? r.name = none) :
    render m fs cancelled r = .error (.unknownPass r.name) := by
  unfold render Pass.parse
  rw [hname]
  rfl

theorem render_of_source?_eq_none (hname : Pass.ofName? r.name = some pass)
    (hsource : m.source? pass = none) :
    render m fs cancelled r = .error (.passNotConfigured pass) := by
  unfold render Pass.parse sourcePath
  rw [hname]
  simp only [bind, Except.bind, hsource]

theorem render_of_source?_eq_some (hname : Pass.ofName? r.name = some pass)
    (hsource : m.source? pass = some source) :
    render m fs cancelled r =
      if cancelled then
        .error .cancelled
      else
        (fs.readFile (m.path source)).mapError .sourceFile >>=
          fun text => pagesOf r.engine m fs text pass := by
  unfold render Pass.parse sourcePath
  rw [hname]
  simp only [bind, Except.bind, hsource]

theorem render_of_readFile_eq_error (hname : Pass.ofName? r.name = some pass)
    (hsource : m.source? pass = some source) (hread : fs.readFile (m.path source) = .error fault) :
    render m fs false r = .error (.sourceFile fault) := by
  rw [render_of_source?_eq_some hname hsource, if_neg Bool.false_ne_true, hread]
  rfl

theorem render_of_readFile_eq_ok (hname : Pass.ofName? r.name = some pass)
    (hsource : m.source? pass = some source) (hread : fs.readFile (m.path source) = .ok text) :
    render m fs false r = pagesOf r.engine m fs text pass := by
  rw [render_of_source?_eq_some hname hsource, if_neg Bool.false_ne_true, hread]
  rfl

theorem exists_render_eq_error_of_cancelled (m : Manifest) (fs : FileSystem) (r : Request) :
    ∃ cause, render m fs true r = .error cause := by
  cases hname : Pass.ofName? r.name with
  | none => exact ⟨_, render_of_ofName?_eq_none hname⟩
  | some pass =>
    cases hsource : m.source? pass with
    | none => exact ⟨_, render_of_source?_eq_none hname hsource⟩
    | some source =>
      refine ⟨.cancelled, ?_⟩
      rw [render_of_source?_eq_some hname hsource, if_pos rfl]

theorem messagesContent_eq_error_iff {e : MessagesEntry} {cause : Error} :
    messagesContent engine m e fs text = .error cause
      ↔ e.template ≠ []
        ∧ ((∃ fault, fs.readFile (m.path e.template) = .error fault ∧ cause = .templateFile fault)
          ∨ ∃ layout, fs.readFile (m.path e.template) = .ok layout
              ∧ engine layout (Messages.extract m.vocabulary text.lines).1 = none
              ∧ cause = .templateMalformed) := by
  by_cases htemplate : e.template = []
  . unfold messagesContent
    dsimp only
    rw [if_pos htemplate]
    simp [htemplate, pure, Except.pure]
  . cases hlayout : fs.readFile (m.path e.template) with
    | error fault =>
      rw [messagesContent_of_readFile_eq_error htemplate hlayout]
      simp [htemplate, eq_comm]
    | ok layout =>
      rw [messagesContent_of_readFile_eq_ok htemplate hlayout]
      cases hpage : engine layout (Messages.extract m.vocabulary text.lines).1 with
      | none => simp [Template.page?, htemplate, hpage, eq_comm]
      | some content => simp [Template.page?, hpage]

theorem pagesOf_messages {e : MessagesEntry} (hentry : m.messages = some e) :
    pagesOf engine m fs text .messages = messagesPages engine m e fs text := by
  rw [pagesOf, hentry]

theorem messagesPages_eq_error_iff {e : MessagesEntry} {cause : Error} :
    messagesPages engine m e fs text = .error cause
      ↔ messagesContent engine m e fs text = .error cause := by
  unfold messagesPages
  cases messagesContent engine m e fs text with
  | error reason => simp [bind, Except.bind]
  | ok content => simp [bind, Except.bind, pure, Except.pure]

end Stages

variable {cancelled : Bool} {r : Request} {cause : Error}

theorem Fails.render_eq (h : Fails m fs cancelled r cause) :
    render m fs cancelled r = .error cause := by
  cases h with
  | unknown hname => exact render_of_ofName?_eq_none hname
  | notConfigured hname hsource => exact render_of_source?_eq_none hname hsource
  | cancelled hname hsource hcancelled =>
    rw [render_of_source?_eq_some hname hsource, if_pos hcancelled]
  | source hname hsource hcancelled hread =>
    rw [hcancelled, render_of_readFile_eq_error hname hsource hread]
  | template hname hentry hcancelled hread htemplate hlayout =>
    have hsource : m.source? .messages = _ := congrArg (Option.map MessagesEntry.source) hentry
    rw [hcancelled, render_of_readFile_eq_ok hname hsource hread, pagesOf_messages hentry,
      messagesPages_eq_error_iff, messagesContent_of_readFile_eq_error htemplate hlayout]
  | layout hname hentry hcancelled hread htemplate hlayout hpage =>
    have hsource : m.source? .messages = _ := congrArg (Option.map MessagesEntry.source) hentry
    rw [hcancelled, render_of_readFile_eq_ok hname hsource hread, pagesOf_messages hentry,
      messagesPages_eq_error_iff, messagesContent_of_readFile_eq_ok htemplate hlayout,
      Template.page?, hpage]
    rfl

theorem Panics.render_eq (h : Panics m fs cancelled r) :
    render m fs cancelled r = .error .declarationWithoutName := by
  obtain ⟨e, text, hentry, hread, hextract⟩ := h.source
  have hsource : m.source? .configuration = _ :=
    congrArg (Option.map ConfigurationEntry.source) hentry
  rw [h.admitted, render_of_readFile_eq_ok h.configuration hsource hread, pagesOf, hentry]
  dsimp only
  rw [configurationPages, hextract]

theorem fails_or_panics_of_pagesOf {pass : Pass} {source text : Text}
    (hname : Pass.ofName? r.name = some pass) (hsource : m.source? pass = some source)
    (hread : fs.readFile (m.path source) = .ok text) (h : pagesOf r.engine m fs text pass = .error cause) :
    Fails m fs false r cause ∨ (Panics m fs false r ∧ cause = .declarationWithoutName) := by
  cases pass with
  | messages =>
    obtain ⟨e, hentry, rfl⟩ := Option.map_eq_some_iff.mp hsource
    rw [pagesOf_messages hentry, messagesPages_eq_error_iff, messagesContent_eq_error_iff] at h
    left
    obtain ⟨htemplate, ⟨fault, hlayout, rfl⟩ | ⟨layout, hlayout, hpage, rfl⟩⟩ := h
    . exact .template hname hentry rfl hread htemplate hlayout
    . exact .layout hname hentry rfl hread htemplate hlayout hpage
  | configuration =>
    obtain ⟨e, hentry, rfl⟩ := Option.map_eq_some_iff.mp hsource
    simp only [pagesOf, hentry, configurationPages] at h
    split at h
    . next hextract =>
      cases h
      exact .inr ⟨⟨hname, rfl, e, text, hentry, hread, hextract⟩, rfl⟩
    . cases h
  | functions =>
    obtain ⟨e, hentry, rfl⟩ := Option.map_eq_some_iff.mp hsource
    simp only [pagesOf, hentry] at h
    cases h

theorem fails_or_panics (h : render m fs cancelled r = .error cause) :
    Fails m fs cancelled r cause
      ∨ (Panics m fs cancelled r ∧ cause = .declarationWithoutName) := by
  cases hname : Pass.ofName? r.name with
  | none =>
    rw [render_of_ofName?_eq_none hname] at h
    cases h
    exact .inl (.unknown hname)
  | some pass =>
    cases hsource : m.source? pass with
    | none =>
      rw [render_of_source?_eq_none hname hsource] at h
      cases h
      exact .inl (.notConfigured hname hsource)
    | some source =>
      cases cancelled with
      | true =>
        rw [render_of_source?_eq_some hname hsource, if_pos rfl] at h
        cases h
        exact .inl (.cancelled hname hsource rfl)
      | false =>
        cases hread : fs.readFile (m.path source) with
        | error fault =>
          rw [render_of_readFile_eq_error hname hsource hread] at h
          cases h
          exact .inl (.source hname hsource rfl hread)
        | ok text =>
          rw [render_of_readFile_eq_ok hname hsource hread] at h
          exact fails_or_panics_of_pagesOf hname hsource hread h

theorem not_panics_iff :
    ¬ Panics m fs cancelled r ↔ render m fs cancelled r ≠ .error .declarationWithoutName := by
  constructor
  . intro hpanic hrender
    rcases fails_or_panics hrender with hfails | ⟨hpanics, -⟩
    . cases hfails
    . exact hpanic hpanics
  . intro hrender hpanics
    exact hrender hpanics.render_eq

end Generate

end Commentary
