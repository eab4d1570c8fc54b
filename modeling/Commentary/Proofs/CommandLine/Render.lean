import Commentary.CommandLine.Run
import Commentary.Proofs.Generate.Delivery
import Commentary.Proofs.Generate.Pages

/-!
This module contains the agreement of the command that prints one page with the dry run of its pass. The
command finds the page by its name, so the names of pages have to tell them apart.
-/

namespace Commentary

theorem Target.ofName?_name (t : Target) : Target.ofName? t.name = some t := by
  cases t <;> decide

namespace CommandLine

open Generate (pagesOf configurationPageName)

variable {i : Invocation} {engine : Template.Engine} {m : Manifest} {fs : FileSystem} {p : Pass}
  {t : Target} {text : Text} {pages : List Page}

theorem pageName_injective {q : Pass} {u : Target} (h : pageName p t = pageName q u) :
    p = q ∧ (p = .configuration → t = u) := by
  have hall : ∀ p ∈ Pass.all, ∀ q ∈ Pass.all, ∀ t ∈ Target.all, ∀ u ∈ Target.all,
      pageName p t = pageName q u → p = q ∧ (p = .configuration → t = u) := by
    decide +kernel
  exact hall p p.mem_all q q.mem_all t t.mem_all u u.mem_all h

def outputOf? (m : Manifest) (t : Target) : Pass → Option Text
  | .messages => m.messages.map MessagesEntry.output
  | .configuration => (m.configuration.map fun e => e.outputs.get t).filter (· ≠ [])
  | .functions => m.functions.map FunctionsEntry.output

theorem outputOf?_eq_none_iff {source : Text} (hsource : m.source? p = some source) :
    outputOf? m t p = none
      ↔ p = .configuration ∧ ∃ e, m.configuration = some e ∧ e.outputs.get t = [] := by
  cases p with
  | messages =>
    obtain ⟨e, hentry, -⟩ := Option.map_eq_some_iff.mp hsource
    simp [outputOf?, hentry]
  | configuration =>
    obtain ⟨e, hentry, -⟩ := Option.map_eq_some_iff.mp hsource
    simp [outputOf?, hentry]
  | functions =>
    obtain ⟨e, hentry, -⟩ := Option.map_eq_some_iff.mp hsource
    simp [outputOf?, hentry]

structure Belongs (m : Manifest) (text : Text) (p : Pass) (t : Target) (page : Page) : Prop where
  pass : page.pass = p
  name : page.name = pageName p t
  path : ∃ output, outputOf? m t p = some output ∧ page.path = m.path output
  document : p = .configuration → ∃ docs, ConfigDocs.extract m.vocabulary text.lines = some docs
    ∧ page.content = Page.paragraphs (docs.get t)

theorem belongs_of_mem (hpages : pagesOf engine m fs text p = .ok pages) {page : Page}
    (hpage : page ∈ pages) : ∃ t, Belongs m text p t page := by
  cases p with
  | messages =>
    obtain ⟨e, content, hentry, -, rfl⟩ := Generate.pagesOf_messages_eq_ok_iff.mp hpages
    cases List.mem_singleton.mp hpage
    refine ⟨.overview, rfl, rfl, ?_, by simp⟩
    simp [outputOf?, hentry]
  | configuration =>
    obtain ⟨e, docs, hentry, hdocs, rfl⟩ := Generate.pagesOf_configuration_eq_ok_iff.mp hpages
    obtain ⟨t, ht, rfl⟩ := List.mem_map.mp hpage
    refine ⟨t, rfl, rfl, ?_, fun _ => ⟨docs, hdocs, rfl⟩⟩
    have houtput : e.outputs.get t ≠ [] := by
      simpa using (List.mem_filter.mp ht).2
    simp [outputOf?, hentry, houtput]
  | functions =>
    obtain ⟨e, hentry, rfl⟩ := Generate.pagesOf_functions_eq_ok_iff.mp hpages
    cases List.mem_singleton.mp hpage
    refine ⟨.overview, rfl, rfl, ?_, by simp⟩
    simp [outputOf?, hentry]

theorem Belongs.of_name {page : Page} {u : Target} (h : Belongs m text p u page)
    (hname : page.name = pageName p t) : Belongs m text p t page := by
  cases p with
  | messages => exact ⟨h.pass, hname, h.path, by simp⟩
  | configuration =>
    have hsame : pageName .configuration u = pageName .configuration t := by
      rw [← h.name, hname]
    rw [← (pageName_injective hsame).2 rfl]
    exact h
  | functions => exact ⟨h.pass, hname, h.path, by simp⟩

theorem eq_of_name_eq (hpages : pagesOf engine m fs text p = .ok pages) {page other : Page}
    (hpage : page ∈ pages) (hother : other ∈ pages) (hname : other.name = page.name) : other = page := by
  cases p with
  | messages =>
    obtain ⟨e, content, -, -, rfl⟩ := Generate.pagesOf_messages_eq_ok_iff.mp hpages
    rw [List.mem_singleton.mp hpage, List.mem_singleton.mp hother]
  | configuration =>
    obtain ⟨e, docs, -, -, rfl⟩ := Generate.pagesOf_configuration_eq_ok_iff.mp hpages
    obtain ⟨t, -, rfl⟩ := List.mem_map.mp hpage
    obtain ⟨u, -, rfl⟩ := List.mem_map.mp hother
    have hsame : pageName .configuration u = pageName .configuration t := hname
    rw [(pageName_injective hsame).2 rfl]
  | functions =>
    obtain ⟨e, -, rfl⟩ := Generate.pagesOf_functions_eq_ok_iff.mp hpages
    rw [List.mem_singleton.mp hpage, List.mem_singleton.mp hother]

theorem exists_mem_of_outputOf? (hpages : pagesOf engine m fs text p = .ok pages) {output : Text}
    (houtput : outputOf? m t p = some output) : ∃ page ∈ pages, page.name = pageName p t := by
  cases p with
  | messages =>
    obtain ⟨e, content, -, -, rfl⟩ := Generate.pagesOf_messages_eq_ok_iff.mp hpages
    exact ⟨_, List.mem_singleton_self _, rfl⟩
  | configuration =>
    obtain ⟨e, docs, hentry, -, rfl⟩ := Generate.pagesOf_configuration_eq_ok_iff.mp hpages
    have ht : t ∈ Generate.ConfigurationEntry.targets e := by
      refine List.mem_filter.mpr ⟨t.mem_all, ?_⟩
      simp only [outputOf?, hentry, Option.map_some, Option.filter_eq_some_iff] at houtput
      rw [Option.some.inj houtput.1]
      exact houtput.2
    exact ⟨_, List.mem_map_of_mem ht, rfl⟩
  | functions =>
    obtain ⟨e, -, rfl⟩ := Generate.pagesOf_functions_eq_ok_iff.mp hpages
    exact ⟨_, List.mem_singleton_self _, rfl⟩

theorem find?_of_outputOf?_eq_some (hpages : pagesOf engine m fs text p = .ok pages) {output : Text}
    (houtput : outputOf? m t p = some output) :
    ∃ page ∈ pages, Belongs m text p t page
      ∧ pages.find? (fun page => page.name = pageName p t) = some page := by
  obtain ⟨page, hpage, hname⟩ := exists_mem_of_outputOf? hpages houtput
  obtain ⟨u, hbelongs⟩ := belongs_of_mem hpages hpage
  refine ⟨page, hpage, hbelongs.of_name hname, ?_⟩
  cases hfind : pages.find? (fun page => page.name = pageName p t) with
  | none => exact absurd hname (by simpa using List.find?_eq_none.mp hfind page hpage)
  | some found =>
    have hfound : found.name = pageName p t := by
      simpa using List.find?_some hfind
    rw [eq_of_name_eq hpages hpage (List.mem_of_find?_eq_some hfind) (hfound.trans hname.symm)]

theorem find?_of_outputOf?_eq_none (hpages : pagesOf engine m fs text p = .ok pages)
    (houtput : outputOf? m t p = none) :
    pages.find? (fun page => page.name = pageName p t) = none := by
  rw [List.find?_eq_none]
  intro page hpage hname
  obtain ⟨u, hbelongs⟩ := belongs_of_mem hpages hpage
  obtain ⟨output, hsome, -⟩ := (hbelongs.of_name (by simpa using hname)).path
  rw [houtput] at hsome
  cases hsome

def renderInput (i : Invocation) (h : Log.Handler) (flags : FlagSet) (p : Pass) (fs : FileSystem) :
    Result :=
  perform i h .render flags [Text.ofString p.name, Text.ofString "-"] fs

theorem Result.print_of_working (h : i.output = .working) (t : Text) :
    Result.print i fs t = { fs, output := t } := by
  unfold Result.print
  rw [h]
  rfl

section Command

variable {h : Log.Handler} {flags : FlagSet}

theorem renderInput_eq
    (hmanifest : GenerateOptions.loadManifest { manifest := flags.text "manifest" } fs i.platform.yaml =
      .ok m)
    (htarget : flags.text "target" = Text.ofString t.name)
    (hpages : pagesOf (i.platform.engine 0) m fs i.input p = .ok pages) :
    renderInput i h flags p fs =
      match pages.find? fun page => page.name = pageName p t with
      | none => .fail fs (.pageNotProduced (pageName p t))
      | some page =>
        { Result.print i fs page.content with
          notes := h.writeAll (Generate.renderRecords m i.input p pages) } := by
  change render i h { manifest := flags.text "manifest" } p.name (flags.text "target") "-" fs = _
  unfold render renderPage
  rw [htarget, Pass.parse_eq_ok_iff.mpr p.ofName?_name, t.ofName?_name, hmanifest]
  simp only [bind, Except.bind, readSource, ↓reduceIte, hpages]
  cases pages.find? fun page => page.name = pageName p t with
  | none => rfl
  | some page => rfl

end Command

theorem renderAll_singleton {r : Generate.Request}
    (h : Generate.renderAll m fs false [r] = .ok pages) : Generate.render m fs false r = .ok pages := by
  cases hrender : Generate.render m fs false r with
  | error cause => exact absurd h (Generate.renderAll_ne_ok List.mem_cons_self hrender)
  | ok own =>
    unfold Generate.renderAll at h
    rw [List.mapM_cons, Generate.renderPass, hrender] at h
    have hflat : [own].flatten = pages := Except.ok.inj h
    simpa using hflat

/--
If the dry run of a pass succeeds, the command that prints one page from the same manifest and source
prints the content of the page of this pass that the dry run shows; for the configuration pass that is
the page of the target. It fails if and only if there is no such page, because the manifest has no output
for the target, and prints nothing then. No other page of any pass has the name that it looks for. A
layout of the messages must not show where the values are in memory, unless they are at the same place.
-/
theorem render_prints_page_of_dry_run (i : Invocation) (h : Log.Handler) (flags : FlagSet)
    (fs : FileSystem) (m : Manifest) (o : Generate.Options) (p : Pass) (t : Target) (source : Text)
    (stream : Stream) (shown : Generate.Outcome)
    (hmanifest : GenerateOptions.loadManifest { manifest := flags.text "manifest" } fs i.platform.yaml =
      .ok m)
    (htarget : flags.text "target" = Text.ofString t.name) (houtput : i.output = .working)
    (hdry : o.dryRun = some stream) (hsource : m.source? p = some source)
    (hread : fs.readFile (m.path source) = .ok i.input)
    (hlayout : Generate.SameLayout m fs p.name (o.platform.engine 0) (i.platform.engine 0))
    (hshown : shown = Generate.run m o fs [Text.ofString p.name]
      ∨ Generate.Schedule.Ends m o fs [Text.ofString p.name] shown)
    (hsucceeds : shown.error = none) :
    ∃ pages,
      Generate.renderSource m fs p.name i.input (o.platform.engine 0) = .ok pages
        ∧ shown.output =
            pages.flatMap (fun page => Text.ofString "==> " ++ page.path ++ Text.ofString " <=="
              ++ [Text.lf] ++ page.content ++ [Text.lf])
        ∧ (renderInput i h flags p fs).fs = fs
        ∧ ((∃ page ∈ pages, Belongs m i.input p t page
              ∧ (∀ other ∈ pages, other.name = pageName p t → other = page)
              ∧ (renderInput i h flags p fs).output = page.content
              ∧ (renderInput i h flags p fs).failure = none)
          ∨ ((renderInput i h flags p fs).output = []
              ∧ (renderInput i h flags p fs).failure =
                  some (.error (.pageNotProduced (pageName p t)))))
        ∧ ((renderInput i h flags p fs).failure = some (.error (.pageNotProduced (pageName p t)))
            ↔ p = .configuration ∧ ∃ e, m.configuration = some e ∧ e.outputs.get t = [])
        ∧ ∀ (q : Pass) (u : Target), pageName q u = pageName p t →
            q = p ∧ (q = .configuration → u = t) := by
  obtain ⟨pages, hrendered⟩ := Generate.Rendered.of_succeeded hshown hsucceeds
  have hall := Generate.renderAll_eq_ok_of_cancelled hrendered.renderAll_eq
  have hown : pagesOf (o.platform.engine 0) m fs i.input p = .ok pages := by
    have hrender := renderAll_singleton hall
    rw [Generate.render_of_readFile_eq_ok p.ofName?_name hsource hread] at hrender
    exact hrender
  have hpages : pagesOf (i.platform.engine 0) m fs i.input p = .ok pages := by
    rw [← hlayout.pagesOf_eq p.ofName?_name]
    exact hown
  refine ⟨pages, ?_, ?_, ?_⟩
  . rw [Generate.renderSource_eq_ok_iff]
    exact ⟨p, p.ofName?_name, hown⟩
  . rw [(hrendered.printed hdry hsucceeds).2, Generate.printed_eq]
  . rw [renderInput_eq hmanifest htarget hpages, ← outputOf?_eq_none_iff hsource]
    cases hout : outputOf? m t p with
    | some output =>
      obtain ⟨page, hpage, hbelongs, hfind⟩ := find?_of_outputOf?_eq_some hpages hout
      rw [hfind]
      dsimp only
      rw [Result.print_of_working houtput]
      refine ⟨rfl, .inl ⟨page, hpage, hbelongs, ?_, rfl, rfl⟩, by simp, fun _ _ => pageName_injective⟩
      intro other hother hname
      exact eq_of_name_eq hpages hpage hother (hname.trans hbelongs.name.symm)
    | none =>
      rw [find?_of_outputOf?_eq_none hpages hout]
      exact ⟨rfl, .inr ⟨rfl, rfl⟩, iff_of_true rfl rfl, fun _ _ => pageName_injective⟩

def twoDocuments : FileSystem where
  entries :=
    [(["m.yaml"],
      .file (.text ("configuration: \x7bsource: init.lua, outputs: "
        ++ "\x7bmodes: modes.md, layouts: layouts.md\x7d\x7d"))),
     (["init.lua"], .file (.text "-- ### Modes \n--\n\n-- x"))]

def twoDocumentsManifest : Manifest where
  configuration := some
    { source := "init.lua", outputs := { modes := "modes.md", layouts := "layouts.md" } }
  root := "."

def pageFlags (manifest : Text) (t : Target) : FlagSet :=
  FlagSet.update
    (FlagSet.update (Command.flags .render) "manifest" fun f => { f with value := .text manifest })
    "target" fun f => { f with value := .text t.name }

def scriptInput : Invocation where
  arguments := []
  input := "-- ### Modes \n--\n\n-- x"
  platform := { engine := Template.write? }

theorem twoDocuments_prints_page_of_dry_run :
    GenerateOptions.loadManifest { manifest := Text.ofString "m.yaml" } twoDocuments
        scriptInput.platform.yaml = .ok twoDocumentsManifest
      ∧ Generate.SameLayout twoDocumentsManifest twoDocuments Pass.configuration.name
          (Platform.engine {} 0) (scriptInput.platform.engine 0)
      ∧ (Generate.run twoDocumentsManifest { dryRun := some .working } twoDocuments
          [Text.ofString "configuration"]).error = none
      ∧ (renderInput scriptInput {} (pageFlags "m.yaml" .modes) .configuration twoDocuments).output =
          Text.ofString "### Modes \n\n\nx\n"
      ∧ (renderInput scriptInput {} (pageFlags "m.yaml" .general) .configuration twoDocuments).failure =
          some (.error (.pageNotProduced "configuration/general")) := by
  have hmanifest : GenerateOptions.loadManifest { manifest := Text.ofString "m.yaml" } twoDocuments
      scriptInput.platform.yaml = .ok twoDocumentsManifest := by
    decide +kernel
  have hlayout : Generate.SameLayout twoDocumentsManifest twoDocuments Pass.configuration.name
      (Platform.engine {} 0) (scriptInput.platform.engine 0) := by
    intro _ e layout hentry
    cases hentry
  have hread : twoDocuments.readFile (twoDocumentsManifest.path "init.lua") = .ok scriptInput.input := by
    decide +kernel
  have hsucceeds : (Generate.run twoDocumentsManifest { dryRun := some .working } twoDocuments
      [Text.ofString "configuration"]).error = none := by
    decide +kernel
  refine ⟨hmanifest, hlayout, hsucceeds, ?_, ?_⟩
  . obtain ⟨pages, -, -, -, hprints, hfails, -⟩ := render_prints_page_of_dry_run scriptInput {}
      (pageFlags "m.yaml" .modes) twoDocuments twoDocumentsManifest { dryRun := some .working }
      .configuration .modes "init.lua" .working _ hmanifest (by decide +kernel) rfl rfl rfl hread hlayout
      (.inl rfl) hsucceeds
    rcases hprints with ⟨page, -, hbelongs, -, houtput, -⟩ | ⟨-, hfailure⟩
    . have hmodes : (ConfigDocs.extract twoDocumentsManifest.vocabulary scriptInput.input.lines).map
          (fun docs => Page.paragraphs (docs.get .modes)) = some (Text.ofString "### Modes \n\n\nx\n") := by
        decide +kernel
      obtain ⟨docs, hdocs, hcontent⟩ := hbelongs.document rfl
      rw [hdocs] at hmodes
      rw [houtput, hcontent]
      exact Option.some.inj hmodes
    . obtain ⟨-, e, hentry, hnone⟩ := hfails.mp hfailure
      cases hentry
      cases hnone
  . obtain ⟨pages, -, -, -, -, hfails, -⟩ := render_prints_page_of_dry_run scriptInput {}
      (pageFlags "m.yaml" .general) twoDocuments twoDocumentsManifest { dryRun := some .working }
      .configuration .general "init.lua" .working _ hmanifest (by decide +kernel) rfl rfl rfl hread hlayout
      (.inl rfl) hsucceeds
    exact hfails.mpr ⟨rfl, _, rfl, rfl⟩

end CommandLine

end Commentary
