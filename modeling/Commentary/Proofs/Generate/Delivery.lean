import Commentary.Proofs.FileSystem.Write
import Commentary.Proofs.Generate.Ending

/-!
This module contains the delivery of pages. A dry run prints the pages that a real run writes, and the
files that a real run leaves are those of the beginning with the pages put in one after the other.
-/

namespace Commentary

namespace Generate

open FileSystem

variable {m : Manifest} {o : Options} {fs after : FileSystem} {passes : List Text} {page : Page}
  {pages : List Page} {progress : Progress} {e : Error}

theorem printed_eq :
    printed = fun page =>
      Text.ofString "==> " ++ page.path ++ Text.ofString " <==" ++ [Text.lf] ++ page.content
        ++ [Text.lf] := by
  funext page
  have hmark : Text.ofString " <==\n" = Text.ofString " <==" ++ [Text.lf] := by
    decide
  unfold printed
  rw [hmark, ← List.append_assoc]
  rfl

theorem deliverAll_cons_of_some (h : (deliver o page progress).error = some e) (pages : List Page) :
    deliverAll o (page :: pages) progress = deliver o page progress := by
  rw [deliverAll]
  simp only [h]

theorem deliverAll_cons_of_none (h : (deliver o page progress).error = none) (pages : List Page) :
    deliverAll o (page :: pages) progress =
      deliverAll o pages (deliver o page progress).toProgress := by
  rw [deliverAll]
  simp only [h]

theorem error_of_deliverAll_cons (h : (deliverAll o (page :: pages) progress).error = none) :
    (deliver o page progress).error = none
      ∧ (deliverAll o pages (deliver o page progress).toProgress).error = none := by
  cases hpage : (deliver o page progress).error with
  | some e =>
    rw [deliverAll_cons_of_some hpage, hpage] at h
    cases h
  | none =>
    rw [deliverAll_cons_of_none hpage] at h
    exact ⟨rfl, h⟩

theorem deliver_dry {s : Stream} (hdry : o.dryRun = some s) :
    deliver o page progress = print s page progress := by
  unfold deliver
  rw [hdry]

theorem deliver_real (hreal : o.dryRun = none) :
    deliver o page progress = write o.platform.refuses? page progress := by
  unfold deliver
  rw [hreal]

theorem deliverAll_dry {s : Stream} (hdry : o.dryRun = some s)
    (h : (deliverAll o pages progress).error = none) :
    (deliverAll o pages progress).fs = progress.fs
      ∧ (deliverAll o pages progress).output = progress.output ++ pages.flatMap printed := by
  induction pages generalizing progress with
  | nil => simp [deliverAll]
  | cons page pages ih =>
    obtain ⟨hpage, hrest⟩ := error_of_deliverAll_cons h
    obtain ⟨hfs, houtput⟩ := ih hrest
    rw [deliverAll_cons_of_none hpage, hfs, houtput]
    rw [deliver_dry hdry, print] at hpage ⊢
    split
    . simp
    . next hrefused =>
      rw [hrefused] at hpage
      cases hpage

inductive WrittenAll : FileSystem → List Page → FileSystem → Prop where
  | nil {fs : FileSystem} : WrittenAll fs [] fs
  | cons {fs next after : FileSystem} {page : Page} {pages : List Page}
      (hfirst : Written fs page.path (.text page.content) next) (hrest : WrittenAll next pages after) :
      WrittenAll fs (page :: pages) after

theorem written_of_write {refuses? : Refusals}
    (h : (write refuses? page progress).error = none) :
    Written progress.fs page.path (.text page.content) (write refuses? page progress).fs := by
  unfold write at h ⊢
  split at h
  . cases h
  . next made hmade =>
    dsimp only at h ⊢
    split at h
    . cases h
    . next after hwrite => exact Written.of_writeFile hmade hwrite

theorem writtenAll_of_deliverAll (hreal : o.dryRun = none)
    (h : (deliverAll o pages progress).error = none) :
    WrittenAll progress.fs pages (deliverAll o pages progress).fs := by
  induction pages generalizing progress with
  | nil => exact .nil
  | cons page pages ih =>
    obtain ⟨hpage, hrest⟩ := error_of_deliverAll_cons h
    rw [deliverAll_cons_of_none hpage]
    refine .cons ?_ (ih hrest)
    rw [deliver_real hreal] at hpage ⊢
    exact written_of_write hpage

namespace WrittenAll

theorem workingDirectory (h : WrittenAll fs pages after) :
    after.workingDirectory = fs.workingDirectory := by
  induction h with
  | nil => rfl
  | cons hfirst _ ih => rw [ih, hfirst.workingDirectory]

theorem unreadable (h : WrittenAll fs pages after) : after.unreadable = fs.unreadable := by
  induction h with
  | nil => rfl
  | cons hfirst _ ih => rw [ih, hfirst.unreadable]

theorem get? (h : WrittenAll fs pages after) :
    after.get? =
      pages.foldl
        (fun files page => place fs.workingDirectory files page.path (.text page.content)) fs.get? := by
  induction h with
  | nil => rfl
  | cons hfirst _ ih => rw [ih, List.foldl_cons, hfirst.get?, hfirst.workingDirectory]

theorem get?_directory {l : Location} (h : WrittenAll fs pages after)
    (hl : fs.get? l = some .directory) : after.get? l = some .directory := by
  induction h with
  | nil => exact hl
  | cons hfirst _ ih => exact ih (hfirst.kept l hl)

theorem get?_of_forall_ne {l : Location} {e : Entry} (h : WrittenAll fs pages after)
    (hl : fs.get? l = some e)
    (hne : ∀ page ∈ pages, destination fs.workingDirectory page.path ≠ l) :
    after.get? l = some e := by
  induction h with
  | nil => exact hl
  | cons hfirst _ ih =>
    rw [List.forall_mem_cons] at hne
    apply ih (hfirst.get?_of_ne hl hne.1)
    rw [hfirst.workingDirectory]
    exact hne.2

theorem find_of_forall_ne {p : Text} {e : Entry} (h : WrittenAll fs pages after)
    (hfind : fs.find p = .ok e)
    (hne : ∀ page ∈ pages,
      destination fs.workingDirectory page.path ≠ destination fs.workingDirectory p) :
    after.find p = .ok e := by
  obtain ⟨hp, hway, hget⟩ := find_eq_ok_iff_destination.mp hfind
  rw [find_eq_ok_iff_destination, h.workingDirectory]
  refine ⟨hp, ?_, h.get?_of_forall_ne hget hne⟩
  intro d hd
  exact h.get?_directory (hway d hd)

theorem readFile_of_forall_ne {p text : Text} (h : WrittenAll fs pages after)
    (hread : fs.readFile p = .ok text)
    (hne : ∀ page ∈ pages,
      destination fs.workingDirectory page.path ≠ destination fs.workingDirectory p) :
    after.readFile p = .ok text := by
  obtain ⟨⟨contents, hfind, hbytes⟩, hreadable⟩ := readFile_eq_ok_iff.mp hread
  rw [readFile_eq_ok_iff, h.workingDirectory, h.unreadable]
  exact ⟨⟨contents, h.find_of_forall_ne hfind hne, hbytes⟩, hreadable⟩

theorem find_of_last {before others : List Page} {page : Page}
    (h : WrittenAll fs (before ++ page :: others) after)
    (hne : ∀ other ∈ others,
      destination fs.workingDirectory other.path ≠ destination fs.workingDirectory page.path) :
    after.find page.path = .ok (.file (.text page.content)) := by
  induction before generalizing fs with
  | nil =>
    cases h with
    | cons hfirst hrest =>
      apply hrest.find_of_forall_ne hfirst.find
      rw [hfirst.workingDirectory]
      exact hne
  | cons first before ih =>
    cases h with
    | cons hfirst hrest =>
      apply ih hrest
      rw [hfirst.workingDirectory]
      exact hne

end WrittenAll

namespace Rendered

variable {outcome : Outcome}

theorem printed {s : Stream} (h : Rendered m o fs passes pages outcome) (hdry : o.dryRun = some s)
    (hsucceeded : outcome.error = none) :
    outcome.fs = fs ∧ outcome.output = pages.flatMap Generate.printed := by
  obtain ⟨records, rfl⟩ := h.exists_eq_complete
  rw [complete_eq_deliverAll (by simp [hdry])] at hsucceeded ⊢
  exact deliverAll_dry hdry hsucceeded

theorem written (h : Rendered m o fs passes pages outcome) (hreal : o.dryRun = none)
    (hformats : o.formats = false) (hsucceeded : outcome.error = none) :
    WrittenAll fs pages outcome.fs := by
  obtain ⟨records, rfl⟩ := h.exists_eq_complete
  rw [complete_eq_deliverAll (by simp [hformats])] at hsucceeded ⊢
  exact writtenAll_of_deliverAll hreal hsucceeded

end Rendered

/--
If a dry run and a real run without formatter both succeed, in whatever order their passes take their
steps, they are about the same pages, in the order of the passes. The dry run prints them and changes no
file. The real run ends with the file system that has each page put at its path, one after the other:
the last page at a place is what lies there, and what lies at a place of no page is as before, the
sources among it. The layouts of the messages must not show where a run has its values in memory, or
both runs must have them at the same place.
-/
theorem dry_run_prints_what_real_run_writes (m : Manifest) (fs : FileSystem) (passes : List Text)
    (dry real : Options) (stream : Stream) (shown written : Outcome)
    (hdry : dry.dryRun = some stream) (hreal : real.dryRun = none) (hformats : real.formats = false)
    (hlayout : Schedule.SameLayouts m fs passes dry.platform.engine real.platform.engine)
    (hshown : shown = run m dry fs passes ∨ Schedule.Ends m dry fs passes shown)
    (hwritten : written = run m real fs passes ∨ Schedule.Ends m real fs passes written)
    (hdrySucceeds : shown.error = none) (hrealSucceeds : written.error = none) :
    ∃ pages : List Page,
      renderAll m fs false (requests m dry.platform.engine passes) = .ok pages
        ∧ renderAll m fs false (requests m real.platform.engine passes) = .ok pages
        ∧ shown.output =
            pages.flatMap (fun page => Text.ofString "==> " ++ page.path ++ Text.ofString " <=="
              ++ [Text.lf] ++ page.content ++ [Text.lf])
        ∧ shown.fs = fs
        ∧ written.fs.workingDirectory = fs.workingDirectory
        ∧ written.fs.unreadable = fs.unreadable
        ∧ written.fs.get? =
            pages.foldl (fun files page =>
              place fs.workingDirectory files page.path (.text page.content)) fs.get?
        ∧ (∀ before page others, pages = before ++ page :: others →
            (∀ other ∈ others,
              destination fs.workingDirectory other.path ≠ destination fs.workingDirectory page.path) →
            written.fs.find page.path = .ok (.file (.text page.content)))
        ∧ (∀ l e, fs.get? l = some e →
            (∀ page ∈ pages, destination fs.workingDirectory page.path ≠ l) →
            written.fs.get? l = some e)
        ∧ (∀ path text, fs.readFile path = .ok text →
            (∀ page ∈ pages,
              destination fs.workingDirectory page.path ≠ destination fs.workingDirectory path) →
            written.fs.readFile path = .ok text) := by
  obtain ⟨pages, hrendered⟩ := Rendered.of_succeeded hshown hdrySucceeds
  obtain ⟨others, hothers⟩ := Rendered.of_succeeded hwritten hrealSucceeds
  have hpages := renderAll_eq_ok_of_cancelled hrendered.renderAll_eq
  have hsame := renderAll_eq_ok_of_cancelled hothers.renderAll_eq
  have halike := Schedule.renderAll_alike hlayout false
  obtain rfl : pages = others := by
    rw [halike, hsame] at hpages
    exact (Except.ok.inj hpages).symm
  obtain ⟨hfs, houtput⟩ := hrendered.printed hdry hdrySucceeds
  have hall := hothers.written hreal hformats hrealSucceeds
  refine ⟨pages, hpages, hsame, ?_, hfs, hall.workingDirectory, hall.unreadable, hall.get?, ?_, ?_, ?_⟩
  . rw [houtput, printed_eq]
  . rintro before page others rfl hne
    exact hall.find_of_last hne
  . intro l e hl hne
    exact hall.get?_of_forall_ne hl hne
  . intro path text hread hne
    exact hall.readFile_of_forall_ne hread hne

def overlapping : Manifest where
  messages := some { source := "m.rs", output := "out/x.md", template := "m.tmpl" }
  functions := some { source := "f.rs", output := "/w/out/../out/x.md" }

def twoFiles : FileSystem where
  workingDirectory := ["w"]
  entries :=
    [(["w"], .directory),
     (["w", "m.rs"], .file (.text "pub enum ExternalMsg \x7b\n\x7d\n")),
     (["w", "f.rs"], .file (.text "/// x\npub fn f() \x7b\x7d\n")),
     (["w", "m.tmpl"], .file (.text "Messages:\n\x7b\x7b.Messages\x7d\x7d"))]

def overlaidPage : Page where
  pass := .messages
  name := "messages"
  path := "out/x.md"
  content := "Messages:\n"

def overlappingPage : Page where
  pass := .functions
  name := "functions"
  path := "/w/out/../out/x.md"
  content := "\n### f\n\nx\n"

def dryOptions : Options where
  dryRun := some .working

def realOptions : Options where
  formats := false
  platform := { engine := Template.write? }

theorem overlapping_prints_what_it_writes :
    (run overlapping dryOptions twoFiles []).error = none
      ∧ (run overlapping realOptions twoFiles []).error = none
      ∧ Schedule.SameLayouts overlapping twoFiles [] dryOptions.platform.engine
          realOptions.platform.engine
      ∧ (run overlapping dryOptions twoFiles []).fs = twoFiles
      ∧ (run overlapping realOptions twoFiles []).fs.find "/w/out/../out/x.md" =
          .ok (.file (.text "\n### f\n\nx\n"))
      ∧ (run overlapping realOptions twoFiles []).fs.get? ["w", "out"] = some .directory
      ∧ (run overlapping realOptions twoFiles []).fs.readFile "f.rs" =
          .ok "/// x\npub fn f() \x7b\x7d\n" := by
  have hdry : (run overlapping dryOptions twoFiles []).error = none := by
    decide +kernel
  have hreal : (run overlapping realOptions twoFiles []).error = none := by
    decide +kernel
  have hlayout : Schedule.SameLayouts overlapping twoFiles [] dryOptions.platform.engine
      realOptions.platform.engine := by
    have htemplate : twoFiles.readFile (overlapping.path "m.tmpl") =
        .ok "Messages:\n\x7b\x7b.Messages\x7d\x7d" := by
      decide +kernel
    intro entry _
    apply SameLayout.of_isPlain
    intro e layout hentry hlayout
    cases hentry
    cases htemplate.symm.trans hlayout
    decide +kernel
  have hall : renderAll overlapping twoFiles false (requests overlapping dryOptions.platform.engine []) =
      .ok [overlaidPage, overlappingPage] := by
    decide +kernel
  obtain ⟨pages, hpages, -, -, hfs, -, -, hget, hlast, -, hkept⟩ :=
    dry_run_prints_what_real_run_writes overlapping twoFiles [] dryOptions realOptions .working _ _
      rfl rfl rfl hlayout (.inl rfl) (.inl rfl) hdry hreal
  rw [hall, Except.ok.injEq] at hpages
  subst hpages
  refine ⟨hdry, hreal, hlayout, hfs, ?_, ?_, ?_⟩
  . exact hlast [overlaidPage] overlappingPage [] rfl (by simp)
  . rw [hget]
    decide +kernel
  . apply hkept
    . decide +kernel
    . decide +kernel

end Generate

end Commentary
