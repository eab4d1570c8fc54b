import Commentary.CommandLine.Run
import Commentary.Proofs.FileSystem.Keep
import Commentary.Proofs.Generate.Interruption

/-!
This module contains what the commands leave in place: none of them removes a file or a directory, and
none of them writes a profile, unless the formatter does. A formatter that runs scripts does not, as is
shown step by step through its script.
-/

namespace Commentary

open FileSystem

/--
The formatter neither removes anything nor writes a profile.
-/
def Formatter.Keeping (formatter : Formatter) : Prop :=
  ∀ fs directory program arguments, Keeps fs (formatter fs directory program arguments).fs

namespace Shell

variable {s next : State} {out err : Sink}

theorem keeps_write (s : State) (t : Text) (sink : Sink) : Keeps s.fs (s.write t sink).fs := by
  cases sink with
  | none => exact .refl _
  | some path =>
    unfold State.write
    dsimp only
    split
    . next hwrite => exact .of_writeFile hwrite
    . exact .refl _

theorem keeps_redirect {redirections : List (Nat × Destination)} {sinks : Sink × Sink}
    (h : redirect s out err redirections = .ok (next, sinks)) : Keeps s.fs next.fs := by
  induction redirections generalizing s out err with
  | nil =>
    cases h
    exact .refl _
  | cons first redirections ih =>
    obtain ⟨number, destination⟩ := first
    cases destination with
    | sameAs stream => exact ih h
    | append path => exact (keeps_write s [] (some path)).trans (ih h)
    | create path =>
      rw [redirect] at h
      dsimp only at h
      split at h
      . next hwrite => exact (Keeps.of_writeFile hwrite).trans (ih h)
      . cases h

theorem keeps_cat (s : State) (paths : List Text) : Keeps s.fs (cat out err s paths).fs := by
  induction paths generalizing s with
  | nil => exact .refl _
  | cons path paths ih =>
    rw [cat]
    split
    . apply (keeps_write s _ out).trans
      apply ih
    . apply (keeps_write s _ err).trans
      exact ih { s.write _ err with status := 1 }

theorem keeps_step (s : State) (c : Connective × Command) : Keeps s.fs (step s c).fs := by
  unfold step
  extract_lets due
  split
  . exact .refl _
  . split
    . next e _ => exact keeps_write s (complaint e) none
    . next next out err hredirect =>
      have hopened := keeps_redirect hredirect
      split
      . exact hopened
      . split_ifs
        . exact hopened.trans (keeps_write next _ out)
        . exact hopened.trans (keeps_cat { next with status := 0 } _)
        . exact hopened
        . exact hopened
        . exact hopened
        . exact hopened.trans (keeps_write next _ err)

theorem keeps_foldl_step (s : State) (commands : List (Connective × Command)) :
    Keeps s.fs (commands.foldl step s).fs := by
  induction commands generalizing s with
  | nil => exact .refl _
  | cons c commands ih => exact (keeps_step s c).trans (ih (step s c))

theorem keeps_runScript (fs : FileSystem) (script : Text) : Keeps fs (runScript fs script).fs := by
  unfold runScript
  split
  . exact keeps_foldl_step { fs } _
  . exact .refl _

theorem keeping_run : Formatter.Keeping run := by
  intro fs directory program arguments
  unfold run
  split
  . exact .refl _
  . split
    . exact .refl _
    . dsimp only
      split
      . exact .refl _
      . next location _ _ =>
        split
        . next script _ =>
          split
          -- The script runs in another working directory, which no location depends on.
          . have h := keeps_runScript { fs with workingDirectory := location } script
            constructor
            . rfl
            . exact h.directory
            . exact h.file
            . exact h.profile
          . exact .refl _
        . exact .refl _
      . exact .refl _

end Shell

namespace Generate

theorem keeps_write (refuses? : Refusals) (page : Page) (progress : Progress) :
    Keeps progress.fs (write refuses? page progress).fs := by
  obtain ⟨done, -, hmade, -⟩ := Made.exists_makeDirectories
    (fun directory => refuses? (.makeDirectory progress.delivered directory)) progress.fs
    (Path.parent page.path)
  replace hmade := Keeps.of_made hmade
  unfold write
  split
  . next heq =>
    rw [heq] at hmade
    exact hmade
  . next heq =>
    rw [heq] at hmade
    dsimp only
    split
    . exact hmade
    . next hwrite => exact hmade.trans (.of_writeFile hwrite)

theorem keeps_deliver (o : Options) (page : Page) (progress : Progress) :
    Keeps progress.fs (deliver o page progress).fs := by
  cases hdry : o.dryRun with
  | none =>
    rw [deliver_real hdry]
    apply keeps_write
  | some stream =>
    rw [deliver_dry hdry, print]
    split
    . exact .refl _
    . exact .refl _

theorem keeps_deliverAll (o : Options) (pages : List Page) (progress : Progress) :
    Keeps progress.fs (deliverAll o pages progress).fs := by
  induction pages generalizing progress with
  | nil => exact .refl _
  | cons page pages ih =>
    have hfirst := keeps_deliver o page progress
    cases herror : (deliver o page progress).error with
    | some e =>
      rw [deliverAll_cons_of_some herror]
      exact hfirst
    | none =>
      rw [deliverAll_cons_of_none herror]
      exact hfirst.trans (ih _)

section

variable {o : Options}

theorem keeps_format {formatter : Formatter} (hformatter : formatter.Keeping) (m : Manifest)
    (progress : Progress) : Keeps progress.fs (format formatter m progress).fs := by
  unfold format
  split
  . exact .refl _
  . apply hformatter

theorem keeps_complete (hformatter : o.platform.formatter.Keeping) (m : Manifest) (pages : List Page)
    (progress : Progress) : Keeps progress.fs (complete m o pages progress).fs := by
  have hdelivered := keeps_deliverAll o pages progress
  unfold complete
  dsimp only
  split
  . exact hdelivered
  . split
    . exact hdelivered.trans (keeps_format hformatter m _)
    . exact hdelivered

theorem keeps_run (hformatter : o.platform.formatter.Keeping) (m : Manifest) (fs : FileSystem)
    (passes : List Text) : Keeps fs (run m o fs passes).fs := by
  cases hall : renderAll m fs o.cancelled (requests m o.platform.engine passes) with
  | error e =>
    rw [run_of_renderAll_eq_error hall]
    exact .refl _
  | ok pages =>
    rw [run_of_renderAll_eq_ok hall]
    exact keeps_complete hformatter m pages { fs, records := _ }

end

end Generate

namespace CommandLine

variable {i : Invocation} {fs : FileSystem}

@[simp]
theorem Result.fs_print (t : Text) : (Result.print i fs t).fs = fs := by
  unfold Result.print
  split <;> rfl

@[simp]
theorem Result.fs_tryPrint (t : Text) : (Result.tryPrint i fs t).fs = fs := by
  unfold Result.tryPrint
  split <;> rfl

theorem keeps_generate (hformatter : i.platform.formatter.Keeping) (h : Log.Handler)
    (o : GenerateOptions) (passes : List Text) (fs : FileSystem) :
    Keeps fs (generate i h o passes fs).fs := by
  unfold generate
  split
  . exact .refl _
  . exact Generate.keeps_run hformatter _ fs passes

theorem fs_render (i : Invocation) (h : Log.Handler) (o : GenerateOptions) (pass target path : Text)
    (fs : FileSystem) : (render i h o pass target path fs).fs = fs := by
  unfold render
  split
  . rfl
  . apply Result.fs_print

theorem keeps_perform (hformatter : i.platform.formatter.Keeping) (h : Log.Handler) (c : Command)
    (flags : FlagSet) (arguments : List Text) (fs : FileSystem) :
    Keeps fs (perform i h c flags arguments fs).fs := by
  unfold perform
  split
  . exact keeps_generate hformatter h _ _ fs
  . rw [fs_render]
    exact .refl _
  . rw [Result.fs_print]
    exact .refl _
  . rw [Result.fs_print]
    exact .refl _
  . unfold help
    split <;> simp [Keeps.refl]
  . simp [complete, Keeps.refl]
  . exact .refl _

end CommandLine

end Commentary
