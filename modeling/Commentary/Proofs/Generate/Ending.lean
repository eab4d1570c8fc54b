import Commentary.Proofs.Generate.Concurrent

/-!
This module contains the ends of a run: what it has done when the passes took their steps in some order.
If the passes succeed, their pages do not depend on that order.
-/

namespace Commentary

namespace Generate

variable {m : Manifest} {o : Options} {fs : FileSystem} {passes : List Text} {pages : List Page}
  {outcome : Outcome}

theorem exists_renderAll_eq_error {cancelled : Bool} {rs : List Request} {r : Request} {cause : Error}
    (hr : r ∈ rs) (hcause : render m fs cancelled r = .error cause) :
    ∃ first ∈ rs, ∃ reason, render m fs cancelled first = .error reason
      ∧ renderAll m fs cancelled rs = .error (.passFailed first.name reason) := by
  unfold renderAll
  induction rs with
  | nil => cases hr
  | cons first rs ih =>
    cases hfirst : render m fs cancelled first with
    | error reason =>
      refine ⟨first, List.mem_cons_self, reason, hfirst, ?_⟩
      rw [List.mapM_cons, renderPass, hfirst]
      rfl
    | ok pages =>
      have hrest : r ∈ rs := by
        rcases List.mem_cons.mp hr with rfl | hrest
        . rw [hcause] at hfirst
          cases hfirst
        . exact hrest
      obtain ⟨other, hother, reason, hreason, hall⟩ := ih hrest
      refine ⟨other, List.mem_cons_of_mem first hother, reason, hreason, ?_⟩
      rw [List.mapM_cons, renderPass, hfirst]
      cases heach : rs.mapM (renderPass m fs cancelled) with
      | error e =>
        rw [heach] at hall
        cases hall
        rfl
      | ok each =>
        rw [heach] at hall
        cases hall

theorem renderAll_ne_ok {cancelled : Bool} {rs : List Request} {r : Request} {cause : Error}
    (hr : r ∈ rs) (hcause : render m fs cancelled r = .error cause) :
    renderAll m fs cancelled rs ≠ .ok pages := by
  obtain ⟨first, -, reason, -, hall⟩ := exists_renderAll_eq_error hr hcause
  rw [hall]
  simp

def complete (m : Manifest) (o : Options) (pages : List Page) (progress : Progress) : Outcome :=
  let outcome := deliverAll o pages progress
  match outcome.error with
  | some _ => outcome
  | none =>
    if o.dryRun.isNone ∧ o.formats then
      { format o.platform.formatter m outcome.toProgress with }
    else
      outcome

theorem run_of_renderAll_eq_error {e : Error}
    (h : renderAll m fs o.cancelled (requests m o.platform.engine passes) = .error e) :
    run m o fs passes = { fs, error := some e } := by
  unfold run
  dsimp only
  rw [h]

theorem run_of_renderAll_eq_ok
    (h : renderAll m fs o.cancelled (requests m o.platform.engine passes) = .ok pages) :
    run m o fs passes =
      complete m o pages
        { fs, records := (requests m o.platform.engine passes).flatMap (passRecords m fs) } := by
  unfold run
  dsimp only
  rw [h]
  rfl

theorem renderAll_eq_ok_of_cancelled {cancelled : Bool} {rs : List Request}
    (h : renderAll m fs cancelled rs = .ok pages) : renderAll m fs false rs = .ok pages := by
  cases cancelled with
  | false => exact h
  | true =>
    cases rs with
    | nil => exact h
    | cons r rs =>
      obtain ⟨cause, hcause⟩ := exists_render_eq_error_of_cancelled m fs r
      exact absurd h (renderAll_ne_ok List.mem_cons_self hcause)

theorem complete_eq_deliverAll {progress : Progress} (h : ¬ (o.dryRun.isNone ∧ o.formats)) :
    complete m o pages progress = deliverAll o pages progress := by
  unfold complete
  dsimp only
  rw [if_neg h]
  split
  . rfl
  . rfl

namespace Schedule

/--
The end of a run whose workers have all finished. What they have logged by then depends on the order of
their steps.
-/
def State.conclude (m : Manifest) (o : Options) (records : List Log.Record) (s : State) : Outcome :=
  match s.error with
  | some e => { fs := s.fs, records, error := some e }
  | none => complete m o (s.workers.flatMap (·.2.pages)) { fs := s.fs, records }

def Ends (m : Manifest) (o : Options) (fs : FileSystem) (passes : List Text) (outcome : Outcome) :
    Prop :=
  ∃ s records, Reaches m o (State.initial m o fs passes) s
    ∧ s.phase = .rendering ∧ s.Finished ∧ outcome = s.conclude m o records

end Schedule

/--
The run ends like this after a rendering that gave the pages, with the passes one after the other or in
some order of their steps.
-/
inductive Rendered (m : Manifest) (o : Options) (fs : FileSystem) (passes : List Text)
    (pages : List Page) (outcome : Outcome) : Prop where
  | alone (hpages : renderAll m fs o.cancelled (requests m o.platform.engine passes) = .ok pages)
      (houtcome : outcome = run m o fs passes)
  | scheduled {s : Schedule.State} {records : List Log.Record}
      (hreaches : Schedule.Reaches m o (Schedule.State.initial m o fs passes) s)
      (hphase : s.phase = .rendering) (hfinished : s.Finished) (herror : s.error = none)
      (hpages : pages = s.workers.flatMap (·.2.pages)) (houtcome : outcome = s.conclude m o records)

namespace Rendered

theorem renderAll_eq (h : Rendered m o fs passes pages outcome) :
    renderAll m fs o.cancelled (requests m o.platform.engine passes) = .ok pages := by
  cases h with
  | alone hpages => exact hpages
  | scheduled hreaches _ hfinished herror hpages =>
    have hconsistent := Schedule.Consistent.of_reaches hreaches
    rw [hpages, List.flatMap_def]
    exact Schedule.renderAll_of_forall₂ (hconsistent.forall₂_pages hfinished herror)

theorem exists_eq_complete (h : Rendered m o fs passes pages outcome) :
    ∃ records, outcome = complete m o pages { fs, records } := by
  cases h with
  | alone hpages houtcome => exact ⟨_, houtcome.trans (run_of_renderAll_eq_ok hpages)⟩
  | @scheduled s records hreaches hphase _ herror hpages houtcome =>
    have hconsistent := Schedule.Consistent.of_reaches hreaches
    refine ⟨records, ?_⟩
    rw [houtcome, Schedule.State.conclude, herror, hconsistent.files hphase, hpages]

theorem of_succeeded (hends : outcome = run m o fs passes ∨ Schedule.Ends m o fs passes outcome)
    (hsucceeded : outcome.error = none) : ∃ pages, Rendered m o fs passes pages outcome := by
  rcases hends with rfl | ⟨s, records, hreaches, hphase, hfinished, rfl⟩
  . cases hall : renderAll m fs o.cancelled (requests m o.platform.engine passes) with
    | error e =>
      rw [run_of_renderAll_eq_error hall] at hsucceeded
      cases hsucceeded
    | ok pages => exact ⟨pages, .alone hall rfl⟩
  . cases herror : s.error with
    | some e =>
      rw [Schedule.State.conclude, herror] at hsucceeded
      cases hsucceeded
    | none => exact ⟨_, .scheduled hreaches hphase hfinished herror rfl rfl⟩

end Rendered

end Generate

end Commentary
