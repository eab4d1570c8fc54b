import Commentary.Proofs.Generate.Ending

/-!
This module contains what a run leaves behind if one of its passes cannot be rendered: the failure of a
pass and nothing else, whatever the other passes do and in whatever order they finish.
-/

namespace Commentary

namespace Generate

/--
The run has failed for the reason of a pass and has done nothing else. `interrupted` is whether the
caller has cancelled it on the way.
-/
structure NoTrace (m : Manifest) (o : Options) (fs : FileSystem) (passes : List Text)
    (interrupted : Bool) (outcome : Outcome) : Prop where
  files : outcome.fs = fs
  output : outcome.output = []
  error : ∃ r ∈ requests m o.platform.engine passes, ∃ cause,
    (Fails m fs o.cancelled r cause ∨ (cause = .cancelled ∧ interrupted = true))
      ∧ outcome.error = some (.passFailed r.name cause)
      ∧ Error.message (.passFailed r.name cause) =
          Text.ofString "pass failed: " ++ r.name ++ Text.ofString ": " ++ cause.message

variable {m : Manifest} {o : Options} {fs : FileSystem} {passes : List Text} {r : Request}
  {cause : Error}

theorem fails_of_render_eq
    (hpanic : ∀ r ∈ requests m o.platform.engine passes, ¬ Panics m fs o.cancelled r)
    (hr : r ∈ requests m o.platform.engine passes) (hcause : render m fs o.cancelled r = .error cause) :
    Fails m fs o.cancelled r cause := by
  rcases fails_or_panics hcause with hfails | ⟨hpanics, -⟩
  . exact hfails
  . exact absurd hpanics (hpanic r hr)

theorem noTrace_run
    (hpanic : ∀ r ∈ requests m o.platform.engine passes, ¬ Panics m fs o.cancelled r)
    (hr : r ∈ requests m o.platform.engine passes) (hfails : Fails m fs o.cancelled r cause) :
    NoTrace m o fs passes false (run m o fs passes) := by
  obtain ⟨first, hfirst, reason, hreason, hall⟩ := exists_renderAll_eq_error hr hfails.render_eq
  rw [run_of_renderAll_eq_error hall]
  constructor
  . rfl
  . rfl
  . exact ⟨first, hfirst, reason, .inl (fails_of_render_eq hpanic hfirst hreason), rfl, rfl⟩

namespace Schedule

variable {s t : State}

def State.Failing (s : State) : Prop :=
  ∃ entry ∈ s.workers, ∃ cause,
    entry.2 = .returned (.error cause) ∨ entry.2 = .done (.error cause)

/--
A pass has failed in the run so far, or one will because it does alone.
-/
def Doomed (m : Manifest) (o : Options) (fs : FileSystem) (passes : List Text) (s : State) : Prop :=
  s.Failing ∨ ∃ r ∈ requests m o.platform.engine passes, ∃ cause, Fails m fs o.cancelled r cause

theorem phase_eq_rendering_of_step (hstep : Step m o s t) (hphase : s.phase = .rendering)
    (hfinished : ¬ s.Finished) : t.phase = .rendering := by
  cases hstep with
  | work | report | cancel | interrupt => exact hphase
  | wait _ hend => exact absurd hend hfinished
  | deliver hdelivering =>
    rw [hphase] at hdelivering
    cases hdelivering

theorem fs_eq_of_reaches (hreaches : Reaches m o (State.initial m o fs passes) s)
    (hnot : ∀ pages, s.phase ≠ .delivering pages) : s.fs = fs := by
  -- Only the delivery changes files, and no step ends it.
  induction hreaches with
  | refl => rfl
  | tail _ hstep ih =>
    cases hstep with
    | work | report | cancel | interrupt => exact ih hnot
    | wait hphase => exact ih (by simp [hphase])
    | deliver hdelivering => exact absurd hdelivering (hnot _)

namespace Consistent

theorem exists_reaches_finished (h : Consistent m o fs passes s)
    (hpanic : ∀ r ∈ requests m o.platform.engine passes,
      render m fs o.cancelled r ≠ .error .declarationWithoutName)
    (hphase : s.phase = .rendering) :
    ∃ t, Reaches m o s t ∧ t.phase = .rendering ∧ t.Finished := by
  induction hremaining : s.remaining using Nat.strongRecOn generalizing s with
  | ind n ih =>
    by_cases hfinished : s.Finished
    . exact ⟨s, .refl, hphase, hfinished⟩
    . obtain ⟨t, hstep⟩ := h.exists_step hpanic hphase
      have hless := remaining_lt_of_step (by simp [hphase]) hstep
      have hnext := phase_eq_rendering_of_step hstep hphase hfinished
      obtain ⟨u, hreaches, hend⟩ := ih t.remaining (by omega) (h.step hstep) hnext rfl
      exact ⟨u, .head hstep hreaches, hend⟩

theorem error_isSome (h : Consistent m o fs passes s) (hdoomed : Doomed m o fs passes s)
    (hfinished : s.Finished) : s.error.isSome := by
  rcases hdoomed with ⟨entry, hmem, cause, hreturned | hdone⟩ | ⟨r, hr, cause, hfails⟩
  . obtain ⟨result, hdone⟩ := hfinished entry hmem
    rw [hreturned] at hdone
    cases hdone
  . exact h.reported entry hmem cause hdone
  . cases herror : s.error with
    | some e => rfl
    | none =>
      obtain ⟨pages, hpages⟩ := exists_of_forall₂ (h.forall₂_pages hfinished herror) r hr
      rw [hfails.render_eq] at hpages
      cases hpages

theorem not_delivering (h : Consistent m o fs passes s) (hdoomed : Doomed m o fs passes s)
    (pages : List Page) : s.phase ≠ .delivering pages := by
  intro hphase
  have hend : s.phase ≠ .rendering := by
    simp [hphase]
  have hsome := h.error_isSome hdoomed (h.settled hend).1
  rcases h.verdict_of_phase_ne hend with ⟨e, -, hfailed⟩ | ⟨herror, -⟩
  . rw [hphase] at hfailed
    cases hfailed
  . rw [herror] at hsome
    cases hsome

theorem noTrace_conclude (h : Consistent m o fs passes s)
    (hpanic : ∀ r ∈ requests m o.platform.engine passes, ¬ Panics m fs o.cancelled r)
    (hfs : s.fs = fs) (hsome : s.error.isSome) (records : List Log.Record) :
    NoTrace m o fs passes s.interrupted (s.conclude m o records) := by
  obtain ⟨e, herror⟩ := Option.isSome_iff_exists.mp hsome
  obtain ⟨r, hr, cause, rfl, hcause⟩ := h.genuine e herror
  unfold State.conclude
  rw [herror]
  refine ⟨hfs, rfl, r, hr, cause, ?_, rfl, rfl⟩
  rcases hcause with halone | hinterrupted
  . exact .inl (fails_of_render_eq hpanic hr halone)
  . exact .inr hinterrupted

end Consistent

/--
If a pass fails and none ends the program, then the run fails for the reason of such a pass, in whatever
order the passes take their steps. The pass may fail alone, or only in this run because the caller
cancelled it on the way. Every order comes to that end. Nothing has been written by then, neither to a
file nor to the stream of a dry run, and no state on the way delivers anything.
-/
theorem failing_pass_leaves_no_trace (m : Manifest) (o : Options) (fs : FileSystem)
    (passes : List Text)
    (hpanic : ∀ r ∈ requests m o.platform.engine passes, ¬ Panics m fs o.cancelled r) :
    ((∃ r ∈ requests m o.platform.engine passes, ∃ cause, Fails m fs o.cancelled r cause) →
        NoTrace m o fs passes false (run m o fs passes))
      ∧ ∀ s, Reaches m o (State.initial m o fs passes) s → Doomed m o fs passes s →
          s.fs = fs
            ∧ (∀ pages, s.phase ≠ .delivering pages)
            ∧ (∀ t, Step m o s t → t.remaining < s.remaining)
            ∧ (s.phase = .rendering →
                (∃ t, Step m o s t) ∧ ∃ t, Reaches m o s t ∧ t.phase = .rendering ∧ t.Finished)
            ∧ (s.Finished → ∀ records, NoTrace m o fs passes s.interrupted (s.conclude m o records)) := by
  have hrender : ∀ r ∈ requests m o.platform.engine passes,
      render m fs o.cancelled r ≠ .error .declarationWithoutName := by
    intro r hr
    exact not_panics_iff.mp (hpanic r hr)
  refine ⟨?_, ?_⟩
  . rintro ⟨r, hr, cause, hfails⟩
    exact noTrace_run hpanic hr hfails
  . intro s hreaches hdoomed
    have h := Consistent.of_reaches hreaches
    have hnot := h.not_delivering hdoomed
    have hfs := fs_eq_of_reaches hreaches hnot
    refine ⟨hfs, hnot, ?_, ?_, ?_⟩
    . intro t hstep
      exact remaining_lt_of_step hnot hstep
    . intro hphase
      exact ⟨h.exists_step hrender hphase, h.exists_reaches_finished hrender hphase⟩
    . intro hfinished records
      exact h.noTrace_conclude hpanic hfs (h.error_isSome hdoomed hfinished) records

def templateMissing : Manifest where
  messages := some { source := "m.rs", output := "m.md", template := "m.tmpl" }
  functions := some { source := "f.rs", output := "f.md" }

def twoSources : FileSystem where
  entries :=
    [(["m.rs"], .file (.text "pub enum ExternalMsg \x7b\n\x7d\n")),
     (["f.rs"], .file (.text "/// x\npub fn f() \x7b\x7d\n"))]

def messagesRequest : Request where
  name := "messages"
  engine := Template.standard

def interruptedEarly : State where
  fs := oneSource
  workers := [(functionsRequest, .done (.error .cancelled))]
  error := some (.passFailed "functions" .cancelled)
  cancelled := true
  interrupted := true

theorem reaches_interruptedEarly :
    Reaches functionsOnly {} (State.initial functionsOnly {} oneSource ["functions"])
      interruptedEarly := by
  refine .head (@Step.work _ _ _ [] [] functionsRequest .waiting _ rfl rfl) ?_
  refine .head (Step.interrupt rfl) ?_
  refine .head (@Step.work _ _ _ [] [] functionsRequest _ _ rfl rfl) ?_
  exact .single (@Step.report _ _ _ [] [] functionsRequest _ rfl)

theorem failures_leave_no_trace :
    (∀ r ∈ requests templateMissing (Platform.engine {}) [], ¬ Panics templateMissing twoSources false r)
      ∧ (∃ pages, render templateMissing twoSources false functionsRequest = .ok pages)
      ∧ messagesRequest ∈ requests templateMissing (Platform.engine {}) []
      ∧ Fails templateMissing twoSources false messagesRequest
          (.templateFile ⟨"open", "m.tmpl", .notFound⟩)
      ∧ (run templateMissing { dryRun := some .working } twoSources []).output = []
      ∧ (run templateMissing {} twoSources []).fs = twoSources
      ∧ (∃ pages, render functionsOnly oneSource false functionsRequest = .ok pages)
      ∧ interruptedEarly.Failing
      ∧ NoTrace functionsOnly {} oneSource ["functions"] true
          (interruptedEarly.conclude functionsOnly {} []) := by
  have hpanic : ∀ r ∈ requests templateMissing (Platform.engine {}) [],
      ¬ Panics templateMissing twoSources false r := by
    intro r hr hpanics
    have hpass : ∀ name ∈ requested templateMissing [], Pass.ofName? name ≠ some .configuration := by
      decide +kernel
    obtain ⟨⟨name, i⟩, hname, rfl⟩ := List.mem_map.mp hr
    exact hpass name (List.fst_mem_of_mem_zipIdx hname) hpanics.configuration
  have hfunctions : ∀ r ∈ requests functionsOnly (Platform.engine {}) ["functions"],
      ¬ Panics functionsOnly oneSource false r := by
    rintro r hr hpanics
    cases List.mem_singleton.mp hr
    cases hpanics.configuration
  have hfails : Fails templateMissing twoSources false messagesRequest
      (.templateFile ⟨"open", "m.tmpl", .notFound⟩) := by
    have hsource : twoSources.readFile (templateMissing.path "m.rs") =
        .ok "pub enum ExternalMsg \x7b\n\x7d\n" := by
      decide +kernel
    refine .template ?_ rfl rfl hsource ?_ ?_
    all_goals decide +kernel
  have hrequested : messagesRequest ∈ requests templateMissing (Platform.engine {}) [] := by
    exact List.mem_cons_self
  have hfailing : interruptedEarly.Failing := by
    exact ⟨_, List.mem_cons_self, .cancelled, .inr rfl⟩
  refine ⟨hpanic, ⟨_, rfl⟩, hrequested, hfails, ?_, ?_, ⟨_, rfl⟩, hfailing, ?_⟩
  . have h := failing_pass_leaves_no_trace templateMissing { dryRun := some .working } twoSources [] hpanic
    exact (h.1 ⟨_, hrequested, _, hfails⟩).output
  . have h := failing_pass_leaves_no_trace templateMissing {} twoSources [] hpanic
    exact (h.1 ⟨_, hrequested, _, hfails⟩).files
  . have h := failing_pass_leaves_no_trace functionsOnly {} oneSource ["functions"] hfunctions
    obtain ⟨-, -, -, -, hend⟩ := h.2 interruptedEarly reaches_interruptedEarly (.inl hfailing)
    apply hend
    intro entry hmem
    cases List.mem_singleton.mp hmem
    exact ⟨_, rfl⟩

end Schedule

end Generate

end Commentary
