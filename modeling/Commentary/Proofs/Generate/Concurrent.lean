import Commentary.Proofs.Generate.Schedule
import Mathlib.Data.List.Forall2

/-!
This module contains the end of the rendering of several passes at once. Every schedule comes to it,
and has then the pages that the passes give alone, or the failure of one that fails alone.
-/

namespace Commentary

namespace Generate

namespace Schedule

variable {m : Manifest} {o : Options} {fs : FileSystem} {passes : List Text}

def totalSteps : List (Request × Worker) → Nat
  | [] => 0
  | (_, worker) :: entries => worker.stepsLeft + totalSteps entries

def State.remaining (s : State) : Nat :=
  totalSteps s.workers + (if s.cancelled then 0 else 1) + (if s.interrupted then 0 else 1) +
    match s.phase with
    | .rendering => 1
    | .delivering _ | .failed _ => 0

theorem totalSteps_append_cons (before after : List (Request × Worker)) (r : Request) (worker : Worker) :
    totalSteps (before ++ (r, worker) :: after) =
      totalSteps before + worker.stepsLeft + totalSteps after := by
  induction before with
  | nil => simp [totalSteps]
  | cons entry before ih =>
    simp only [List.cons_append, totalSteps, ih]
    omega

theorem remaining_lt_of_step {s t : State} (hnot : ∀ pages, s.phase ≠ .delivering pages)
    (hstep : Step m o s t) : t.remaining < s.remaining := by
  cases hstep with
  | work hworkers hnext =>
    have hless := (Worker.stepsLeft_next? hnext).1
    simp only [State.remaining, hworkers, totalSteps_append_cons]
    omega
  | report hworkers =>
    simp only [State.remaining, hworkers, totalSteps_append_cons, Worker.stepsLeft]
    omega
  | cancel herror hcancelled =>
    simp only [State.remaining, hcancelled, Bool.false_eq_true, ↓reduceIte]
    omega
  | interrupt hinterrupted =>
    simp only [State.remaining, hinterrupted, Bool.false_eq_true, ↓reduceIte]
    omega
  | wait hphase =>
    simp only [State.remaining, State.verdict, hphase]
    cases s.error <;> simp
  | deliver hdelivering => exact absurd hdelivering (hnot _)

theorem Worker.next?_isSome_or (m : Manifest) (fs : FileSystem) (cancelled : Bool) (r : Request)
    (worker : Worker) :
    (∃ next, worker.next? m fs cancelled r = some next)
      ∨ (∃ result, worker = .returned result)
      ∨ (∃ result, worker = .done result)
      ∨ worker = .crashed := by
  cases worker with
  | waiting =>
    left
    simp only [next?]
    split
    . exact ⟨_, rfl⟩
    . split <;> exact ⟨_, rfl⟩
  | located => exact .inl ⟨_, rfl⟩
  | admitted =>
    left
    simp only [next?]
    split <;> exact ⟨_, rfl⟩
  | loaded =>
    left
    simp only [next?]
    split <;> exact ⟨_, rfl⟩
  | returned result => exact .inr (.inl ⟨result, rfl⟩)
  | done result => exact .inr (.inr (.inl ⟨result, rfl⟩))
  | crashed => exact .inr (.inr (.inr rfl))

namespace Consistent

variable {s : State}

theorem exists_step (h : Consistent m o fs passes s)
    (hpanic : ∀ r ∈ requests m o.platform.engine passes,
      render m fs o.cancelled r ≠ .error .declarationWithoutName)
    (hphase : s.phase = .rendering) : ∃ t, Step m o s t := by
  by_cases hfinished : s.Finished
  . exact ⟨_, .wait hphase hfinished⟩
  . unfold State.Finished at hfinished
    simp only [not_forall] at hfinished
    obtain ⟨⟨r, worker⟩, hmem, hdone⟩ := hfinished
    obtain ⟨before, after, hworkers⟩ := List.append_of_mem hmem
    rcases Worker.next?_isSome_or m s.fs s.cancelled r worker with
      ⟨next, hnext⟩ | ⟨result, rfl⟩ | hresult | rfl
    . exact ⟨_, .work hworkers hnext⟩
    . exact ⟨_, .report hworkers⟩
    . exact absurd hresult hdone
    -- A worker crashes only where its pass does so alone.
    . rcases h.alone (r, .crashed) hmem with halone | ⟨hcancelled, -⟩
      . refine absurd halone.symm (hpanic r ?_)
        simp [← h.asked, hworkers]
      . cases hcancelled

theorem exists_reaches_end (h : Consistent m o fs passes s)
    (hpanic : ∀ r ∈ requests m o.platform.engine passes,
      render m fs o.cancelled r ≠ .error .declarationWithoutName) :
    ∃ t, Reaches m o s t ∧ t.phase ≠ .rendering := by
  -- Any step will do, since every step leaves fewer.
  induction hremaining : s.remaining using Nat.strongRecOn generalizing s with
  | ind n ih =>
    by_cases hphase : s.phase = .rendering
    . obtain ⟨t, hstep⟩ := h.exists_step hpanic hphase
      have hless := remaining_lt_of_step (by simp [hphase]) hstep
      obtain ⟨u, hreaches, hend⟩ := ih t.remaining (by omega) (h.step hstep) rfl
      exact ⟨u, .head hstep hreaches, hend⟩
    . exact ⟨s, .refl, hphase⟩

theorem verdict_of_phase_ne (h : Consistent m o fs passes s) (hphase : s.phase ≠ .rendering) :
    (∃ e, s.error = some e ∧ s.phase = .failed e)
      ∨ (s.error = none ∧ s.phase = .delivering (s.workers.flatMap (·.2.pages))) := by
  have hverdict := (h.settled hphase).2
  unfold State.verdict at hverdict
  cases herror : s.error with
  | some e =>
    rw [herror] at hverdict
    exact .inl ⟨e, rfl, hverdict⟩
  | none =>
    rw [herror] at hverdict
    exact .inr ⟨rfl, hverdict⟩

theorem forall₂_pages (h : Consistent m o fs passes s) (hfinished : s.Finished)
    (herror : s.error = none) :
    List.Forall₂ (fun r pages => render m fs o.cancelled r = .ok pages)
      (requests m o.platform.engine passes) (s.workers.map (·.2.pages)) := by
  rw [← h.asked, List.forall₂_map_left_iff, List.forall₂_map_right_iff, List.forall₂_same]
  intro entry hmem
  obtain ⟨result, hdone⟩ := hfinished entry hmem
  cases result with
  | error cause =>
    have hsome := h.reported entry hmem cause hdone
    simp [herror] at hsome
  | ok pages =>
    rcases h.alone entry hmem with halone | ⟨hcancelled, -⟩
    . rw [← halone, hdone]
      rfl
    . rw [hdone] at hcancelled
      cases hcancelled

theorem genuine_of_not_interrupted {e : Error} (h : Consistent m o fs passes s)
    (hinterrupted : s.interrupted = false) (herror : s.error = some e) :
    ∃ r ∈ requests m o.platform.engine passes, ∃ cause,
      render m fs o.cancelled r = .error cause ∧ e = .passFailed r.name cause := by
  obtain ⟨r, hr, cause, hcause, halone | ⟨-, hsince⟩⟩ := h.genuine e herror
  . exact ⟨r, hr, cause, halone, hcause⟩
  . rw [hinterrupted] at hsince
    cases hsince

end Consistent

theorem renderAll_of_forall₂ {cancelled : Bool} {rs : List Request} {each : List (List Page)}
    (h : List.Forall₂ (fun r pages => render m fs cancelled r = .ok pages) rs each) :
    renderAll m fs cancelled rs = .ok each.flatten := by
  have hmapM : rs.mapM (renderPass m fs cancelled) = .ok each := by
    induction h with
    | nil => rfl
    | cons hfirst _ ih =>
      rw [List.mapM_cons, ih, renderPass, hfirst]
      rfl
  unfold renderAll
  rw [hmapM]
  rfl

theorem exists_of_forall₂ {cancelled : Bool} {rs : List Request} {each : List (List Page)}
    (h : List.Forall₂ (fun r pages => render m fs cancelled r = .ok pages) rs each) :
    ∀ r ∈ rs, ∃ pages, render m fs cancelled r = .ok pages := by
  intro r hr
  induction h with
  | nil => cases hr
  | cons hfirst _ ih =>
    rcases List.mem_cons.mp hr with rfl | hrest
    . exact ⟨_, hfirst⟩
    . exact ih hrest

section Alone

variable {engine other : Nat → Template.Engine}

/--
Two runs do the same with every template that they need.
-/
def SameLayouts (m : Manifest) (fs : FileSystem) (passes : List Text)
    (engine other : Nat → Template.Engine) : Prop :=
  ∀ entry ∈ (requested m passes).zipIdx,
    SameLayout m fs entry.1 (engine entry.2) (other entry.2)

theorem map_render_requests (h : SameLayouts m fs passes engine other) (cancelled : Bool) :
    (requests m engine passes).map (fun r => (r.name, render m fs cancelled r)) =
      (requests m other passes).map fun r => (r.name, render m fs cancelled r) := by
  unfold requests
  rw [List.map_map, List.map_map]
  apply List.map_congr_left
  intro entry hentry
  exact congrArg (Prod.mk entry.1) ((h entry hentry).render_eq cancelled)

theorem exists_alike (h : SameLayouts m fs passes engine other) (cancelled : Bool) {r : Request}
    (hr : r ∈ requests m engine passes) :
    ∃ r' ∈ requests m other passes,
      r'.name = r.name ∧ render m fs cancelled r' = render m fs cancelled r := by
  have hmem := List.mem_map_of_mem (f := fun r => (r.name, render m fs cancelled r)) hr
  rw [map_render_requests h, List.mem_map] at hmem
  obtain ⟨r', hr', heq⟩ := hmem
  exact ⟨r', hr', Prod.mk.inj heq⟩

theorem forall₂_alike (h : SameLayouts m fs passes engine other) {cancelled : Bool}
    {each : List (List Page)}
    (heach : List.Forall₂ (fun r pages => render m fs cancelled r = .ok pages)
      (requests m engine passes) each) :
    List.Forall₂ (fun r pages => render m fs cancelled r = .ok pages)
      (requests m other passes) each := by
  have hmap := congrArg (List.map Prod.snd) (map_render_requests h cancelled)
  rw [List.map_map, List.map_map] at hmap
  rw [← List.forall₂_map_left_iff (f := render m fs cancelled) (R := fun result own => result = .ok own)]
    at heach ⊢
  exact hmap ▸ heach

theorem renderAll_alike (h : SameLayouts m fs passes engine other) (cancelled : Bool) :
    renderAll m fs cancelled (requests m engine passes) =
      renderAll m fs cancelled (requests m other passes) := by
  have hnamed : renderPass m fs cancelled =
      (fun result => result.2.mapError (.passFailed result.1)) ∘
        fun r => (r.name, render m fs cancelled r) := by
    rfl
  unfold renderAll
  rw [hnamed, ← List.mapM_map, ← List.mapM_map, map_render_requests h]

end Alone

/--
In whatever order the passes of a run take their steps, the rendering comes to an end. It succeeds
exactly if every pass succeeds alone, and the pages to deliver are then those of the passes alone, in
the order of the request and as the file system was at the beginning. If it fails, it is for the
reason for which one of the passes fails alone, which is never that another one failed before. A pass
alone may show other addresses than in the run, so its template is one whose layout shows none, or the
addresses are the same.
-/
theorem every_schedule_renders_as_alone (m : Manifest) (o : Options) (fs : FileSystem)
    (passes : List Text) (alone : Nat → Template.Engine) (hcancelled : o.cancelled = false)
    (halone : SameLayouts m fs passes o.platform.engine alone)
    (hpanic : ∀ r ∈ requests m alone passes, render m fs false r ≠ .error .declarationWithoutName)
    (s : State) (hreaches : Reaches m o (State.initial m o fs passes) s)
    (hinterrupted : s.interrupted = false) :
    (∃ t, Reaches m o s t ∧ t.phase ≠ .rendering)
      ∧ (∀ t, Step m o s t → s.phase = .rendering → t.remaining < s.remaining)
      ∧ (s.phase ≠ .rendering →
          ((∃ pages, s.phase = .delivering pages)
            ↔ ∀ r ∈ requests m alone passes, ∃ pages, render m fs false r = .ok pages))
      ∧ (∀ e, s.phase = .failed e →
          ∃ r ∈ requests m alone passes, ∃ cause,
            render m fs false r = .error cause
              ∧ cause ≠ .cancelled
              ∧ e = .passFailed r.name cause
              ∧ e.message =
                  Text.ofString "pass failed: " ++ r.name ++ Text.ofString ": " ++ cause.message)
      ∧ (∀ pages, s.phase = .delivering pages →
          ∃ each,
            List.Forall₂ (fun r own => render m fs false r = .ok own) (requests m alone passes) each
              ∧ pages = each.flatten
              ∧ renderAll m fs false (requests m alone passes) = .ok pages) := by
  have h := Consistent.of_reaches hreaches
  have hpanic : ∀ r ∈ requests m o.platform.engine passes,
      render m fs o.cancelled r ≠ .error .declarationWithoutName := by
    intro r hr
    obtain ⟨r', hr', -, hrender⟩ := exists_alike halone false hr
    rw [hcancelled, ← hrender]
    exact hpanic r' hr'
  have hdelivering : ∀ pages, s.phase = .delivering pages →
      ∃ each,
        List.Forall₂ (fun r own => render m fs false r = .ok own) (requests m alone passes) each
          ∧ pages = each.flatten
          ∧ renderAll m fs false (requests m alone passes) = .ok pages := by
    intro pages hphase
    have hend : s.phase ≠ .rendering := by
      simp [hphase]
    rcases h.verdict_of_phase_ne hend with ⟨e, -, hfailed⟩ | ⟨herror, hpages⟩
    . rw [hphase] at hfailed
      cases hfailed
    . rw [hphase] at hpages
      cases hpages
      have hforall := h.forall₂_pages (h.settled hend).1 herror
      rw [hcancelled] at hforall
      replace hforall := forall₂_alike halone hforall
      have hflatten : s.workers.flatMap (·.2.pages) = (s.workers.map (·.2.pages)).flatten := by
        rw [List.flatMap_def]
      exact ⟨_, hforall, hflatten, hflatten ▸ renderAll_of_forall₂ hforall⟩
  have hfailed : ∀ e, s.phase = .failed e →
      ∃ r ∈ requests m alone passes, ∃ cause,
        render m fs false r = .error cause ∧ e = .passFailed r.name cause := by
    intro e hphase
    rcases h.verdict_of_phase_ne (by simp [hphase]) with ⟨first, herror, hverdict⟩ | ⟨-, hpages⟩
    . rw [hphase] at hverdict
      cases hverdict
      obtain ⟨r, hr, cause, hcause, rfl⟩ := h.genuine_of_not_interrupted hinterrupted herror
      obtain ⟨r', hr', hname, hrender⟩ := exists_alike halone false hr
      rw [hcancelled] at hcause
      exact ⟨r', hr', cause, hrender.trans hcause, by rw [hname]⟩
    . rw [hphase] at hpages
      cases hpages
  refine ⟨h.exists_reaches_end hpanic, ?_, ?_, ?_, hdelivering⟩
  . intro t hstep hphase
    exact remaining_lt_of_step (by simp [hphase]) hstep
  . intro hphase
    constructor
    . rintro ⟨pages, hpages⟩ r hr
      obtain ⟨each, hforall, -, -⟩ := hdelivering pages hpages
      exact exists_of_forall₂ hforall r hr
    . intro hall
      rcases h.verdict_of_phase_ne hphase with ⟨e, -, hverdict⟩ | ⟨-, hpages⟩
      . obtain ⟨r, hr, cause, hcause, -⟩ := hfailed e hverdict
        obtain ⟨pages, hpages⟩ := hall r hr
        rw [hcause] at hpages
        cases hpages
      . exact ⟨_, hpages⟩
  . intro e hphase
    obtain ⟨r, hr, cause, hcause, rfl⟩ := hfailed e hphase
    refine ⟨r, hr, cause, hcause, ?_, rfl, rfl⟩
    rintro rfl
    exact render_ne_cancelled m fs r hcause

def oneSource : FileSystem where
  entries := [(["f.rs"], .file (.text "/// x\npub fn f() \x7b\x7d\n"))]

def misspelt : List Text :=
  ["fuctions", "functions"]

def misspeltRequest : Request where
  name := "fuctions"
  engine := Template.standard

def functionsRequest : Request where
  name := "functions"
  engine := Template.standard

def overtaken : State where
  fs := oneSource
  workers :=
    [(misspeltRequest, .done (.error (.unknownPass "fuctions"))),
     (functionsRequest, .done (.error .cancelled))]
  error := some (.passFailed "fuctions" (.unknownPass "fuctions"))
  cancelled := true
  phase := .failed (.passFailed "fuctions" (.unknownPass "fuctions"))

theorem reaches_overtaken :
    Reaches functionsOnly {} (State.initial functionsOnly {} oneSource misspelt) overtaken := by
  refine .head (@Step.work _ _ _ [(misspeltRequest, .waiting)] [] functionsRequest .waiting _ rfl rfl) ?_
  refine .head (@Step.work _ _ _ [] _ misspeltRequest .waiting _ rfl rfl) ?_
  refine .head (@Step.report _ _ _ [] _ misspeltRequest _ rfl) ?_
  refine .head (Step.cancel rfl rfl) ?_
  refine .head (@Step.work _ _ _ [_] [] functionsRequest _ _ rfl rfl) ?_
  refine .head (@Step.report _ _ _ [_] [] functionsRequest _ rfl) ?_
  refine .single (Step.wait rfl ?_)
  intro entry hmem
  simp only [List.cons_append, List.nil_append, List.mem_cons, List.not_mem_nil, or_false] at hmem
  rcases hmem with rfl | rfl
  . exact ⟨_, rfl⟩
  . exact ⟨_, rfl⟩

theorem overtaken_fails_as_alone :
    SameLayouts functionsOnly oneSource misspelt (Platform.engine {}) Template.write?
      ∧ (∀ r ∈ requests functionsOnly Template.write? misspelt,
          render functionsOnly oneSource false r ≠ .error .declarationWithoutName)
      ∧ (∃ pages, render functionsOnly oneSource false functionsRequest = .ok pages)
      ∧ ∃ r ∈ requests functionsOnly Template.write? misspelt, ∃ cause,
          render functionsOnly oneSource false r = .error cause
            ∧ cause ≠ .cancelled
            ∧ Error.passFailed "fuctions" (.unknownPass "fuctions") = .passFailed r.name cause := by
  have halone : SameLayouts functionsOnly oneSource misspelt (Platform.engine {}) Template.write? := by
    intro entry _ _ e layout hmessages
    cases hmessages
  have hpanic : ∀ r ∈ requests functionsOnly Template.write? misspelt,
      render functionsOnly oneSource false r ≠ .error .declarationWithoutName := by
    decide +kernel
  refine ⟨halone, hpanic, ⟨_, rfl⟩, ?_⟩
  obtain ⟨-, -, -, hfailed, -⟩ :=
    every_schedule_renders_as_alone functionsOnly {} oneSource misspelt Template.write? rfl halone hpanic
      overtaken reaches_overtaken rfl
  obtain ⟨r, hr, cause, hcause, hne, herror, -⟩ := hfailed _ rfl
  exact ⟨r, hr, cause, hcause, hne, herror⟩

end Schedule

end Generate

end Commentary
