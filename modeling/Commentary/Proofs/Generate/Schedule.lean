import Commentary.Proofs.Generate.Cause
import Mathlib.Logic.Relation

/-!
This module contains the rendering of several passes at once. Every pass is rendered by a worker of its
own, the workers take their steps in any order, and the first failure cancels the workers that have
not begun to read, as the caller may do at any time. What a worker arrives at is related to what its pass
gives alone, in every state that a run can come to.
-/

namespace Commentary

namespace Generate

namespace Schedule

/--
How far the rendering of a pass has come. On the way from one stage to the next a worker looks once at
most at what it shares with others: the cancellation or the file system.
-/
inductive Worker where
  | waiting
  | located (pass : Pass) (source : Text)
  -- The run was not cancelled when the worker looked.
  | admitted (pass : Pass) (source : Text)
  | loaded (pass : Pass) (text : Text)
  | returned (result : Except Error (List Page))
  -- The group of workers has taken notice of the result.
  | done (result : Except Error (List Page))
  | crashed

namespace Worker

def next? (m : Manifest) (fs : FileSystem) (cancelled : Bool) (r : Request) : Worker → Option Worker
  | .waiting =>
    match Pass.parse r.name with
    | .error e => some (.returned (.error e))
    | .ok pass =>
      match sourcePath m pass with
      | .error e => some (.returned (.error e))
      | .ok source => some (.located pass source)
  | .located pass source =>
    some (if cancelled then .returned (.error .cancelled) else .admitted pass source)
  | .admitted pass source =>
    match fs.readFile source with
    | .error e => some (.returned (.error (.sourceFile e)))
    | .ok text => some (.loaded pass text)
  | .loaded pass text =>
    match pagesOf r.engine m fs text pass with
    | .error .declarationWithoutName => some .crashed
    | result => some (.returned result)
  | .returned _ | .done _ | .crashed => none

/--
The result that a worker arrives at if no other worker interferes. `cancelled` is whether the run was
cancelled before it began.
-/
def outcome (m : Manifest) (fs : FileSystem) (cancelled : Bool) (r : Request) :
    Worker → Except Error (List Page)
  | .waiting => render m fs cancelled r
  | .located pass source =>
    if cancelled then
      .error .cancelled
    else
      (fs.readFile source).mapError .sourceFile >>= fun text => pagesOf r.engine m fs text pass
  | .admitted pass source =>
    (fs.readFile source).mapError .sourceFile >>= fun text => pagesOf r.engine m fs text pass
  | .loaded pass text => pagesOf r.engine m fs text pass
  | .returned result | .done result => result
  | .crashed => .error .declarationWithoutName

def stepsLeft : Worker → Nat
  | .waiting => 5
  | .located _ _ => 4
  | .admitted _ _ => 3
  | .loaded _ _ => 2
  | .returned _ => 1
  | .done _ | .crashed => 0

def pages : Worker → List Page
  | .done (.ok pages) => pages
  | _ => []

end Worker

inductive Phase where
  | rendering
  | delivering (pages : List Page)
  | failed (error : Error)

structure State where
  fs : FileSystem
  workers : List (Request × Worker)
  error : Option Error := none
  cancelled : Bool := false
  -- Whether the caller has cancelled the run since it began.
  interrupted : Bool := false
  phase : Phase := .rendering

namespace State

def initial (m : Manifest) (o : Options) (fs : FileSystem) (passes : List Text) : State where
  fs := fs
  workers := (requests m o.platform.engine passes).map fun r => (r, .waiting)
  cancelled := o.cancelled

def Finished (s : State) : Prop :=
  ∀ entry ∈ s.workers, ∃ result, entry.2 = .done result

def verdict (s : State) : Phase :=
  match s.error with
  | some e => .failed e
  | none => .delivering (s.workers.flatMap (·.2.pages))

end State

def failure? (name : Text) : Except Error (List Page) → Option Error
  | .ok _ => none
  | .error cause => some (.passFailed name cause)

/--
The steps of a run, in whatever order they come. A failure is kept if it is the first, and only then
can the run be cancelled because of it. Pages are delivered when all workers have finished.
-/
inductive Step (m : Manifest) (o : Options) : State → State → Prop where
  | work {s : State} {before after : List (Request × Worker)} {r : Request} {worker next : Worker}
      (hworkers : s.workers = before ++ (r, worker) :: after)
      (hnext : worker.next? m s.fs s.cancelled r = some next) :
      Step m o s { s with workers := before ++ (r, next) :: after }
  | report {s : State} {before after : List (Request × Worker)} {r : Request}
      {result : Except Error (List Page)}
      (hworkers : s.workers = before ++ (r, .returned result) :: after) :
      Step m o s { s with
        workers := before ++ (r, .done result) :: after
        error := s.error.or (failure? r.name result) }
  | cancel {s : State} (herror : s.error.isSome) (hcancelled : s.cancelled = false) :
      Step m o s { s with cancelled := true }
  | interrupt {s : State} (hinterrupted : s.interrupted = false) :
      Step m o s { s with cancelled := true, interrupted := true }
  | wait {s : State} (hphase : s.phase = .rendering) (hfinished : s.Finished) :
      Step m o s { s with phase := s.verdict }
  | deliver {s : State} {pages : List Page} {page : Page} {progress : Progress}
      (hphase : s.phase = .delivering pages) (hpage : page ∈ pages) (hprogress : progress.fs = s.fs) :
      Step m o s { s with fs := (Generate.deliver o page progress).fs }

def Reaches (m : Manifest) (o : Options) : State → State → Prop :=
  Relation.ReflTransGen (Step m o)

variable {m : Manifest} {o : Options} {fs : FileSystem} {passes : List Text}

theorem render_ne_cancelled (m : Manifest) (fs : FileSystem) (r : Request) :
    render m fs false r ≠ .error .cancelled := by
  intro h
  rcases fails_or_panics h with hfails | ⟨-, hcause⟩
  . cases hfails with
    | cancelled _ _ hcancelled => cases hcancelled
  . cases hcause

namespace Worker

variable {r : Request} {worker next : Worker} {before now : Bool}

theorem outcome_next? (hnext : worker.next? m fs now r = some next)
    (hnow : before = true → now = true) :
    next.outcome m fs before r = worker.outcome m fs before r
      ∨ (before = false ∧ now = true ∧ next.outcome m fs before r = .error .cancelled) := by
  -- A step of a worker does not change the result that it arrives at, unless the run has been cancelled
  -- since it began.
  cases worker with
  | waiting =>
    left
    simp only [next?] at hnext
    split at hnext
    . next e hpass =>
      cases hnext
      simp only [outcome, render, hpass]
      rfl
    . next pass hpass =>
      split at hnext
      . next e hsource =>
        cases hnext
        simp only [outcome, render, hpass, bind, Except.bind, hsource]
      . next source hsource =>
        cases hnext
        simp only [outcome, render, hpass, bind, Except.bind, hsource]
  | located pass source =>
    simp only [next?] at hnext
    cases before with
    | true =>
      left
      rw [hnow rfl] at hnext
      cases hnext
      rfl
    | false =>
      cases now with
      | true =>
        right
        cases hnext
        exact ⟨rfl, rfl, rfl⟩
      | false =>
        left
        cases hnext
        rfl
  | admitted pass source =>
    left
    simp only [next?] at hnext
    split at hnext
    . next e htext =>
      cases hnext
      simp only [outcome, htext]
      rfl
    . next text htext =>
      cases hnext
      simp only [outcome, htext]
      rfl
  | loaded pass text =>
    left
    simp only [next?] at hnext
    split at hnext
    . next hpages =>
      cases hnext
      simp only [outcome, hpages]
    . cases hnext
      rfl
  | returned | done | crashed => cases hnext

theorem stepsLeft_next? (hnext : worker.next? m fs now r = some next) :
    next.stepsLeft < worker.stepsLeft ∧ ∀ result, next ≠ .done result := by
  cases worker with
  | waiting =>
    simp only [next?] at hnext
    split at hnext
    . cases hnext
      simp [stepsLeft]
    . split at hnext
      . cases hnext
        simp [stepsLeft]
      . cases hnext
        simp [stepsLeft]
  | located pass source =>
    cases now with
    | true =>
      cases hnext
      simp [stepsLeft]
    | false =>
      cases hnext
      simp [stepsLeft]
  | admitted pass source =>
    simp only [next?] at hnext
    split at hnext
    . cases hnext
      simp [stepsLeft]
    . cases hnext
      simp [stepsLeft]
  | loaded pass text =>
    simp only [next?] at hnext
    split at hnext
    . cases hnext
      simp [stepsLeft]
    . cases hnext
      simp [stepsLeft]
  | returned | done | crashed => cases hnext

end Worker

/--
What holds of every state of a run, in terms of the passes rendered alone on the file system that the
run began with.
-/
structure Consistent (m : Manifest) (o : Options) (fs : FileSystem) (passes : List Text) (s : State) :
    Prop where
  asked : s.workers.map Prod.fst = requests m o.platform.engine passes
  files : s.phase = .rendering → s.fs = fs
  cancelled_before : o.cancelled = true → s.cancelled = true
  cancelled_since : o.cancelled = false → s.cancelled = true → s.error.isSome ∨ s.interrupted = true
  genuine : ∀ e, s.error = some e →
    ∃ r ∈ requests m o.platform.engine passes, ∃ cause, e = .passFailed r.name cause
      ∧ (render m fs o.cancelled r = .error cause ∨ (cause = .cancelled ∧ s.interrupted = true))
  alone : ∀ entry ∈ s.workers,
    entry.2.outcome m fs o.cancelled entry.1 = render m fs o.cancelled entry.1
      ∨ (entry.2.outcome m fs o.cancelled entry.1 = .error .cancelled
        ∧ (s.error.isSome ∨ s.interrupted = true))
  reported : ∀ entry ∈ s.workers, ∀ cause, entry.2 = .done (.error cause) → s.error.isSome
  settled : s.phase ≠ .rendering → s.Finished ∧ s.phase = s.verdict

namespace Consistent

variable {s : State} {before after : List (Request × Worker)} {r : Request} {worker next : Worker}

theorem initial (m : Manifest) (o : Options) (fs : FileSystem) (passes : List Text) :
    Consistent m o fs passes (State.initial m o fs passes) where
  asked := by
    simp [State.initial, Function.comp_def]
  files := by
    intro
    rfl
  cancelled_before := by
    intro h
    exact h
  cancelled_since := by
    intro hbefore hsince
    simp [State.initial, hbefore] at hsince
  genuine := by
    intro e he
    cases he
  alone := by
    intro entry hmem
    obtain ⟨r, -, rfl⟩ := List.mem_map.mp hmem
    exact .inl rfl
  reported := by
    intro entry hmem cause hdone
    obtain ⟨r, -, rfl⟩ := List.mem_map.mp hmem
    cases hdone
  settled := by
    intro h
    exact absurd rfl h

theorem mem_replaced {entry : Request × Worker}
    (h : entry ∈ before ++ (r, next) :: after) :
    entry = (r, next) ∨ entry ∈ before ++ (r, worker) :: after := by
  simp only [List.mem_append, List.mem_cons] at h ⊢
  rcases h with h | h | h
  . exact .inr (.inl h)
  . exact .inl h
  . exact .inr (.inr (.inr h))

theorem phase_eq_rendering (h : Consistent m o fs passes s)
    (hworkers : s.workers = before ++ (r, worker) :: after)
    (hworker : ∀ result, worker ≠ .done result) : s.phase = .rendering := by
  apply Classical.byContradiction
  intro hphase
  obtain ⟨result, hdone⟩ := (h.settled hphase).1 (r, worker) (by simp [hworkers])
  exact hworker result hdone

theorem work (h : Consistent m o fs passes s)
    (hworkers : s.workers = before ++ (r, worker) :: after)
    (hnext : worker.next? m s.fs s.cancelled r = some next) :
    Consistent m o fs passes { s with workers := before ++ (r, next) :: after } := by
  have hphase : s.phase = .rendering := by
    apply h.phase_eq_rendering hworkers
    rintro result rfl
    cases hnext
  rw [h.files hphase] at hnext
  constructor
  . rw [← h.asked, hworkers]
    simp
  . exact h.files
  . exact h.cancelled_before
  . exact h.cancelled_since
  . exact h.genuine
  . intro entry hmem
    rcases mem_replaced hmem with rfl | hold
    . have hworker := h.alone (r, worker) (by simp [hworkers])
      rcases Worker.outcome_next? hnext h.cancelled_before with hsame | ⟨hbefore, hnow, hcancelled⟩
      . dsimp only at hworker ⊢
        rw [hsame]
        exact hworker
      -- Only a cancellation turns the worker away, and it has a cause on record.
      . exact .inr ⟨hcancelled, h.cancelled_since hbefore hnow⟩
    . exact h.alone entry (by rwa [hworkers])
  . intro entry hmem cause hdone
    rcases mem_replaced hmem with rfl | hold
    . exact absurd hdone ((Worker.stepsLeft_next? hnext).2 _)
    . exact h.reported entry (by rwa [hworkers]) cause hdone
  . intro hsettled
    exact absurd hphase hsettled

theorem isSome_or_left {error : Option Error} (other : Option Error) (h : error.isSome) :
    (error.or other).isSome := by
  cases error with
  | none => cases h
  | some e => rfl

theorem report {result : Except Error (List Page)} (h : Consistent m o fs passes s)
    (hworkers : s.workers = before ++ (r, .returned result) :: after) :
    Consistent m o fs passes
      { s with
        workers := before ++ (r, .done result) :: after
        error := s.error.or (failure? r.name result) } := by
  have hphase : s.phase = .rendering := by
    apply h.phase_eq_rendering hworkers
    simp
  have hworker := h.alone (r, .returned result) (by simp [hworkers])
  constructor
  . rw [← h.asked, hworkers]
    simp
  . exact h.files
  . exact h.cancelled_before
  . intro hbefore hsince
    exact (h.cancelled_since hbefore hsince).imp_left (isSome_or_left _)
  . intro e he
    cases herror : s.error with
    | some first =>
      apply h.genuine
      simpa [herror] using he
    | none =>
      -- Only here is the failure of the worker kept, and only its own or the caller's doing can come first.
      simp only [herror, Option.none_or] at he
      cases result with
      | ok pages => cases he
      | error cause =>
        cases he
        refine ⟨r, ?_, cause, rfl, ?_⟩
        . simp [← h.asked, hworkers]
        . rcases hworker with halone | ⟨hcancelled, hsome⟩
          . exact .inl halone.symm
          . right
            refine ⟨Except.error.inj hcancelled, ?_⟩
            simpa [herror] using hsome
  . intro entry hmem
    rcases mem_replaced hmem with rfl | hold
    . rcases hworker with halone | ⟨hcancelled, hsome⟩
      . exact .inl halone
      . exact .inr ⟨hcancelled, hsome.imp_left (isSome_or_left _)⟩
    . rcases h.alone entry (by rwa [hworkers]) with halone | ⟨hcancelled, hsome⟩
      . exact .inl halone
      . exact .inr ⟨hcancelled, hsome.imp_left (isSome_or_left _)⟩
  . intro entry hmem cause hdone
    rcases mem_replaced hmem with rfl | hold
    . cases hdone
      cases s.error <;> rfl
    . apply isSome_or_left
      exact h.reported entry (by rwa [hworkers]) cause hdone
  . intro hsettled
    exact absurd hphase hsettled

theorem interrupt (h : Consistent m o fs passes s) :
    Consistent m o fs passes { s with cancelled := true, interrupted := true } := by
  constructor
  . exact h.asked
  . exact h.files
  . intro
    rfl
  . intro _ _
    exact .inr rfl
  . intro e he
    obtain ⟨r, hr, cause, hcause, hgenuine⟩ := h.genuine e he
    exact ⟨r, hr, cause, hcause, hgenuine.imp_right fun hcancelled => ⟨hcancelled.1, rfl⟩⟩
  . intro entry hmem
    exact (h.alone entry hmem).imp_right fun hcancelled => ⟨hcancelled.1, .inr rfl⟩
  . exact h.reported
  . exact h.settled

theorem step {t : State} (h : Consistent m o fs passes s) (hstep : Step m o s t) :
    Consistent m o fs passes t := by
  cases hstep with
  | work hworkers hnext => exact h.work hworkers hnext
  | report hworkers => exact h.report hworkers
  | cancel herror hcancelled =>
    constructor
    . exact h.asked
    . exact h.files
    . intro
      rfl
    . intro _ _
      exact .inl herror
    . exact h.genuine
    . exact h.alone
    . exact h.reported
    . exact h.settled
  | interrupt => exact h.interrupt
  | wait hphase hfinished =>
    constructor
    . exact h.asked
    . intro
      exact h.files hphase
    . exact h.cancelled_before
    . exact h.cancelled_since
    . exact h.genuine
    . exact h.alone
    . exact h.reported
    . intro
      exact ⟨hfinished, rfl⟩
  | deliver hphase hpage =>
    constructor
    . exact h.asked
    . intro hrendering
      rw [hphase] at hrendering
      cases hrendering
    . exact h.cancelled_before
    . exact h.cancelled_since
    . exact h.genuine
    . exact h.alone
    . exact h.reported
    . exact h.settled

theorem of_reaches (hreaches : Reaches m o (State.initial m o fs passes) s) :
    Consistent m o fs passes s := by
  induction hreaches with
  | refl => apply initial
  | tail _ hstep ih => exact ih.step hstep

end Consistent

end Schedule

end Generate

end Commentary
