import Commentary.Proofs.Document.Texts
import Commentary.Proofs.Source.Access

/-!
This module contains the extraction of an enumeration with cursors: numbers that say which category and
which section of it is the current one. The cursors always stand on entries that are there, and what is
extracted is the same.
-/

namespace Commentary

def entryAt (as : List α) (number : Int) : Except AccessFault α :=
  match ofNumber? as number with
  | some a => .ok a
  | none => .error .entry

def setAt (as : List α) (number : Int) (a : α) : Except AccessFault (List α) := do
  let _ ← entryAt as number
  return as.set number.toNat a

theorem entryAt_length (as : List α) (a : α) : entryAt (as ++ [a]) as.length = .ok a := by
  have hnumber : ¬ (as.length : Int) < 0 := by omega
  simp [entryAt, ofNumber?, hnumber]

theorem setAt_length (as : List α) (a b : α) : setAt (as ++ [a]) as.length b = .ok (as ++ [b]) := by
  rw [setAt, entryAt_length]
  simp [bind, Except.bind, pure, Except.pure]

def runFrom (feed : σ → Text → Except AccessFault (Option σ)) : σ → List Text → Except AccessFault σ
  | state, [] => .ok state
  | state, line :: lines =>
    match feed state line with
    | .error fault => .error fault
    | .ok none => .ok state
    | .ok (some next) => runFrom feed next lines

inductive Reached (feed : σ → Text → Except AccessFault (Option σ)) (start : σ) : σ → Prop where
  | start : Reached feed start start
  | feed {state next : σ} (line : Text) (h : Reached feed start state)
      (hfeed : feed state line = .ok (some next)) : Reached feed start next

/--
The states of an extraction stand for the sound states of another one, and it does what the other one
does.
-/
structure Refines (of : τ → σ) (sound : τ → Prop) (step : τ → Text → Except AccessFault (Option τ))
    (feed : σ → Text → Except AccessFault (Option σ)) : Prop where
  feed_of : ∀ state line, sound state → feed (of state) line = (step state line).map (Option.map of)
  sound_step : ∀ state line next, sound state → step state line = .ok (some next) → sound next

namespace Refines

variable {of : τ → σ} {sound : τ → Prop} {step : τ → Text → Except AccessFault (Option τ)}
variable {feed : σ → Text → Except AccessFault (Option σ)} {start : τ} {state : σ}

theorem exists_of_reached (h : Refines of sound step feed) (hstart : sound start)
    (hreached : Reached feed (of start) state) : ∃ s, sound s ∧ state = of s := by
  induction hreached with
  | start => exact ⟨start, hstart, rfl⟩
  | feed line _ hfeed ih =>
    obtain ⟨s, hs, rfl⟩ := ih
    rw [h.feed_of s line hs] at hfeed
    cases hstep : step s line with
    | error fault =>
      rw [hstep] at hfeed
      cases hfeed
    | ok found =>
      rw [hstep] at hfeed
      cases found with
      | none => cases hfeed
      | some t =>
        cases hfeed
        exact ⟨t, h.sound_step s line t hs hstep, rfl⟩

theorem runFrom_of (h : Refines of sound step feed) (hstart : sound start) (lines : List Text) :
    runFrom feed (of start) lines = (runFrom step start lines).map of := by
  induction lines generalizing start with
  | nil => rfl
  | cons line lines ih =>
    rw [runFrom, runFrom, h.feed_of start line hstart]
    cases hstep : step start line with
    | error fault => rfl
    | ok found =>
      cases found with
      | none => rfl
      | some next =>
        apply ih
        exact h.sound_step start line next hstart hstep

end Refines

def Category.Open (c : Category) : Prop :=
  ∃ closed last, c.sections = closed ++ [last] ∧ last.title = []

namespace Category

variable {c : Category} {closed : List Section} {last : Section}

theorem addLine_eq (h : c.sections = closed ++ [last]) (line : Text) :
    c.addLine line = { c with sections := closed ++ [{ last with body := last.body ++ [line] }] } := by
  rw [addLine, h, mapLast_append_singleton]

theorem declare_eq (h : c.sections = closed ++ [last]) (name : Text) :
    c.declare name = { c with sections := closed ++ [{ last with title := name }] ++ [{}] } := by
  rw [declare, h, mapLast_append_singleton]

theorem Open.ofTitle (title : Text) : (ofTitle title).Open := by
  exact ⟨[], {}, rfl, rfl⟩

theorem Open.addLine (h : c.Open) (line : Text) : (c.addLine line).Open := by
  obtain ⟨closed, last, hsections, htitle⟩ := h
  rw [addLine_eq hsections]
  exact ⟨closed, { last with body := last.body ++ [line] }, rfl, htitle⟩

theorem Open.declare (c : Category) (name : Text) : (c.declare name).Open := by
  exact ⟨_, {}, rfl, rfl⟩

end Category

namespace Messages

structure Cursors where
  found : Messages := {}
  category : Int := -1
  current : Int := 0
  reading : Bool := false
  deriving DecidableEq, Repr

namespace Cursors

def edit (s : Cursors) (f : Section → Section) (g : List Section → List Section) :
    Except AccessFault Messages := do
  let c ← entryAt s.found.categories s.category
  let current ← entryAt c.sections s.current
  let sections ← setAt c.sections s.current (f current)
  let categories ← setAt s.found.categories s.category { c with sections := g sections }
  return { categories }

def addLine (s : Cursors) (line : Text) : Except AccessFault Cursors :=
  if s.category < 0 then
    .ok s
  else do
    let found ← s.edit (fun current => { current with body := current.body ++ [line] }) id
    return { s with found }

def declare (s : Cursors) (name : Text) : Except AccessFault Cursors :=
  if s.category < 0 then
    .ok s
  else do
    let found ← s.edit (fun current => { current with title := name }) fun sections =>
      sections ++ [({} : Section)]
    let c ← entryAt found.categories s.category
    return { s with found, current := c.sections.length - 1 }

def take (s : Cursors) : Token → Except AccessFault Cursors
  | .heading title _ =>
    let categories := s.found.categories ++ [.ofTitle title]
    .ok { s with found := { categories }, category := categories.length - 1, current := 0 }
  | .doc text => s.addLine text
  | .blank | .empty => s.addLine []
  | .declaration name => s.declare name
  | .plain _ | .skip | .scopeStart | .scopeEnd => .ok s

def feed (v : Vocabulary) (s : Cursors) (line : Text) : Except AccessFault (Option Cursors) := do
  let token ← Source.readEnum v line
  if s.reading then
    if token = .scopeEnd then
      return none
    else
      return some (← s.take token)
  else
    return some { s with reading := token = .scopeStart }

structure InRange (s : Cursors) : Prop where
  cursors : (s.category = -1 ∧ s.found.categories = []) ∨
    ∃ categories c sections current, s.found.categories = categories ++ [c]
      ∧ s.category = categories.length ∧ c.sections = sections ++ [current]
      ∧ s.current = sections.length ∧ current.title = []
  sections_ne_nil : ∀ c ∈ s.found.categories, c.sections ≠ []

def of (p : Progress) : Cursors where
  found := p.found
  category := p.found.categories.length - 1
  current :=
    match p.found.categories.getLast? with
    | some c => c.sections.length - 1
    | none => 0
  reading := p ≠ .outside

theorem of_outside : of .outside = {} := by
  rfl

theorem reading_of_inside (m : Messages) : (of (.inside m)).reading = true := by
  rfl

theorem of_inside_append {c : Category} {categories : List Category} {sections : List Section}
    {current : Section} (hc : c.sections = sections ++ [current]) :
    of (.inside { categories := categories ++ [c] }) =
      ⟨{ categories := categories ++ [c] }, categories.length, sections.length, true⟩ := by
  simp [of, Progress.found, hc]

def Sound (p : Progress) : Prop :=
  ∀ c ∈ p.found.categories, c.Open

theorem inRange_of {p : Progress} (h : Sound p) : (of p).InRange := by
  constructor
  . rcases List.eq_nil_or_concat' p.found.categories with hnil | ⟨categories, c, hcategories⟩
    . left
      simp [of, hnil]
    . right
      obtain ⟨sections, current, hsections, htitle⟩ := h c (by simp [hcategories])
      exact ⟨categories, c, sections, current, hcategories, by simp [of, hcategories], hsections,
        by simp [of, hcategories, hsections], htitle⟩
  . intro c hc
    obtain ⟨sections, current, hsections, -⟩ := h c hc
    simp [hsections]

theorem edit_eq {s : Cursors} {categories : List Category} {c : Category} {sections : List Section}
    {current : Section} (hcategories : s.found.categories = categories ++ [c])
    (hcategory : s.category = categories.length) (hsections : c.sections = sections ++ [current])
    (hcurrent : s.current = sections.length) (f : Section → Section)
    (g : List Section → List Section) :
    s.edit f g =
      .ok { categories := categories ++ [{ c with sections := g (sections ++ [f current]) }] } := by
  unfold edit
  rw [hcategories, hcategory, hcurrent, entryAt_length]
  dsimp only [bind, Except.bind]
  rw [hsections, entryAt_length]
  dsimp only
  rw [setAt_length]
  dsimp only
  rw [setAt_length]
  rfl

variable {m : Messages}

theorem addLine_of (h : Sound (.inside m)) (line : Text) :
    (of (.inside m)).addLine line =
      .ok (of (.inside { m with categories := mapLast (.addLine line) m.categories })) := by
  obtain ⟨categories⟩ := m
  rcases List.eq_nil_or_concat' categories with rfl | ⟨categories, c, rfl⟩
  . rfl
  . obtain ⟨sections, current, hsections, -⟩ := h c (by simp [Progress.found])
    have hnumber : ¬ (categories.length : Int) < 0 := by omega
    rw [of_inside_append hsections, addLine, if_neg hnumber, edit_eq rfl rfl hsections rfl,
      mapLast_append_singleton, Category.addLine_eq hsections, of_inside_append rfl]
    rfl

theorem declare_of (h : Sound (.inside m)) (name : Text) :
    (of (.inside m)).declare name =
      .ok (of (.inside { m with categories := mapLast (.declare name) m.categories })) := by
  obtain ⟨categories⟩ := m
  rcases List.eq_nil_or_concat' categories with rfl | ⟨categories, c, rfl⟩
  . rfl
  . obtain ⟨sections, current, hsections, -⟩ := h c (by simp [Progress.found])
    have hnumber : ¬ (categories.length : Int) < 0 := by omega
    have hcurrent : ∀ closed : List Section,
        ((closed ++ [({} : Section)]).length : Int) - 1 = closed.length := by
      simp
    rw [of_inside_append hsections, declare, if_neg hnumber, edit_eq rfl rfl hsections rfl,
      mapLast_append_singleton, Category.declare_eq hsections, of_inside_append rfl]
    dsimp only [bind, Except.bind]
    rw [entryAt_length]
    dsimp only
    rw [hcurrent]
    rfl

theorem take_of (h : Sound (.inside m)) (token : Token) :
    (of (.inside m)).take token = .ok (of (.inside (m.take token))) := by
  cases token with
  | heading title target =>
    have hsections : (Category.ofTitle title).sections = [] ++ [({} : Section)] := rfl
    rw [take, Messages.take, of_inside_append hsections]
    simp [of, Progress.found]
  | doc text => exact addLine_of h text
  | blank | empty => exact addLine_of h []
  | declaration name => exact declare_of h name
  | plain | skip | scopeStart | scopeEnd => rfl

theorem sound_take (h : Sound (.inside m)) (token : Token) : Sound (.inside (m.take token)) := by
  cases token with
  | heading title target =>
    intro c hc
    rcases List.mem_append.mp hc with hc | hc
    . exact h c hc
    . rw [List.mem_singleton] at hc
      rw [hc]
      apply Category.Open.ofTitle
  | doc text => exact forall_mem_mapLast (fun c hc => hc.addLine text) h
  | blank | empty => exact forall_mem_mapLast (fun c hc => hc.addLine []) h
  | declaration name => exact forall_mem_mapLast (fun c _ => Category.Open.declare c name) h
  | plain | skip | scopeStart | scopeEnd => exact h

def step (v : Vocabulary) (p : Progress) (line : Text) : Except AccessFault (Option Progress) :=
  .ok (p.step? (Source.classifyEnum v line))

theorem refines_step (v : Vocabulary) : Refines of Sound (step v) (feed v) where
  feed_of := by
    intro p line h
    unfold feed step
    rw [Source.readEnum_eq_ok]
    generalize Source.classifyEnum v line = token
    dsimp only [bind, Except.bind]
    cases p with
    | outside =>
      by_cases htoken : token = .scopeStart
      . subst htoken
        rfl
      . simp [of_outside, Progress.step?, htoken, pure, Except.pure, Except.map]
    | inside m =>
      rw [reading_of_inside, if_pos rfl, Progress.step?]
      split
      . rfl
      . rw [take_of h]
        rfl
  sound_step := by
    intro p line next h hstep
    unfold step at hstep
    rw [Except.ok.injEq] at hstep
    cases p with
    | outside =>
      rw [Progress.step?, Option.some.injEq] at hstep
      rw [← hstep]
      split
      . exact h
      . exact h
    | inside m =>
      rw [Progress.step?] at hstep
      split at hstep
      . cases hstep
      . cases hstep
        exact sound_take h _

theorem runFrom_step (v : Vocabulary) (p : Progress) (lines : List Text) :
    runFrom (step v) p lines = .ok (extractFrom v p lines).1 := by
  induction lines generalizing p with
  | nil => rfl
  | cons line lines ih =>
    rw [runFrom, step, extractFrom]
    cases p.step? (Source.classifyEnum v line) with
    | none => rfl
    | some next => apply ih

theorem sound_outside : Sound .outside := by
  intro c hc
  cases hc

theorem inRange_of_reached {v : Vocabulary} {s : Cursors} (h : Reached (feed v) {} s) :
    s.InRange := by
  obtain ⟨p, hp, rfl⟩ := (refines_step v).exists_of_reached sound_outside h
  exact inRange_of hp

theorem exists_feed_eq_ok {v : Vocabulary} {s : Cursors} (h : Reached (feed v) {} s) (line : Text) :
    ∃ next, s.feed v line = .ok next := by
  obtain ⟨p, hp, rfl⟩ := (refines_step v).exists_of_reached sound_outside h
  exact ⟨_, (refines_step v).feed_of p line hp⟩

theorem runFrom_feed (v : Vocabulary) (lines : List Text) :
    (runFrom (feed v) {} lines).map found = .ok (extract v lines).1 := by
  rw [← of_outside, (refines_step v).runFrom_of sound_outside, runFrom_step]
  rfl

end Cursors

end Messages

end Commentary
