import Commentary.Proofs.Document.Configuration
import Commentary.Proofs.Document.Cursors

/-!
This module contains the extraction of a configuration script with a table of documents and a cursor in
each of them. The table has the documents that are asked for, the cursors stand on paragraphs that are
there, and what is extracted is the same.
-/

namespace Commentary

namespace ConfigDocs

structure Accumulator where
  paragraphs : Paragraphs := [[]]
  current : Int := 0
  deriving DecidableEq, Repr

namespace Accumulator

def edit (a : Accumulator) (f : List Text → List Text) : Except AccessFault Accumulator := do
  let current ← entryAt a.paragraphs a.current
  let paragraphs ← setAt a.paragraphs a.current (f current)
  return { a with paragraphs }

def breakParagraph (a : Accumulator) : Accumulator :=
  let paragraphs := a.paragraphs ++ [[]]
  { paragraphs, current := paragraphs.length - 1 }

def add (a : Accumulator) : Token → Except AccessFault Accumulator
  | .heading text _ | .doc text => a.edit (· ++ [text])
  | .blank => a.edit (· ++ [[]])
  | .declaration name => do
    let current ← entryAt a.paragraphs a.current
    if current = [] then return a else a.edit (subHeading name :: ·)
  | .empty => do
    let current ← entryAt a.paragraphs a.current
    return if current = [] then a else a.breakParagraph
  | .plain _ | .skip | .scopeStart | .scopeEnd => .ok a

def InRange (a : Accumulator) : Prop :=
  ∃ closed current, a.paragraphs = closed ++ [current] ∧ a.current = closed.length
    ∧ ∀ p ∈ closed, p ≠ []

def of (p : Paragraphs) : Accumulator where
  paragraphs := p
  current := p.length - 1

def Sound (p : Paragraphs) : Prop :=
  ∃ closed current, p = closed ++ [current] ∧ ∀ p ∈ closed, p ≠ []

variable {p : Paragraphs}

theorem of_append (closed : Paragraphs) (current : List Text) :
    of (closed ++ [current]) = ⟨closed ++ [current], closed.length⟩ := by
  simp [of]

theorem inRange_of (h : Sound p) : (of p).InRange := by
  obtain ⟨closed, current, rfl, hclosed⟩ := h
  rw [of_append]
  exact ⟨closed, current, rfl, rfl, hclosed⟩

theorem edit_of (closed : Paragraphs) (current : List Text) (f : List Text → List Text) :
    (of (closed ++ [current])).edit f = .ok (of (mapLast f (closed ++ [current]))) := by
  rw [mapLast_append_singleton, of_append, of_append]
  unfold edit
  rw [entryAt_length]
  dsimp only [bind, Except.bind]
  rw [setAt_length]
  rfl

theorem add_of (h : Sound p) (token : Token) : (of p).add token = .ok (of (addToken p token)) := by
  obtain ⟨closed, current, rfl, -⟩ := h
  have hcurrent : entryAt (of (closed ++ [current])).paragraphs (of (closed ++ [current])).current =
      .ok current := by
    rw [of_append]
    apply entryAt_length
  cases token with
  | heading text target => apply edit_of
  | doc text => apply edit_of
  | blank => apply edit_of
  | declaration name =>
    rw [add, hcurrent]
    dsimp only [bind, Except.bind]
    split
    . next hnil => simp [addToken, mapLast_append_singleton, hnil, pure, Except.pure]
    . next hne => simp [edit_of, addToken, mapLast_append_singleton, hne]
  | empty =>
    rw [add, hcurrent]
    dsimp only [bind, Except.bind]
    split
    . next hnil => simp [addToken, hnil, pure, Except.pure]
    . next hne => simp [addToken, hne, breakParagraph, of, pure, Except.pure]
  | plain | skip | scopeStart | scopeEnd => rfl

theorem sound_addToken (h : Sound p) (token : Token) : Sound (addToken p token) := by
  obtain ⟨closed, current, rfl, hclosed⟩ := h
  have hedit : ∀ f, Sound (mapLast f (closed ++ [current])) := by
    intro f
    rw [mapLast_append_singleton]
    exact ⟨closed, f current, rfl, hclosed⟩
  cases token with
  | heading text target => apply hedit
  | doc text => apply hedit
  | blank => apply hedit
  | declaration name => apply hedit
  | empty =>
    rw [addToken]
    split
    . exact ⟨closed, current, rfl, hclosed⟩
    . next hne =>
      refine ⟨closed ++ [current], [], rfl, ?_⟩
      simp only [List.forall_mem_append, List.forall_mem_singleton]
      refine ⟨hclosed, ?_⟩
      simpa using hne
  | plain | skip | scopeStart | scopeEnd => exact ⟨closed, current, rfl, hclosed⟩

end Accumulator

theorem extractFrom_eq_none_iff (v : Vocabulary) (s : Progress) (lines : List Text) :
    extractFrom v s lines = none ↔ ∃ line ∈ lines, Source.classifyConfig v line = none := by
  induction lines generalizing s with
  | nil => simp [extractFrom]
  | cons line lines ih =>
    rw [extractFrom, List.exists_mem_cons_iff]
    cases Source.classifyConfig v line with
    | none => simp
    | some token => simpa using ih (s.step token)

theorem extract_eq_none_iff (v : Vocabulary) (lines : List Text) :
    extract v lines = none ↔ ∃ line ∈ lines, Source.IsBlankDeclaration v line := by
  rw [extract, Option.map_eq_none_iff, extractFrom_eq_none_iff]
  simp only [Source.classifyConfig_eq_none_iff]

structure Routing where
  target : Option Target := none
  docs : List (Target × Accumulator) := Target.all.map fun t => (t, {})
  deriving DecidableEq, Repr

namespace Routing

def put (docs : List (Target × Accumulator)) (t : Target) (a : Accumulator) :
    List (Target × Accumulator) :=
  docs.map fun (u, b) => (u, if u = t then a else b)

def feed (v : Vocabulary) (s : Routing) (line : Text) : Except AccessFault (Option Routing) := do
  let token ← Source.readConfig v line
  let target := if token.kind = .heading then token.target? else s.target
  match target with
  | none => return some { s with target }
  | some t =>
    match s.docs.lookup t with
    | none => .error .document
    | some a => return some { target, docs := put s.docs t (← a.add token) }

structure InRange (s : Routing) : Prop where
  targets : s.docs.map Prod.fst = Target.all
  target : ∀ t, s.target = some t → ∃ a, s.docs.lookup t = some a
  docs : ∀ a ∈ s.docs.map Prod.snd, a.InRange

def of (s : Progress) : Routing where
  target := s.target
  docs := Target.all.map fun t => (t, .of (s.docs.get t))

def Sound (s : Progress) : Prop :=
  ∀ t, Accumulator.Sound (s.docs.get t)

theorem sound_start : Sound {} := by
  intro t
  exact ⟨[], [], by cases t <;> rfl, by simp⟩

theorem of_start : of {} = {} := by
  rfl

theorem lookup_of (s : Progress) (t : Target) :
    (of s).docs.lookup t = some (.of (s.docs.get t)) := by
  cases t <;> rfl

theorem put_of (s : Progress) (t : Target) (p : Paragraphs) :
    put (of s).docs t (.of p) = (of { s with docs := s.docs.set t p }).docs := by
  cases t <;> rfl

theorem inRange_of {s : Progress} (h : Sound s) : (of s).InRange where
  targets := rfl
  target := by
    intro t _
    exact ⟨_, lookup_of s t⟩
  docs := by
    intro a ha
    simp only [of, List.map_map, List.mem_map] at ha
    obtain ⟨t, -, rfl⟩ := ha
    exact Accumulator.inRange_of (h t)

def step (v : Vocabulary) (s : Progress) (line : Text) : Except AccessFault (Option Progress) :=
  (orFirstWord (Source.classifyConfig v line)).map fun token => some (s.step token)

theorem refines_step (v : Vocabulary) : Refines of Sound (step v) (feed v) where
  feed_of := by
    intro s line h
    unfold feed step
    rw [Source.readConfig_eq]
    cases Source.classifyConfig v line with
    | none => rfl
    | some token =>
      have htarget : (of s).target = s.target := rfl
      dsimp only [orFirstWord, bind, Except.bind, Except.map]
      rw [htarget, Progress.step]
      generalize (if token.kind = .heading then token.target? else s.target) = target
      cases target with
      | none => rfl
      | some t =>
        dsimp only
        rw [lookup_of]
        dsimp only
        rw [Accumulator.add_of (h t)]
        dsimp only
        rw [put_of]
        rfl
  sound_step := by
    intro s line next h hstep
    unfold step at hstep
    cases htoken : Source.classifyConfig v line with
    | none =>
      rw [htoken] at hstep
      cases hstep
    | some token =>
      rw [htoken] at hstep
      cases hstep
      intro t
      rw [Progress.get_step]
      split
      . exact Accumulator.sound_addToken (h t) token
      . exact h t

theorem runFrom_step (v : Vocabulary) (s : Progress) (lines : List Text) :
    runFrom (step v) s lines = orFirstWord (extractFrom v s lines) := by
  induction lines generalizing s with
  | nil => rfl
  | cons line lines ih =>
    rw [runFrom, step, extractFrom]
    cases Source.classifyConfig v line with
    | none => rfl
    | some token => apply ih

variable {v : Vocabulary} {s : Routing}

theorem inRange_of_reached (h : Reached (feed v) {} s) : s.InRange := by
  rw [← of_start] at h
  obtain ⟨p, hp, rfl⟩ := (refines_step v).exists_of_reached sound_start h
  exact inRange_of hp

theorem feed_eq_error_iff (h : Reached (feed v) {} s) (line : Text) (fault : AccessFault) :
    s.feed v line = .error fault ↔ fault = .firstWord ∧ Source.IsBlankDeclaration v line := by
  rw [← of_start] at h
  obtain ⟨p, hp, rfl⟩ := (refines_step v).exists_of_reached sound_start h
  rw [(refines_step v).feed_of p line hp, step, map_eq_error_iff, map_eq_error_iff,
    orFirstWord_eq_error_iff, Source.classifyConfig_eq_none_iff]

theorem runFrom_feed (v : Vocabulary) (lines : List Text) :
    runFrom (feed v) {} lines = (orFirstWord (extractFrom v {} lines)).map of := by
  rw [← of_start, (refines_step v).runFrom_of sound_start, runFrom_step]

theorem runFrom_feed_eq_error_iff (v : Vocabulary) (lines : List Text) (fault : AccessFault) :
    runFrom (feed v) {} lines = .error fault ↔
      fault = .firstWord ∧ ∃ line ∈ lines, Source.IsBlankDeclaration v line := by
  rw [runFrom_feed, map_eq_error_iff, orFirstWord_eq_error_iff, extractFrom_eq_none_iff]
  simp only [Source.classifyConfig_eq_none_iff]

def result (s : Routing) : List (Target × Paragraphs) :=
  s.docs.map fun (t, a) => (t, a.paragraphs)

theorem map_result_runFrom_feed (v : Vocabulary) (lines : List Text) :
    (runFrom (feed v) {} lines).map result =
      orFirstWord ((extract v lines).map fun d => Target.all.map fun t => (t, d.get t)) := by
  rw [runFrom_feed, extract]
  cases extractFrom v {} lines with
  | none => rfl
  | some s => rfl

end Routing

end ConfigDocs

end Commentary
