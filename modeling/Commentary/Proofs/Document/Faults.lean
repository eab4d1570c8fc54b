import Commentary.Proofs.Document.Routing

/-!
This module contains when an extraction can go on from line to line. The extractions of enumerations and
of functions always can. That of a configuration script can unless a line of white space counts as a
declaration.
-/

namespace Commentary

namespace FunctionDocs

def feed (v : Vocabulary) (s : Progress) (line : Text) : Except AccessFault (Option Progress) := do
  let token ← Source.readFunction v line
  return some (s.step token)

def finish (s : Progress) : FunctionDocs where
  functions := s.functions
  orphan := if s.pending = [] then none else some s.pending

theorem feed_eq_ok (v : Vocabulary) (s : Progress) (line : Text) :
    feed v s line = .ok (some (s.step (Source.classifyFunction v line))) := by
  rw [feed, Source.readFunction_eq_ok]
  rfl

theorem runFrom_feed (v : Vocabulary) (s : Progress) (lines : List Text) :
    runFrom (feed v) s lines =
      .ok (lines.foldl (fun s line => s.step (Source.classifyFunction v line)) s) := by
  induction lines generalizing s with
  | nil => rfl
  | cons line lines ih =>
    rw [runFrom, feed_eq_ok]
    apply ih

end FunctionDocs

open Messages (Cursors)
open ConfigDocs (Routing)

/--
Every position, every number of an entry and every key that an extraction uses is in range, and what is
extracted is what is extracted without them. The one thing that can be missing is the first word of a
configuration declaration.
-/
theorem extraction_faults_only_at_blank_declaration (v : Vocabulary) (lines : List Text) :
    (∀ s, Reached (Cursors.feed v) {} s → s.InRange ∧ ∀ line, ∃ next, s.feed v line = .ok next)
    ∧ (runFrom (Cursors.feed v) {} lines).map Cursors.found = .ok (Messages.extract v lines).1
    ∧ (∀ s line, ∃ next, FunctionDocs.feed v s line = .ok next)
    ∧ (runFrom (FunctionDocs.feed v) {} lines).map FunctionDocs.finish = .ok (FunctionDocs.extract v lines)
    ∧ (∀ s, Reached (Routing.feed v) {} s → s.InRange ∧ ∀ line fault, s.feed v line = .error fault ↔
        fault = .firstWord ∧ Source.IsBlankDeclaration v line)
    ∧ (∀ fault, runFrom (Routing.feed v) {} lines = .error fault ↔
        fault = .firstWord ∧ ∃ line ∈ lines, Source.IsBlankDeclaration v line)
    ∧ (ConfigDocs.extract v lines = none ↔ ∃ line ∈ lines, Source.IsBlankDeclaration v line)
    ∧ (runFrom (Routing.feed v) {} lines).map Routing.result =
        orFirstWord ((ConfigDocs.extract v lines).map fun d => Target.all.map fun t => (t, d.get t)) := by
  refine ⟨?_, Cursors.runFrom_feed v lines, ?_, ?_, ?_, Routing.runFrom_feed_eq_error_iff v lines,
    ConfigDocs.extract_eq_none_iff v lines, Routing.map_result_runFrom_feed v lines⟩
  . intro s h
    exact ⟨Cursors.inRange_of_reached h, Cursors.exists_feed_eq_ok h⟩
  . intro s line
    exact ⟨_, FunctionDocs.feed_eq_ok v s line⟩
  . rw [FunctionDocs.runFrom_feed]
    rfl
  . intro s h
    exact ⟨Routing.inRange_of_reached h, Routing.feed_eq_error_iff h⟩

def cutNamespace : Vocabulary where
  namespaceStart := [0xE2, 0x80]

def cutScript : List Text :=
  ["-- ### Modes ", "text", "\u2003 "]

theorem cutScript_faults :
    runFrom (Routing.feed cutNamespace) {} cutScript = .error .firstWord
    ∧ ∃ s : Routing, s.target = some .modes ∧ s.InRange
      ∧ s.feed cutNamespace (Text.ofString "\u2003 ") = .error .firstWord := by
  have hblank : Source.IsBlankDeclaration cutNamespace (Text.ofString "\u2003 ") := by
    refine ⟨⟨['\u2003', ' '], ?_, ?_⟩, ?_⟩
    . simp [blankChars]
    . decide
    . decide
  have hreached : ∃ s, Reached (Routing.feed cutNamespace) {} s ∧ s.target = some .modes := by
    exact ⟨_, .feed (Text.ofString "-- ### Modes ") .start rfl, rfl⟩
  obtain ⟨-, -, -, -, hstate, hrun, -⟩ :=
    extraction_faults_only_at_blank_declaration cutNamespace cutScript
  obtain ⟨s, hs, htarget⟩ := hreached
  obtain ⟨hrange, hfeed⟩ := hstate s hs
  refine ⟨?_, s, htarget, hrange, ?_⟩
  . rw [hrun]
    exact ⟨rfl, _, by decide, hblank⟩
  . rw [hfeed]
    exact ⟨rfl, hblank⟩

end Commentary
