import Commentary.Document.Basic
import Commentary.Source.Classify

/-!
This module contains the document that an annotated enumeration describes, and its extraction from
the lines of a source.
-/

namespace Commentary

structure Section where
  title : Text := []
  body : List Text := []
  deriving DecidableEq, Repr

def Section.titled (s : Section) : Bool :=
  s.title ≠ []

structure Category where
  title : Text
  sections : List Section
  deriving DecidableEq, Repr

structure Messages where
  categories : List Category := []
  deriving DecidableEq, Repr

namespace Category

def ofTitle (title : Text) : Category where
  title := title
  sections := [{}]

def titledSections (c : Category) : List Section :=
  c.sections.filter Section.titled

def addLine (line : Text) (c : Category) : Category :=
  { c with sections := mapLast (fun s => { s with body := s.body ++ [line] }) c.sections }

def declare (name : Text) (c : Category) : Category :=
  { c with sections := mapLast (fun s => { s with title := name }) c.sections ++ [{}] }

end Category

namespace Messages

def take (m : Messages) : Token → Messages
  | .heading title _ => { m with categories := m.categories ++ [.ofTitle title] }
  | .doc text => { m with categories := mapLast (.addLine text) m.categories }
  | .blank | .empty => { m with categories := mapLast (.addLine []) m.categories }
  | .declaration name => { m with categories := mapLast (.declare name) m.categories }
  | .plain _ | .skip | .scopeStart | .scopeEnd => m

inductive Progress where
  | outside
  | inside (found : Messages)
  deriving DecidableEq, Repr

def Progress.found : Progress → Messages
  | .outside => {}
  | .inside m => m

def Progress.step? : Progress → Token → Option Progress
  | .outside, token => some (if token = .scopeStart then .inside {} else .outside)
  | .inside m, token => if token = .scopeEnd then none else some (.inside (m.take token))

def extractFrom (v : Vocabulary) : Progress → List Text → Progress × Nat
  | state, [] => (state, 0)
  | state, line :: lines =>
    match state.step? (Source.classifyEnum v line) with
    | none => (state, 1)
    | some state =>
      let (final, read) := extractFrom v state lines
      (final, read + 1)

def extract (v : Vocabulary) (lines : List Text) : Messages × Nat :=
  let (final, read) := extractFrom v .outside lines
  (final.found, read)

def titledCount (m : Messages) : Nat :=
  (m.categories.flatMap Category.titledSections).length

end Messages

end Commentary
