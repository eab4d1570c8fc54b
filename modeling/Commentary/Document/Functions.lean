import Commentary.Source.Classify

/-!
This module contains the documentation of functions, and its extraction from the lines of a source.
-/

namespace Commentary

structure FunctionDoc where
  name : Text
  doc : List Text
  deriving DecidableEq, Repr

/--
The documented functions of a source. `orphan` is a last doc comment that no declaration follows.
-/
structure FunctionDocs where
  functions : List FunctionDoc := []
  orphan : Option (List Text) := none
  deriving DecidableEq, Repr

namespace FunctionDocs

structure Progress where
  functions : List FunctionDoc := []
  pending : List Text := []
  deriving DecidableEq, Repr

def Progress.step (s : Progress) : Token → Progress
  | .doc text => { s with pending := s.pending ++ [text] }
  | .declaration name =>
    if s.pending = [] then
      s
    else
      { functions := s.functions ++ [⟨name, s.pending⟩] }
  | _ => s

def extract (v : Vocabulary) (lines : List Text) : FunctionDocs :=
  let final := lines.foldl (fun s line => s.step (Source.classifyFunction v line)) ({} : Progress)
  { functions := final.functions
    orphan := if final.pending = [] then none else some final.pending }

end FunctionDocs

end Commentary
