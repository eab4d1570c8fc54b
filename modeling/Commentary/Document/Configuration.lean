import Commentary.Document.Basic
import Commentary.Source.Classify

/-!
This module contains the documents that an annotated configuration script describes, and their
extraction from the lines of a source.
-/

namespace Commentary

abbrev Paragraphs := List (List Text)

def Paragraphs.lineCount (p : Paragraphs) : Nat :=
  p.flatten.length

structure ConfigDocs where
  overview : Paragraphs := [[]]
  general : Paragraphs := [[]]
  nodeTypes : Paragraphs := [[]]
  layouts : Paragraphs := [[]]
  modes : Paragraphs := [[]]
  deriving DecidableEq, Repr

namespace ConfigDocs

def get (d : ConfigDocs) : Target → Paragraphs
  | .overview => d.overview
  | .general => d.general
  | .nodeTypes => d.nodeTypes
  | .layouts => d.layouts
  | .modes => d.modes

def set (d : ConfigDocs) (t : Target) (p : Paragraphs) : ConfigDocs :=
  match t with
  | .overview => { d with overview := p }
  | .general => { d with general := p }
  | .nodeTypes => { d with nodeTypes := p }
  | .layouts => { d with layouts := p }
  | .modes => { d with modes := p }

def subHeading (name : Text) : Text :=
  [Text.lf] ++ "#### " ++ name ++ [Text.lf]

/--
Take one token into a document. The last paragraph is the current one. A declaration goes in front
of the current paragraph, and like the end of a paragraph it means nothing while that is empty.
-/
def addToken (p : Paragraphs) : Token → Paragraphs
  | .heading text _ | .doc text => mapLast (· ++ [text]) p
  | .blank => mapLast (· ++ [[]]) p
  | .declaration name =>
    mapLast (fun current => if current = [] then [] else subHeading name :: current) p
  | .empty => if p.getLast? = some [] then p else p ++ [[]]
  | .plain _ | .skip | .scopeStart | .scopeEnd => p

structure Progress where
  target : Option Target := none
  docs : ConfigDocs := {}
  deriving DecidableEq, Repr

def Progress.step (s : Progress) (token : Token) : Progress :=
  -- A heading selects its own document first; lines before the first heading are dropped.
  let target := if token.kind = .heading then token.target? else s.target
  match target with
  | none => { s with target }
  | some t => { target, docs := s.docs.set t (addToken (s.docs.get t) token) }

def extractFrom (v : Vocabulary) : Progress → List Text → Option Progress
  | state, [] => some state
  | state, line :: lines =>
    match Source.classifyConfig v line with
    | none => none
    | some token => extractFrom v (state.step token) lines

def extract (v : Vocabulary) (lines : List Text) : Option ConfigDocs :=
  (extractFrom v {} lines).map Progress.docs

end ConfigDocs

end Commentary
