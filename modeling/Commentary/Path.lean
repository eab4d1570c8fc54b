import Commentary.Text.Basic

/-!
This module contains paths as they are written, without regard to what they lead to.
-/

namespace Commentary

namespace Path

def separator : UInt8 := '/'.toUInt8

def here : Text := "."

def above : Text := ".."

def isAbsolute (p : Text) : Bool :=
  p.head? = some separator

def parts (p : Text) : List Text :=
  (Text.split separator p).filter fun part => part ≠ [] ∧ part ≠ here

/--
Add a part to a path without detours, whose parts are given last one first. A step up undoes the last
step down. There is nothing above the root; otherwise steps up that undo nothing stay.
-/
def push (absolute : Bool) (stack : List Text) (part : Text) : List Text :=
  if part ≠ above then
    part :: stack
  else
    match stack with
    | [] => if absolute then [] else [above]
    | last :: rest => if last = above then above :: stack else rest

def ofParts (absolute : Bool) (parts : List Text) : Text :=
  if absolute then
    separator :: Text.join [separator] parts
  else if parts = [] then
    here
  else
    Text.join [separator] parts

def clean (p : Text) : Text :=
  let absolute := isAbsolute p
  ofParts absolute ((parts p).foldl (push absolute) []).reverse

def join (p q : Text) : Text :=
  if p = [] then
    if q = [] then [] else clean q
  else
    clean (p ++ [separator] ++ q)

def parent (p : Text) : Text :=
  clean (Text.dropEndWhile (· ≠ separator) p)

end Path

end Commentary
