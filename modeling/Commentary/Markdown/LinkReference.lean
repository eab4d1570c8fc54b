import Commentary.Markdown.Line

/-!
This module contains the recognition of link reference definitions, which a paragraph may begin with
and which do not belong to its text.
-/

namespace Commentary

namespace Markdown

namespace LinkReference

structure Position where
  line : Nat := 0
  here : Text
  later : List Text

namespace Position

def ofLines : List Text → Position
  | [] => { here := [], later := [] }
  | here :: later => { here, later }

def nextLine (p : Position) : Position :=
  match p.later with
  | [] => { line := p.line + 1, here := [], later := [] }
  | here :: later => { line := p.line + 1, here, later }

def advance (p : Position) : Nat → Position
  | 0 => p
  | n + 1 =>
    match p.here, p.later with
    | [], _ => p
    | [_], [] => { p with here := [] }
    | [_], _ :: _ => p.nextLine.advance n
    | _ :: b :: here, _ => advance { p with here := b :: here } n

def size (p : Position) : Nat :=
  p.here.length + p.later.flatten.length

def skipSpaces (p : Position) : Position × Nat :=
  go p.size p 0
where
  go : Nat → Position → Nat → Position × Nat
    | 0, p, count => (p, count)
    | n + 1, p, count =>
      if p.here.head?.any isSpace then go n (p.advance 1) (count + 1) else (p, count)

end Position

def isPunctuation (b : UInt8) : Bool :=
  (33 ≤ b && b ≤ 47) || (58 ≤ b && b ≤ 64) || (91 ≤ b && b ≤ 96) || (123 ≤ b && b ≤ 126)

/--
Find the closing byte in a line: the number of bytes before it. An opening byte before it makes the
search fail; the outer `none` says that neither is in the line.
-/
def closerIn? (opener closer : UInt8) (line : Text) : Option (Option Nat) :=
  go 0 0 line
where
  go (skip count : Nat) : Text → Option (Option Nat)
    | [] => none
    | b :: t =>
      match skip with
      | skip + 1 => go skip (count + 1) t
      | 0 =>
        if b = '\\'.toUInt8 && t.head?.any isPunctuation then
          go 1 (count + 1) t
        else if b = closer then
          some (some count)
        else if b = opener then
          some none
        else
          go 0 (count + 1) t

def findCloser (opener closer : UInt8) (p : Position) : Except Position (Text × Position) :=
  go p.later.length p []
where
  go (n : Nat) (p : Position) (found : Text) : Except Position (Text × Position) :=
    match closerIn? opener closer p.here with
    | some (some count) => .ok (found ++ p.here.take count, p.advance (count + 1))
    | some none => .error p
    | none =>
      match n with
      | 0 => .error p.nextLine
      | n + 1 => go n p.nextLine (found ++ p.here)

def bareDestination (line : Text) : Nat :=
  go 0 0 0 line
where
  go (skip depth count : Nat) : Text → Nat
    | [] => count
    | b :: t =>
      match skip with
      | skip + 1 => go skip depth (count + 1) t
      | 0 =>
        if b = '\\'.toUInt8 && t.head?.any isPunctuation then
          go 1 depth (count + 1) t
        else if b = '('.toUInt8 then
          go 0 (depth + 1) (count + 1) t
        else if b = ')'.toUInt8 then
          if depth = 0 then count else go 0 (depth - 1) (count + 1) t
        else if isSpace b then
          count
        else
          go 0 depth (count + 1) t

def destination? (p : Position) : Option Position :=
  match p.here with
  | b :: t =>
    if b = '<'.toUInt8 then
      match closerIn? '>'.toUInt8 '>'.toUInt8 t with
      | some (some count) => some (p.advance (count + 2))
      | _ => none
    else
      match bareDestination p.here with
      | 0 => none
      | n + 1 => some (p.advance (n + 1))
  | [] => none

def definition? (p : Position) : Option (Nat × Nat × Position) := do
  let (p, _) := p.skipSpaces
  let first := p.line
  if p.here.head? ≠ some '['.toUInt8 then
    none
  else
    let (label, p) ← (findCloser '['.toUInt8 ']'.toUInt8 (p.advance 1)).toOption
    if allSpace label || p.here.head? ≠ some ':'.toUInt8 then
      none
    else
      let p ← destination? (p.advance 1).skipSpaces.1
      let lineDone := allSpace p.here
      let last := p.line
      let (p, spaces) := p.skipSpaces
      let plain (p : Position) := if lineDone then some (first, last + 1, p) else none
      match p.here.head?.bind titleCloser? with
      | none => plain p
      | some (opener, closer) =>
        if spaces = 0 then
          none
        else
          match findCloser opener closer (p.advance 1) with
          | .error p => plain p.nextLine
          | .ok (_, p) =>
            if allSpace p.here then
              some (first, p.line + 1, p)
            else if lineDone then
              some (first, last, p)
            else
              none
where
  titleCloser? (b : UInt8) : Option (UInt8 × UInt8) :=
    if b = '"'.toUInt8 || b = '\''.toUInt8 then
      some (b, b)
    else if b = '('.toUInt8 then
      some (b, ')'.toUInt8)
    else
      none

def definitions (lines : List Text) : List (Nat × Nat) :=
  go lines.length (Position.ofLines lines)
where
  go : Nat → Position → List (Nat × Nat)
    | 0, _ => []
    | n + 1, p =>
      match definition? p with
      | none => []
      | some (first, stop, p) =>
        (first, if first = stop then stop + 1 else stop) :: go n p

def strip (lines : List Text) : List Text :=
  (definitions lines).foldl
    (fun (lines, gone) (first, stop) =>
      (lines.take (first - gone) ++ lines.drop (stop - gone), stop))
    (lines, 0)
    |>.1

end LinkReference

end Markdown

end Commentary
