import Commentary.Text.Basic

/-!
This module contains the reading position inside a line of markdown. Indentation is measured in
columns, and a tab may be used up in part by the block that encloses a line.
-/

namespace Commentary

namespace Markdown

def isSpace (b : UInt8) : Bool :=
  b = 32 || (9 ≤ b && b ≤ 13)

def allSpace (t : Text) : Bool :=
  t.all isSpace

def lines : Text → List Text
  | [] => []
  | b :: t =>
    if b = Text.lf then
      [b] :: lines t
    else
      match lines t with
      | [] => [[b]]
      | line :: rest => (b :: line) :: rest

def tabWidth (column : Nat) : Nat :=
  4 - column % 4

def indentation (column : Nat) (t : Text) : Nat × Nat :=
  go 0 0 t
where
  go (width count : Nat) : Text → Nat × Nat
    | [] => (width, count)
    | b :: t =>
      if b = ' '.toUInt8 then
        go (width + 1) (count + 1) t
      else if b = '\t'.toUInt8 then
        go (width + tabWidth (column + width)) (count + 1) t
      else
        (width, count)

def indentationEnd? (column width : Nat) (t : Text) : Option (Nat × Nat) :=
  go 0 0 t
where
  go (reached count : Nat) (t : Text) : Option (Nat × Nat) :=
    if width ≤ reached then
      some (count, reached - width)
    else
      match t with
      | [] => none
      | b :: t =>
        if b = ' '.toUInt8 then
          go (reached + 1) (count + 1) t
        else if b = '\t'.toUInt8 then
          go (reached + tabWidth (column + reached)) (count + 1) t
        else
          none

structure Cursor where
  column : Nat := 0
  -- The columns before `rest` that belong to a tab and have not been used up.
  padding : Nat := 0
  rest : Text
  deriving Repr

namespace Cursor

def view (c : Cursor) : Text :=
  List.replicate c.padding ' '.toUInt8 ++ c.rest

def start (c : Cursor) : Nat :=
  c.column - c.padding

def advance (c : Cursor) : Nat → Cursor
  | 0 => c
  | n + 1 =>
    match c with
    | { column, padding := padding + 1, rest } => advance { column, padding, rest } n
    | { rest := [], .. } => c
    | { column, padding := 0, rest := b :: rest } =>
      let width := if b = '\t'.toUInt8 then tabWidth column else 1
      advance { column := column + width, rest } n

def advanceInto (c : Cursor) (n padding : Nat) : Cursor :=
  let c := c.advance n
  { c with padding := max padding c.padding }

def toEnd (c : Cursor) : Cursor where
  rest := if c.rest.getLast? = some Text.lf then [Text.lf] else []

end Cursor

end Markdown

end Commentary
