import Commentary.Text.Blank

/-!
This module contains helpers for multi-line texts written inside indented code: removing the common
indentation, and joining lines with either kind of line end.
-/

namespace Commentary

namespace Text

def commonStart : Text → Text → Text
  | a :: s, b :: t => if a = b then a :: commonStart s t else []
  | _, _ => []

def indentation (line : Text) : Text :=
  line.takeWhile fun b => b = ' '.toUInt8 || b = '\t'.toUInt8

def commonIndentation (lines : List Text) : Text :=
  match (lines.filter fun line => !isBlank line).map indentation with
  | [] => []
  | first :: others => others.foldl commonStart first

def dedent (t : Text) : Text :=
  let t := (after? [lf] t).getD t
  let lines := split lf (chop lf t)
  let indent := commonIndentation lines
  join [lf] (lines.map fun line => if isBlank line then [] else (after? indent line).getD line)

def joinLF (lines : List Text) : Text :=
  join [lf] lines

def joinCRLF (lines : List Text) : Text :=
  join [cr, lf] lines

end Text

end Commentary
