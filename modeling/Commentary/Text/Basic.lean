/-!
This module contains the type of text used throughout the library. A source file may hold any bytes,
so a text is a list of bytes; everything that depends on characters decodes them first (see
`Commentary.Text.Symbol`).
-/

namespace Commentary

abbrev Text := List UInt8

namespace Text

def ofString (s : String) : Text :=
  s.toList.flatMap String.utf8EncodeChar

instance : Coe String Text := ⟨ofString⟩

def lf : UInt8 := 10

def cr : UInt8 := 13

def startsWith (t start : Text) : Bool :=
  start.isPrefixOf t

def endsWith (t stop : Text) : Bool :=
  stop.isSuffixOf t

def after? : (start t : Text) → Option Text
  | [], t => some t
  | _ :: _, [] => none
  | a :: start, b :: t => if a = b then after? start t else none

def chop (b : UInt8) (t : Text) : Text :=
  if t.getLast? = some b then t.dropLast else t

def dropEndWhile (p : UInt8 → Bool) (t : Text) : Text :=
  (t.reverse.dropWhile p).reverse

def split (b : UInt8) : Text → List Text
  | [] => [[]]
  | a :: t =>
    if a = b then
      [] :: split b t
    else
      match split b t with
      | [] => [[a]]
      | piece :: pieces => (a :: piece) :: pieces

def join (separator : Text) : List Text → Text
  | [] => []
  | [t] => t
  | t :: ts => t ++ separator ++ join separator ts

def cut? (pattern : Text) : Text → Option (Text × Text)
  | [] => if pattern = [] then some ([], []) else none
  | a :: t =>
    match after? pattern (a :: t) with
    | some rest => some ([], rest)
    | none => (cut? pattern t).map fun (before, rest) => (a :: before, rest)

def contains (t pattern : Text) : Bool :=
  (cut? pattern t).isSome

def lines (t : Text) : List Text :=
  let pieces := split lf t
  let pieces := if pieces.getLast? = some [] then pieces.dropLast else pieces
  pieces.map (chop cr)

end Text

end Commentary
