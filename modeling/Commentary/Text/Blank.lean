import Commentary.Text.Symbol

/-!
This module contains the white space characters and the operations that depend on them: trimming a
text at its ends and taking its first word.
-/

namespace Commentary

def blankChars : List Char :=
  ['\t', '\n', '\x0b', '\x0c', '\r', ' ', '\u0085', '\u00a0', '\u1680', '\u2000', '\u2001',
   '\u2002', '\u2003', '\u2004', '\u2005', '\u2006', '\u2007', '\u2008', '\u2009', '\u200a',
   '\u2028', '\u2029', '\u202f', '\u205f', '\u3000']

def isBlankChar (c : Char) : Bool :=
  blankChars.contains c

namespace Text

/--
The encodings of the white space characters. No other text has one of them in it by accident: the
first byte of each is never a continuation byte.
-/
def blankForms : List Text :=
  blankChars.map String.utf8EncodeChar

def leadingForm (forms : List Text) (t : Text) : Nat :=
  match forms.find? t.startsWith with
  | some form => form.length
  | none => 0

def dropForms (forms : List Text) (t : Text) : Text :=
  go 0 t
where
  -- Go on after passing over `skip` bytes, the rest of a form found before.
  go : Nat → Text → Text
    | _, [] => []
    | skip + 1, _ :: t => go skip t
    | 0, a :: t =>
      match leadingForm forms (a :: t) with
      | 0 => a :: t
      | n + 1 => go n t

def trimLeft (t : Text) : Text :=
  dropForms blankForms t

def trimRight (t : Text) : Text :=
  (dropForms (blankForms.map List.reverse) t.reverse).reverse

def trim (t : Text) : Text :=
  trimRight (trimLeft t)

def isBlank (t : Text) : Bool :=
  trimLeft t = []

def untilBlank : Text → Text
  | [] => []
  | a :: t =>
    match leadingForm blankForms (a :: t) with
    | 0 => a :: untilBlank t
    | _ + 1 => []

def firstWord? (t : Text) : Option Text :=
  match trimLeft t with
  | [] => none
  | a :: t => some (untilBlank (a :: t))

end Text

end Commentary
