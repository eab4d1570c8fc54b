import Commentary.Text.Symbol
import Commentary.Text.Printable

/-!
This module contains the written forms of numbers and of quoted texts.
-/

namespace Commentary

namespace Text

def ofChar (c : Char) : Text :=
  String.utf8EncodeChar c

def ofNat (n : Nat) : Text :=
  (Nat.toDigits 10 n).flatMap ofChar

def ofInt : Int → Text
  | .ofNat n => ofNat n
  | .negSucc n => ofChar '-' ++ ofNat (n + 1)

def hex (width n : Nat) : Text :=
  let digits := (Nat.toDigits 16 n).flatMap ofChar
  List.replicate (width - digits.length) '0'.toUInt8 ++ digits

def shortEscape? : Char → Option Text
  | '\x07' => some "\\a"
  | '\x08' => some "\\b"
  | '\x0c' => some "\\f"
  | '\n' => some "\\n"
  | '\r' => some "\\r"
  | '\t' => some "\\t"
  | '\x0b' => some "\\v"
  | _ => none

def codeEscape (c : Char) : Text :=
  if c.toNat < 0x10000 then "\\u" ++ hex 4 c.toNat else "\\U" ++ hex 8 c.toNat

def quoteSymbol : Symbol → Text
  | .stray b => "\\x" ++ hex 2 b.toNat
  | .char c =>
    if c = '"' ∨ c = '\\' then
      '\\'.toUInt8 :: ofChar c
    else if isPrintable c then
      ofChar c
    else
      match shortEscape? c with
      | some escape => escape
      | none => if c < ' ' ∨ c = '\x7f' then "\\x" ++ hex 2 c.toNat else codeEscape c

def quote (t : Text) : Text :=
  "\"" ++ t.symbols.flatMap quoteSymbol ++ "\""

def quoteCodePoint (n : Int) : Text :=
  let c := Char.ofNat n.toNat
  let shown : Text :=
    if n < 0 ∨ (0xD800 ≤ n ∧ n < 0xE000) ∨ 0x10FFFF < n then ofChar '\ufffd'
    else if c = '\'' then "\\'"
    else if c = '"' then "\""
    else quoteSymbol (.char c)
  "'" ++ shown ++ "'"

end Text

end Commentary
