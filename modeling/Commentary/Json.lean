import Commentary.Text.Quoted

/-!
This module contains JSON values and the ways to write them.
-/

namespace Commentary

inductive Json where
  | bool (b : Bool)
  | number (n : Int)
  | text (t : Text)
  | list (items : List Json)
  | record (fields : List (String × Json))

namespace Json

def escapeSymbol : Symbol → Text
  -- The line and paragraph separators are escaped, because some readers take them for line ends.
  | .stray _ => "\\ufffd"
  | .char c =>
    if c = '"' ∨ c = '\\' then
      '\\'.toUInt8 :: Text.ofChar c
    else
      match c with
      | '\x08' => "\\b"
      | '\x0c' => "\\f"
      | '\n' => "\\n"
      | '\r' => "\\r"
      | '\t' => "\\t"
      | _ =>
        if c < ' ' ∨ c = ' ' ∨ c = ' ' then Text.codeEscape c else Text.ofChar c

def quote (t : Text) : Text :=
  "\"" ++ t.symbols.flatMap escapeSymbol ++ "\""

def ofBool (b : Bool) : Text :=
  if b then "true" else "false"

def newline (depth : Nat) : Text :=
  Text.lf :: List.replicate (2 * depth) ' '.toUInt8

mutual

def pretty (depth : Nat) : Json → Text
  | .bool b => ofBool b
  | .number n => Text.ofInt n
  | .text t => quote t
  | .list [] => "[]"
  | .list (item :: items) =>
    "[" ++ newline (depth + 1) ++ pretty (depth + 1) item ++ prettyItems (depth + 1) items ++
      newline depth ++ "]"
  | .record [] => "\x7b\x7d"
  | .record ((name, value) :: fields) =>
    "\x7b" ++ newline (depth + 1) ++ quote name ++ ": " ++ pretty (depth + 1) value ++
      prettyFields (depth + 1) fields ++ newline depth ++ "\x7d"

def prettyItems (depth : Nat) : List Json → Text
  | [] => []
  | item :: items => "," ++ newline depth ++ pretty depth item ++ prettyItems depth items

def prettyFields (depth : Nat) : List (String × Json) → Text
  | [] => []
  | (name, value) :: fields =>
    "," ++ newline depth ++ quote name ++ ": " ++ pretty depth value ++ prettyFields depth fields

end

end Json

end Commentary
