import Commentary.Json
import Commentary.Log.Basic
import Commentary.Text.Blank

/-!
This module contains the written forms of log records.
-/

namespace Commentary

namespace Log

def Level.upperName : Level → String
  | .error => "ERROR"
  | .warn => "WARN"
  | .info => "INFO"
  | .debug => "DEBUG"

def Level.shortName : Level → String
  | .error => "ERRO"
  | .warn => "WARN"
  | .info => "INFO"
  | .debug => "DEBU"

def Value.plain : Value → Text
  | .text t => t
  | .number n => Text.ofInt n
  | .bool b => Json.ofBool b

def Record.fields (r : Record) : List (Text × Value) :=
  (Text.ofString "level", .text r.level.upperName) :: (Text.ofString "msg", .text r.message) ::
    r.attributes

namespace AsJson

def value : Value → Text
  | .text t => Json.quote t
  | v => v.plain

def field (name : Text) (v : Value) : Text :=
  Json.quote name ++ ":" ++ value v

def line (r : Record) : Text :=
  "\x7b" ++ Text.join "," (r.fields.map fun (name, v) => field name v) ++ "\x7d\n"

end AsJson

namespace AsLogfmt

def isUnsafe : Symbol → Bool
  | .stray _ => true
  | .char c =>
    if c.toNat < 0x80 then
      c ≤ ' ' || c = '=' || c = '"'
    else
      c = replacementChar || isBlankChar c || !isPrintable c

def word (t : Text) : Text :=
  if t = [] ∨ t.symbols.any isUnsafe then Text.quote t else t

def value : Value → Text
  | .text t => word t
  | v => v.plain

def line (r : Record) : Text :=
  Text.join " " (r.fields.map fun (name, v) => word name ++ "=" ++ value v) ++ "\n"

end AsLogfmt

namespace AsText

def needsQuotes : Symbol → Bool
  | .stray _ => true
  | .char c => c = '"' || c = '=' || c = replacementChar || isBlankChar c || !isPrintable c

def showSymbol : Symbol → Text
  | .stray _ => Text.ofChar replacementChar
  | .char c =>
    if isPrintable c then
      Text.ofChar c
    else
      match Text.shortEscape? c with
      | some escape => escape
      | none => if c < ' ' then "\\x" ++ Text.hex 2 c.toNat else Text.codeEscape c

def showQuoted (s : Symbol) : Text :=
  if s = .char '"' then "\\\"" else showSymbol s

def showText (t : Text) : Text :=
  t.symbols.flatMap showSymbol

def word (t : Text) : Text :=
  if t = [] then
    "\"\""
  else if t.symbols.any needsQuotes then
    "\"" ++ t.symbols.flatMap showQuoted ++ "\""
  else
    t

def bars (more : Bool) (t : Text) : Text :=
  go (Text.split Text.lf t)
where
  go : List Text → Text
    | [] => []
    | [last] => if last = [] then [] else bar last ++ if more then [Text.lf] else []
    | line :: lines => bar line ++ "\n" ++ go lines
  bar (line : Text) : Text :=
    "  │ " ++ showText line

/--
An attribute with what separates it from the text before it. The names of the parts that a line has
anyway are taken: one of them can only add to the message.
-/
def field (more : Bool) (name : Text) (v : Value) : Text :=
  let t := v.plain
  if name = "msg" then
    if t = [] then [] else ' '.toUInt8 :: t
  else if name = [] ∨ name = "time" ∨ name = "level" ∨ name = "caller" ∨ name = "prefix" then
    []
  else if List.contains t Text.lf then
    "\n  " ++ name ++ "=\n" ++ bars more t
  else
    " " ++ name ++ "=" ++ word t

def fields : List (Text × Value) → Text
  | [] => []
  | (name, v) :: rest => field (rest ≠ []) name v ++ fields rest

def line (r : Record) : Text :=
  let message := if r.message = [] then [] else ' '.toUInt8 :: r.message
  r.level.shortName ++ message ++ fields r.attributes ++ [Text.lf]

end AsText

def Handler.write (h : Handler) (r : Record) : Text :=
  if h.keeps r then
    match h.format with
    | .text => AsText.line r
    | .json => AsJson.line r
    | .logfmt => AsLogfmt.line r
  else
    []

def Handler.writeAll (h : Handler) (records : List Record) : Text :=
  records.flatMap h.write

end Log

end Commentary
