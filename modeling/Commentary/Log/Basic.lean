import Commentary.Error
import Commentary.Text.LowerCase

/-!
This module contains log records, the levels that they have and the formats that they are written in.
-/

namespace Commentary

namespace Log

inductive Level where
  | error
  | warn
  | info
  | debug
  deriving DecidableEq, Repr

namespace Level

def all : List Level :=
  [.error, .warn, .info, .debug]

def name : Level → String
  | .error => "error"
  | .warn => "warn"
  | .info => "info"
  | .debug => "debug"

def severity : Level → Nat
  | .debug => 0
  | .info => 1
  | .warn => 2
  | .error => 3

def ofName? (name : Text) : Option Level :=
  all.find? fun l => Text.ofString l.name = name

def parse (name : Text) : Except Error Level :=
  let lower := name.toLower
  if lower = "warning" then
    .ok .warn
  else
    match ofName? lower with
    | some l => .ok l
    | none => .error (.unknownLogLevel name)

end Level

inductive Format where
  | text
  | json
  | logfmt
  deriving DecidableEq, Repr

namespace Format

def all : List Format :=
  [.text, .json, .logfmt]

def name : Format → String
  | .text => "text"
  | .json => "json"
  | .logfmt => "logfmt"

def ofName? (name : Text) : Option Format :=
  all.find? fun f => Text.ofString f.name = name

def parse (name : Text) : Except Error Format :=
  match ofName? name.toLower with
  | some f => .ok f
  | none => .error (.unknownLogFormat name)

end Format

inductive Value where
  | text (t : Text)
  | number (n : Int)
  | bool (b : Bool)
  deriving DecidableEq, Repr

instance : Coe Text Value := ⟨.text⟩
instance : Coe Nat Value := ⟨fun n => .number n⟩
instance : Coe Bool Value := ⟨.bool⟩

structure Record where
  level : Level
  message : Text
  attributes : List (Text × Value) := []
  deriving DecidableEq, Repr

structure Handler where
  level : Level := .info
  format : Format := .text
  deriving DecidableEq, Repr

namespace Handler

def ofNames (level format : Text) : Except Error Handler := do
  let level ← (Level.parse level).mapError .invalidArgument
  let format ← (Format.parse format).mapError .invalidArgument
  return { level, format }

def ofExactNames (level format : Text) : Handler where
  level := (Level.ofName? level).getD .info
  format := (Format.ofName? format).getD .text

def keeps (h : Handler) (r : Record) : Bool :=
  h.level.severity ≤ r.level.severity

end Handler

end Log

end Commentary
