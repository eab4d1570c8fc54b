import Commentary.Text.Integer
import Commentary.Text.Quoted

/-!
This module contains flags: what they are, how they are listed and how they are read from the arguments
of a command.
-/

namespace Commentary

namespace CommandLine

inductive FlagValue where
  | text (t : Text)
  | number (n : Int)
  | bool (b : Bool)
  deriving DecidableEq, Repr

inductive Candidates where
  | files
  | extensions (es : List Text)
  | directories
  | values (vs : List Text)
  deriving DecidableEq, Repr

structure Flag where
  name : Text
  shorthand : Option UInt8 := none
  initial : FlagValue
  value : FlagValue := initial
  description : Text
  changed : Bool := false
  candidates : Option Candidates := none
  deriving DecidableEq, Repr

namespace Flag

def isSwitch (f : Flag) : Bool :=
  match f.initial with
  | .bool _ => true
  | _ => false

def label (f : Flag) : Text :=
  match f.shorthand with
  | some c => "-" ++ [c] ++ ", --" ++ f.name
  | none => "--" ++ f.name

end Flag

abbrev FlagSet := List Flag

inductive ValueFault where
  | notBool
  | notNumber
  | outOfRange
  deriving DecidableEq, Repr

def ValueFault.message (t : Text) : ValueFault → Text
  | .notBool => "strconv.ParseBool: parsing " ++ Text.quote t ++ ": invalid syntax"
  | .notNumber => "strconv.ParseInt: parsing " ++ Text.quote t ++ ": invalid syntax"
  | .outOfRange => "strconv.ParseInt: parsing " ++ Text.quote t ++ ": value out of range"

inductive FlagFault where
  | badForm (argument : Text)
  | unknown (name : Text)
  | unknownShorthand (c : UInt8) (group : Text)
  | valueMissing (name : Text)
  | shorthandValueMissing (c : UInt8) (group : Text)
  | invalidValue (label value : Text) (fault : ValueFault)
  -- Help was asked for where no flag of that name is known.
  | help
  deriving DecidableEq, Repr

def shorthandName (c : UInt8) : Text :=
  Text.quoteCodePoint ((Text.ofChar (Char.ofNat c.toNat)).headD 0).toNat

def FlagFault.message : FlagFault → Text
  | .badForm argument => "bad flag syntax: " ++ argument
  | .unknown name => "unknown flag: --" ++ name
  | .unknownShorthand c group => "unknown shorthand flag: " ++ shorthandName c ++ " in -" ++ group
  | .valueMissing name => "flag needs an argument: --" ++ name
  | .shorthandValueMissing c group => "flag needs an argument: " ++ shorthandName c ++ " in -" ++ group
  | .invalidValue label value fault =>
    "invalid argument " ++ Text.quote value ++ " for " ++ Text.quote label ++ " flag: " ++
      fault.message value
  | .help => "help requested"

namespace FlagValue

def truths : List String :=
  ["1", "t", "T", "TRUE", "true", "True"]

def falsehoods : List String :=
  ["0", "f", "F", "FALSE", "false", "False"]

/--
Read a value of the same kind. What is not such a value still leaves one behind, the closest there is.
-/
def read (t : Text) : FlagValue → FlagValue × Option ValueFault
  | .text _ => (.text t, none)
  | .bool _ =>
    if (truths.map Text.ofString).contains t then
      (.bool true, none)
    else
      (.bool false, if (falsehoods.map Text.ofString).contains t then none else some .notBool)
  | .number _ =>
    match Integer.ofText? t with
    | none => (.number 0, some .notNumber)
    | some n =>
      if Integer.greatest < n then
        (.number Integer.greatest, some .outOfRange)
      else if n < Integer.least then
        (.number Integer.least, some .outOfRange)
      else
        (.number n, none)

end FlagValue

namespace FlagSet

def find? (fs : FlagSet) (name : Text) : Option Flag :=
  List.find? (fun f => f.name = name) fs

def findShorthand? (fs : FlagSet) (c : UInt8) : Option Flag :=
  List.find? (fun f => f.shorthand = some c) fs

def update (fs : FlagSet) (name : Text) (change : Flag → Flag) : FlagSet :=
  fs.map fun f => if f.name = name then change f else f

def add? (fs : FlagSet) (f : Flag) : Option FlagSet :=
  if (find? fs f.name).isSome then none else some (fs ++ [f])

def addAll? (fs added : FlagSet) : Option FlagSet :=
  added.foldlM add? fs

def value? (fs : FlagSet) (name : Text) : Option FlagValue :=
  (find? fs name).map Flag.value

def text (fs : FlagSet) (name : Text) : Text :=
  match value? fs name with
  | some (.text t) => t
  | _ => []

def number (fs : FlagSet) (name : Text) : Int :=
  match value? fs name with
  | some (.number n) => n
  | _ => 0

def bool (fs : FlagSet) (name : Text) : Bool :=
  match value? fs name with
  | some (.bool b) => b
  | _ => false

/-! Listing. -/

def precedes : Text → Text → Bool
  | [], _ => true
  | _ :: _, [] => false
  | a :: s, b :: t => a < b || (a = b && precedes s t)

def sorted (fs : FlagSet) : FlagSet :=
  fs.mergeSort fun f g => precedes f.name g.name

def nameColumn (f : Flag) : Text :=
  let start : Text := match f.shorthand with
    | some c => "  -" ++ [c] ++ ", --"
    | none => "      --"
  let kind : Text := match f.initial with
    | .text _ => " string"
    | .number _ => " int"
    | .bool _ => []
  start ++ f.name ++ kind

def descriptionColumn (f : Flag) : Text :=
  let note : Text := match f.initial with
    | .text [] | .number 0 | .bool false => []
    | .text t => " (default " ++ Text.quote t ++ ")"
    | .number n => " (default " ++ Text.ofInt n ++ ")"
    | .bool true => " (default true)"
  f.description ++ note

def usage (fs : FlagSet) : Text :=
  let width := (fs.map fun f => (nameColumn f).length).foldl max 0
  (sorted fs).flatMap fun f =>
    let name := nameColumn f
    name ++ List.replicate (width - name.length + 3) ' '.toUInt8 ++ descriptionColumn f ++ [Text.lf]

/-! Reading. -/

def assign (fs : FlagSet) (f : Flag) (t : Text) : FlagSet × Option FlagFault :=
  match f.value.read t with
  | (value, none) => (update fs f.name fun f => { f with value, changed := true }, none)
  | (value, some fault) =>
    (update fs f.name fun f => { f with value }, some (.invalidValue f.label t fault))

structure Step where
  flags : FlagSet
  tookNext : Bool := false
  fault : Option FlagFault := none
  deriving DecidableEq, Repr

def Step.ofAssign (tookNext : Bool) (r : FlagSet × Option FlagFault) : Step where
  flags := r.1
  tookNext
  fault := r.2

def readLong (fs : FlagSet) (argument : Text) (next : Option Text) : Step :=
  let start := argument.head?
  if argument = [] ∨ start = some '-'.toUInt8 ∨ start = some '='.toUInt8 then
    { flags := fs, fault := some (.badForm ("--" ++ argument)) }
  else
    let (name, value) : Text × Option Text := match Text.cut? "=" argument with
      | some (name, value) => (name, some value)
      | none => (argument, none)
    match find? fs name, value with
    | none, _ =>
      { flags := fs, fault := some (if name = "help" then .help else .unknown name) }
    | some f, some value => .ofAssign false (assign fs f value)
    | some f, none =>
      if f.isSwitch then
        .ofAssign false (assign fs f "true")
      else
        match next with
        | some value => .ofAssign true (assign fs f value)
        | none => { flags := fs, fault := some (.valueMissing name) }

def readShort (next : Option Text) : (group : Text) → FlagSet → Step
  | [], fs => { flags := fs }
  | c :: group, fs =>
    match findShorthand? fs c with
    | none =>
      let fault := if c = 'h'.toUInt8 then .help else .unknownShorthand c (c :: group)
      { flags := fs, fault := some fault }
    | some f =>
      match group with
      | 61 :: b :: value => .ofAssign false (assign fs f (b :: value))
      | group =>
        if f.isSwitch then
          match assign fs f "true" with
          | (fs, none) => readShort next group fs
          | (fs, some fault) => { flags := fs, fault := some fault }
        else if group ≠ [] then
          .ofAssign false (assign fs f group)
        else
          match next with
          | some value => .ofAssign true (assign fs f value)
          | none => { flags := fs, fault := some (.shorthandValueMissing c [c]) }

structure Parsed where
  flags : FlagSet
  rest : List Text := []
  fault : Option FlagFault := none
  deriving DecidableEq, Repr

def parse (fs : FlagSet) (arguments : List Text) : Parsed :=
  go false { flags := fs } arguments
where
  go : (skips : Bool) → Parsed → List Text → Parsed
    | _, p, [] => p
    | true, p, _ :: arguments => go false p arguments
    | false, p, argument :: arguments =>
      match argument with
      | 45 :: 45 :: [] => { p with rest := p.rest ++ arguments }
      | 45 :: 45 :: name => next p arguments (readLong p.flags name arguments.head?)
      | 45 :: c :: group =>
        -- The flags of a test runner are passed over.
        if Text.startsWith (c :: group) "test." then
          go false p arguments
        else
          next p arguments (readShort arguments.head? (c :: group) p.flags)
      | argument => go false { p with rest := p.rest ++ [argument] } arguments
  next (p : Parsed) (arguments : List Text) (s : Step) : Parsed :=
    match s.fault with
    | some fault => { p with flags := s.flags, fault := some fault }
    | none => go s.tookNext { p with flags := s.flags } arguments

end FlagSet

end CommandLine

end Commentary
