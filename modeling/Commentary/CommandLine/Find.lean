import Commentary.CommandLine.Command
import Commentary.Text.LowerCase

/-!
This module contains how a command is found among the arguments, and how the arguments may fail to fit
it.
-/

namespace Commentary

namespace CommandLine

namespace Command

def takesNext (fs : FlagSet) (argument : Text) : Bool :=
  let isSwitch (f : Option Flag) : Bool := f.any Flag.isSwitch
  if List.contains argument '='.toUInt8 then
    false
  else
    match argument with
    | 45 :: 45 :: name => !isSwitch (fs.find? name)
    | [45, c] => !isSwitch (fs.findShorthand? c)
    | _ => false

def isDashed (argument : Text) : Bool :=
  argument.head? = some '-'.toUInt8

def twoDashes : Text := "--"

/--
The arguments that are neither flags nor their values. A flag whose value would be the last argument
ends them.
-/
def plainArguments (fs : FlagSet) : List Text → List Text
  | [] => []
  | argument :: arguments =>
    if argument = twoDashes then
      []
    else if takesNext fs argument then
      match arguments with
      | _ :: next :: rest => plainArguments fs (next :: rest)
      | _ => []
    else if argument ≠ [] ∧ !isDashed argument then
      argument :: plainArguments fs arguments
    else
      plainArguments fs arguments

def withoutName (fs : FlagSet) (name : Text) : List Text → List Text
  | [] => []
  | argument :: arguments =>
    if argument = twoDashes then
      argument :: arguments
    else if takesNext fs argument then
      match arguments with
      | [] => [argument]
      | value :: rest => argument :: value :: withoutName fs name rest
    else if !isDashed argument ∧ argument = name then
      arguments
    else
      argument :: withoutName fs name arguments

def child? (hidden : Bool) (c : Command) (name : Text) : Option Command :=
  c.children.find? fun d =>
    (hidden || d.isListed) &&
      (Text.ofString d.name = name || (d = .complete && Text.ofString completeBriefly = name))

def descend (hidden : Bool) : (fuel : Nat) → Command → List Text → Command × List Text
  | 0, c, arguments => (c, arguments)
  | fuel + 1, c, arguments =>
    let fs := c.ownFlags ++ sharedFlags
    match plainArguments fs arguments with
    | [] => (c, arguments)
    | name :: _ =>
      match child? hidden c name with
      | none => (c, arguments)
      | some d => descend hidden fuel d (withoutName fs name arguments)

/-! Suggestions. -/

def nextRow (a : UInt8) (t : Text) (row : List Nat) : List Nat :=
  match row with
  | [] => []
  | first :: rest => (first + 1) :: go first (first + 1) t rest
where
  go (diagonal left : Nat) : Text → List Nat → List Nat
    | b :: t, up :: row =>
      let d := min (min (up + 1) (left + 1)) (if a = b then diagonal else diagonal + 1)
      d :: go up d t row
    | _, _ => []

def distance (s t : Text) : Nat :=
  (s.foldl (fun row a => nextRow a t row) (List.range (t.length + 1))).getLastD 0

def suggestions (c : Command) (t : Text) : List Command :=
  let typed := t.toLower
  (c.children.filter isListed).filter fun d =>
    let name := Text.ofString d.name
    distance typed name ≤ 2 || name.startsWith typed

inductive Fault where
  | unknownCommand (name : Text) (command : Command) (suggestions : List Command)
  | invalidArgument (argument : Text) (command : Command)
  | wrongCount (expected received : Nat)
  | tooFew (least received : Nat)
  | flag (fault : FlagFault)
  deriving DecidableEq, Repr

def Fault.message : Fault → Text
  | .unknownCommand name c suggestions =>
    let hint : Text :=
      if suggestions = [] then []
      else "\n\nDid you mean this?\n" ++
        suggestions.flatMap fun d => Text.ofString "\t" ++ Text.ofString d.name ++ [Text.lf]
    "unknown command " ++ Text.quote name ++ " for " ++ Text.quote c.path ++ hint
  | .invalidArgument argument c =>
    "invalid argument " ++ Text.quote argument ++ " for " ++ Text.quote c.path
  | .wrongCount expected received =>
    "accepts " ++ Text.ofNat expected ++ " arg(s), received " ++ Text.ofNat received
  | .tooFew least received =>
    "requires at least " ++ Text.ofNat least ++ " arg(s), only received " ++ Text.ofNat received
  | .flag fault => fault.message

def find (hidden : Bool) (arguments : List Text) : Except Fault (Command × List Text) :=
  let (c, rest) := descend hidden (arguments.length + 1) .root arguments
  if c = .root then
    match plainArguments sharedFlags rest with
    | [] => .ok (c, rest)
    | name :: _ => .error (.unknownCommand name c (c.suggestions name))
  else
    .ok (c, rest)

def fault? (c : Command) (arguments : List Text) : Option Fault :=
  match c with
  | .generate =>
    (arguments.find? fun a => (Pass.ofName? a).isNone).map fun a => .invalidArgument a c
  | .render => if arguments.length = 2 then none else some (.wrongCount 2 arguments.length)
  | .schema | .version | .completion | .script _ =>
    arguments.head?.map fun a => .unknownCommand a c []
  | .complete => if arguments = [] then some (.tooFew 1 0) else none
  | .root | .help => none

end Command

end CommandLine

end Commentary
