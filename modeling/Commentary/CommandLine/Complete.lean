import Commentary.CommandLine.Find
import Commentary.Text.Blank

/-!
This module contains the completions that are offered for a command line that is still being typed.
-/

namespace Commentary

namespace CommandLine

inductive Directive where
  | default
  | noFiles
  -- The choices are the extensions of the files to offer.
  | byExtension
  | directories
  deriving DecidableEq, Repr

namespace Directive

def number : Directive → Nat
  | .default => 0
  | .noFiles => 4
  | .byExtension => 8
  | .directories => 16

def name : Directive → String
  | .default => "ShellCompDirectiveDefault"
  | .noFiles => "ShellCompDirectiveNoFileComp"
  | .byExtension => "ShellCompDirectiveFilterFileExt"
  | .directories => "ShellCompDirectiveFilterDirs"

end Directive

structure Choice where
  text : Text
  description : Text := []
  deriving DecidableEq, Repr

def Choice.line (described : Bool) (c : Choice) : Text :=
  Text.trim (if described then c.text ++ "\t" ++ c.description else c.text)

structure Completions where
  choices : List Choice := []
  directive : Directive := .default
  deriving DecidableEq, Repr

namespace Completions

def ofTexts (texts : List Text) (directive : Directive) : Completions where
  choices := texts.map fun text => { text }
  directive

def print (described : Bool) (cs : Completions) : Text :=
  cs.choices.flatMap (fun c => c.line described ++ [Text.lf]) ++ ":" ++
    Text.ofNat cs.directive.number ++ "\n"

def note (cs : Completions) : Text :=
  "Completion ended with directive: " ++ Text.ofString cs.directive.name ++ "\n"

end Completions

structure Cursor where
  flag : Option Flag := none
  arguments : List Text
  word : Text
  unknown : Bool := false
  deriving DecidableEq, Repr

namespace Cursor

def namesFlag : Text → Bool
  | 45 :: 45 :: name => name ≠ []
  | 45 :: group => group ≠ []
  | _ => false

def flagName : Text → Text
  | 45 :: 45 :: name => name
  | argument => argument.drop (argument.length - 1)

def findFlag? (fs : FlagSet) : Text → Option Flag
  | [c] => fs.findShorthand? c
  | name => fs.find? name

def afterFlag (fs : FlagSet) (arguments : List Text) (word typed : Text) : Cursor :=
  match arguments.getLast? with
  | none => { arguments, word }
  | some last =>
    if namesFlag last ∧ !List.contains last '='.toUInt8 then
      match findFlag? fs (flagName last) with
      | none => { arguments, word := typed, unknown := true }
      | some f =>
        if f.isSwitch then { arguments, word }
        else { flag := some f, arguments := arguments.dropLast, word }
    else
      { arguments, word }

def find (fs : FlagSet) (arguments : List Text) (typed : Text) : Cursor :=
  if Command.isDashed typed then
    match Text.cut? "=" typed with
    | none => { arguments, word := typed }
    | some (name, word) =>
      match flagName name with
      | [] => afterFlag fs arguments word typed
      | name =>
        match findFlag? fs name with
        | none => { arguments, word := typed, unknown := true }
        | some f => { flag := some f, arguments, word }
  else
    afterFlag fs arguments typed typed

end Cursor

namespace Command

def childChoices (c : Command) (word : Text) : List Choice :=
  let fits (d : Command) : Bool := (Text.ofString d.name).startsWith word
  (c.listedChildren.filter fits).map fun d =>
    { text := Text.ofString d.name, description := d.summary }

def nameChoices (word : Text) (f : Flag) : List Choice :=
  let names : List Text :=
    (Text.ofString "--" ++ f.name) :: (f.shorthand.map fun c => ['-'.toUInt8, c]).toList
  (names.filter fun name => name.startsWith word).map fun text => { text, description := f.description }

def flagChoices (c : Command) (fs : FlagSet) (word : Text) : List Choice :=
  let isShared (f : Flag) : Bool := c ≠ .root && (sharedFlags.find? f.name).isSome
  let listed := fs.sorted.filter fun f => !f.changed
  (listed.filter isShared ++ listed.filter fun f => !isShared f).flatMap (nameChoices word)

def argumentCompletions? (c : Command) (arguments : List Text) (word : Text) : Option Completions :=
  match c with
  | .render =>
    if arguments = [] then some (.ofTexts (Pass.names.map Text.ofString) .noFiles) else some {}
  | .help =>
    match Command.find true arguments with
    | .ok (d, _) => some { choices := d.childChoices word, directive := .noFiles }
    | .error _ => some { directive := .noFiles }
  | .completion | .script _ => some { directive := .noFiles }
  | _ => none

def wordCompletions (c : Command) (arguments : List Text) (word : Text) : Completions :=
  let children : Completions :=
    if arguments = [] ∧ c.children ≠ [] then
      { choices := c.childChoices word, directive := .noFiles }
    else
      {}
  match c, argumentCompletions? c arguments word with
  | .generate, _ =>
    if arguments = [] then
      .ofTexts ((Pass.names.map Text.ofString).filter fun name => name.startsWith word) .noFiles
    else
      {}
  | _, some cs => { cs with choices := children.choices ++ cs.choices }
  | _, none => children

def valueCompletions (f : Flag) : Completions :=
  match f.candidates with
  | some (.extensions es) => .ofTexts es .byExtension
  | some .directories => { directive := .directories }
  | some (.values vs) => .ofTexts vs .noFiles
  | some .files | none => {}

def readArguments? (c : Command) (fs : FlagSet) (arguments : List Text) :
    Option (FlagSet × List Text × Bool) :=
  if c = .complete then
    some (fs, arguments, true)
  else
    -- Two dashes at the end count as an argument exactly if there are two dashes before them.
    let ended := fs.parse (arguments ++ [twoDashes])
    let p := FlagSet.parse ended.flags arguments
    match p.fault with
    | some _ => none
    | none => some (p.flags, p.rest, ended.rest.length ≤ p.rest.length)

def completions (arguments : List Text) : Completions :=
  match Command.find true arguments.dropLast with
  | .error _ => {}
  | .ok (c, rest) =>
    let typed := arguments.getLastD []
    let cursor : Cursor :=
      if c = .complete then { arguments := rest, word := typed } else Cursor.find c.flags rest typed
    match readArguments? c c.flags cursor.arguments with
    | none => {}
    | some (fs, rest, offersFlags) =>
      if cursor.unknown ∧ offersFlags then
        {}
      else if (fs.find? "help").any Flag.changed then
        { directive := .noFiles }
      else
        match cursor.flag with
        | some f =>
          if offersFlags then valueCompletions f
          else (argumentCompletions? c rest cursor.word).getD {}
        | none =>
          if offersFlags ∧ isDashed cursor.word ∧ !List.contains cursor.word '='.toUInt8 then
            { choices := c.flagChoices fs cursor.word, directive := .noFiles }
          else
            c.wordCompletions rest cursor.word

end Command

end CommandLine

end Commentary
