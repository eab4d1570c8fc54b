import Commentary.FileSystem
import Commentary.Text.Quoted

/-!
This module contains the part of the command shell that is needed to run a formatter on a file system:
commands with quoted words and redirections, in sequence or under the condition of an earlier one.
-/

namespace Commentary

namespace Shell

inductive Connective where
  | always
  | onSuccess
  | onFailure
  deriving DecidableEq, Repr

inductive Destination where
  | create (path : Text)
  | append (path : Text)
  | sameAs (stream : Nat)
  deriving DecidableEq, Repr

inductive Token where
  | word (t : Text)
  | connective (c : Connective)
  | redirect (stream : Nat) (destination : Text → Destination)

structure Command where
  words : List Text := []
  redirections : List (Nat × Destination) := []

def numberOf (t : Text) : Option Nat :=
  if t ≠ [] ∧ t.all (fun b => 48 ≤ b ∧ b ≤ 57) then
    some (t.foldl (fun n b => n * 10 + (b.toNat - 48)) 0)
  else
    none

def isBlankByte (b : UInt8) : Bool :=
  b = 32 || b = 9

def endsWord (b : UInt8) : Bool :=
  isBlankByte b || b = Text.lf || List.contains (Text.ofString ";&|<>") b

def word : (fuel : Nat) → Text → Option (Text × Text)
  | 0, t => some ([], t)
  | _, [] => some ([], [])
  | fuel + 1, b :: t =>
    if b = '\''.toUInt8 then do
      let (inside, t) ← Text.cut? "'" t
      let (more, t) ← word fuel t
      some (inside ++ more, t)
    else if b = '"'.toUInt8 then do
      let (inside, t) ← Text.cut? "\"" t
      let (more, t) ← word fuel t
      some (inside ++ more, t)
    else if b = '\\'.toUInt8 then
      match t with
      | c :: t => (word fuel t).map fun (more, t) => (c :: more, t)
      | [] => some ([b], [])
    else if endsWord b then
      some ([], b :: t)
    else
      (word fuel t).map fun (more, t) => (b :: more, t)

def stream (t : Text) : Destination :=
  .sameAs ((numberOf t).getD 1)

def tokens? : (fuel : Nat) → Text → Option (List Token)
  | _, [] => some []
  | 0, _ :: _ => none
  | fuel + 1, b :: t =>
    if isBlankByte b then
      tokens? fuel t
    else if b = ';'.toUInt8 ∨ b = Text.lf then
      (tokens? fuel t).map (.connective .always :: ·)
    else
      match Text.after? "&&" (b :: t), Text.after? "||" (b :: t) with
      | some t, _ => (tokens? fuel t).map (.connective .onSuccess :: ·)
      | none, some t => (tokens? fuel t).map (.connective .onFailure :: ·)
      | none, none =>
        let (number, rest) :=
          if b = '1'.toUInt8 ∨ b = '2'.toUInt8 then (b.toNat - 48, t) else (1, b :: t)
        match Text.after? ">&" rest, Text.after? ">>" rest, Text.after? ">" rest with
        | some t, _, _ => (tokens? fuel t).map (.redirect number stream :: ·)
        | none, some t, _ => (tokens? fuel t).map (.redirect number .append :: ·)
        | none, none, some t => (tokens? fuel t).map (.redirect number .create :: ·)
        | none, none, none =>
          if endsWord b then
            none
          else do
            let (w, rest) ← word (t.length + 1) (b :: t)
            (tokens? fuel rest).map (.word w :: ·)

def commands? : (current : Connective × Command) → List Token → Option (List (Connective × Command))
  | current, [] => some [current]
  | (c, command), .word w :: ts => commands? (c, { command with words := command.words ++ [w] }) ts
  | current, .connective c :: ts => (commands? (c, {}) ts).map (current :: ·)
  | (c, command), .redirect number destination :: .word w :: ts =>
    commands?
      (c, { command with redirections := command.redirections ++ [(number, destination w)] }) ts
  | _, .redirect _ _ :: _ => none

structure State where
  fs : FileSystem
  output : Text := []
  status : Nat := 0
  exited : Bool := false

abbrev Sink := Option Text

def State.write (s : State) (t : Text) : Sink → State
  | none => { s with output := s.output ++ t }
  | some path =>
    let old := match s.fs.readFile path with
      | .ok old => old
      | .error _ => []
    match s.fs.writeFile path (.text (old ++ t)) with
    | .ok fs => { s with fs }
    | .error _ => s

def complaint (t : Text) : Text :=
  "sh: 1: " ++ t ++ "\n"

def redirect (s : State) : (out err : Sink) → List (Nat × Destination) → Except Text (State × Sink × Sink)
  | out, err, [] => .ok (s, out, err)
  | out, err, (number, destination) :: rest =>
    let set (sink : Sink) : Sink × Sink := if number = 2 then (out, sink) else (sink, err)
    match destination with
    | .sameAs target =>
      let (out, err) := set (if target = 2 then err else out)
      redirect s out err rest
    | .append path =>
      let (out, err) := set (some path)
      redirect (s.write [] (some path)) out err rest
    | .create path =>
      match s.fs.writeFile path (.text []) with
      | .ok fs =>
        let (out, err) := set (some path)
        redirect { s with fs } out err rest
      | .error e =>
        let reason : Text := match e.fault with
          | .isDirectory => "Is a directory"
          | .notDirectory => "Not a directory"
          | _ => "Directory nonexistent"
        .error ("cannot create " ++ path ++ ": " ++ reason)

def cat (out err : Sink) : State → List Text → State
  | s, [] => s
  | s, path :: paths =>
    match s.fs.readFile path with
    | .ok t => cat out err (s.write t out) paths
    | .error e =>
      let reason : Text := match e.fault with
        | .notFound => "No such file or directory"
        | .notDirectory => "Not a directory"
        | .other reason => reason
        | _ => "Is a directory"
      let s := s.write ("cat: " ++ path ++ ": " ++ reason ++ "\n") err
      cat out err { s with status := 1 } paths

def step (s : State) (c : Connective × Command) : State :=
  let due := match c.1 with
    | .always => true
    | .onSuccess => s.status = 0
    | .onFailure => s.status ≠ 0
  if s.exited || !due then
    s
  else
    match redirect s none none c.2.redirections with
    | .error e =>
      let s := s.write (complaint e) none
      { s with status := 2 }
    | .ok (s, out, err) =>
      match c.2.words with
      | [] => s
      | name :: arguments =>
        if name = "echo" then
          let s := s.write (Text.join " " arguments ++ "\n") out
          { s with status := 0 }
        else if name = "cat" then
          cat out err { s with status := 0 } arguments
        else if name = "true" ∨ name = ":" then
          { s with status := 0 }
        else if name = "false" then
          { s with status := 1 }
        else if name = "exit" then
          let status := match arguments with
            | [] => s.status
            | n :: _ => ((numberOf n).getD 2) % 256
          { s with status, exited := true }
        else
          let s := s.write (complaint (name ++ ": not found")) err
          { s with status := 127 }

def runScript (fs : FileSystem) (script : Text) : State :=
  match tokens? script.length script >>= commands? (.always, {}) with
  | some commands => commands.foldl step { fs }
  | none => { fs, output := complaint "Syntax error", status := 2 }

structure Outcome where
  fs : FileSystem
  output : Text := []
  failure : Option Text := none

/--
Run a program with its arguments in a directory. The shell is the only program there is.
-/
def run (fs : FileSystem) (directory : Text) (program : Text) (arguments : List Text) : Outcome :=
  if program = [] then
    { fs, failure := some "exec: no command" }
  else if program ≠ "sh" then
    { fs, failure := some ("exec: " ++ Text.quote program ++ ": executable file not found in $PATH") }
  else
    let here := if directory = [] then Path.here else directory
    match fs.find here, fs.locate here with
    | .error fault, _ => { fs, failure := some ("chdir " ++ directory ++ ": " ++ fault.message) }
    | .ok .directory, .ok location =>
      match arguments with
      | option :: script :: _ =>
        if option = "-c" then
          let s := runScript { fs with workingDirectory := location } script
          { fs := { s.fs with workingDirectory := fs.workingDirectory }
            output := s.output
            failure := if s.status = 0 then none else some ("exit status " ++ Text.ofNat s.status) }
        else
          { fs, failure := some "exit status 2" }
      | _ => { fs }
    | _, _ => { fs, failure := some "fork/exec /usr/bin/sh: not a directory" }

end Shell

end Commentary
