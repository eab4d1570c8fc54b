import Commentary.CommandLine.Complete
import Commentary.CommandLine.Help
import Commentary.Generate.Run
import Commentary.Version

/-!
This module contains what the program does for its arguments.
-/

namespace Commentary

namespace CommandLine

structure Invocation where
  arguments : List Text
  input : Text := []
  output : Stream := .working
  build : BuildData := .current
  platform : Platform := {}

inductive Failure where
  | arguments (fault : Command.Fault)
  | error (cause : Error)
  deriving DecidableEq, Repr

def Failure.message : Failure → Text
  | .arguments fault => fault.message
  | .error cause => cause.message

structure Result where
  fs : FileSystem
  output : Text := []
  notes : Text := []
  failure : Option Failure := none
  deriving DecidableEq, Repr

namespace Result

def fail (fs : FileSystem) (e : Error) : Result where
  fs
  failure := some (.error e)

def print (i : Invocation) (fs : FileSystem) (t : Text) : Result :=
  match i.output.refuses? [] t with
  | none => { fs, output := t }
  | some (taken, reason) => { fail fs (.outputStream reason) with output := t.take taken }

def tryPrint (i : Invocation) (fs : FileSystem) (t : Text) : Result :=
  match i.output.refuses? [] t with
  | none => { fs, output := t }
  | some (taken, _) => { fs, output := t.take taken }

end Result

def GenerateOptions.loadManifest (o : GenerateOptions) (fs : FileSystem) (yaml : Yaml.Loader) :
    Except Error Manifest := do
  let m ← if o.manifest = [] then pure Manifest.standard else Manifest.load fs o.manifest yaml
  return if o.root = [] then m else { m with root := o.root }

def generate (i : Invocation) (h : Log.Handler) (o : GenerateOptions) (passes : List Text)
    (fs : FileSystem) : Result :=
  match o.loadManifest fs i.platform.yaml with
  | .error e => .fail fs e
  | .ok m =>
    let options : Generate.Options :=
      { dryRun := if o.dryRun then some i.output else none
        formats := !o.noFormat
        platform := i.platform }
    let outcome := Generate.run m options fs passes
    { fs := outcome.fs
      output := outcome.output
      notes := h.writeAll outcome.records
      failure := outcome.error.map .error }

def pageName (pass : Pass) (t : Target) : Text :=
  match pass with
  | .configuration => Generate.configurationPageName t
  | pass => pass.name

def readSource (i : Invocation) (fs : FileSystem) (path : Text) : Except Error Text :=
  if path = "-" then .ok i.input else (fs.readFile path).mapError .sourceFile

def renderPage (i : Invocation) (o : GenerateOptions) (fs : FileSystem) (pass target path : Text) :
    Except Error (Text × List Log.Record) := do
  let p ← Pass.parse pass
  let t ← match Target.ofName? target with
    | some t => .ok t
    | none => .error (.unknownTarget target)
  let text ← readSource i fs path
  let m ← o.loadManifest fs i.platform.yaml
  let pages ← Generate.pagesOf (i.platform.engine 0) m fs text p
  match pages.find? fun page => page.name = pageName p t with
  | none => .error (.pageNotProduced (pageName p t))
  | some page => .ok (page.content, Generate.renderRecords m text p pages)

def render (i : Invocation) (h : Log.Handler) (o : GenerateOptions) (pass target path : Text)
    (fs : FileSystem) : Result :=
  match renderPage i o fs pass target path with
  | .error e => .fail fs e
  | .ok (content, records) => { Result.print i fs content with notes := h.writeAll records }

def help (i : Invocation) (arguments : List Text) (fs : FileSystem) : Result :=
  match Command.find false arguments with
  | .ok (c, _) => .tryPrint i fs c.helpText
  | .error _ => .tryPrint i fs (Command.unknownTopic arguments)

def complete (i : Invocation) (arguments : List Text) (fs : FileSystem) : Result :=
  let briefly := (Command.plainArguments Command.sharedFlags i.arguments).head? =
    some (Text.ofString Command.completeBriefly)
  let completions := Command.completions arguments
  { Result.tryPrint i fs (completions.print !briefly) with notes := completions.note }

def perform (i : Invocation) (h : Log.Handler) (c : Command) (flags : FlagSet) (arguments : List Text)
    (fs : FileSystem) : Result :=
  match c, arguments with
  | .generate, passes => generate i h (GenerateNames.read {} flags) passes fs
  | .render, [pass, path] =>
    render i h { manifest := flags.text "manifest" } pass (flags.text "target") path fs
  | .schema, _ => .print i fs Manifest.schema.print
  | .version, _ => .print i fs ((VersionInfo.ofBuild i.build).describe ++ "\n")
  | .help, arguments => help i arguments fs
  | .complete, arguments => complete i arguments fs
  | _, _ => { fs }

/--
Run a command between the start and the end of its profiles. They are not ended if the command fails.
-/
def performProfiled (i : Invocation) (c : Command) (flags : FlagSet) (arguments : List Text)
    (fs : FileSystem) : Result :=
  let options := LogNames.read {} flags
  match Log.Handler.ofNames options.level options.format with
  | .error e => .fail fs e
  | .ok h =>
    let started := Profiler.start { config := ProfileNames.read {} flags } fs i.platform.refuses?
    match started.error with
    | some e => .fail started.fs e
    | none =>
      let result := perform i h c flags arguments started.fs
      match result.failure with
      | some _ => result
      | none =>
        let stopped := started.profiler.stop result.fs i.platform.refuses?
        { result with fs := stopped.fs, failure := stopped.error.map .error }

def runCommand (i : Invocation) (c : Command) (arguments : List Text) (fs : FileSystem) : Result :=
  let parsed : FlagSet.Parsed :=
    if c = .complete then { flags := c.flags, rest := arguments } else c.flags.parse arguments
  match parsed.fault with
  | some fault => { fs, failure := some (.arguments (.flag fault)) }
  | none =>
    if parsed.flags.bool "help" ∨ !c.isRunnable then
      .tryPrint i fs c.helpText
    else
      match c.fault? parsed.rest with
      | some fault => { fs, failure := some (.arguments fault) }
      | none => performProfiled i c parsed.flags parsed.rest fs

def run (i : Invocation) (fs : FileSystem) : Result :=
  match Command.find true i.arguments with
  | .error fault => { fs, failure := some (.arguments fault) }
  | .ok (c, arguments) => runCommand i c arguments fs

end CommandLine

end Commentary
