import Commentary.CommandLine.Flag
import Commentary.Log.Basic
import Commentary.Profile

/-!
This module contains the flags that set the options of generation, logging and profiling.
-/

namespace Commentary

namespace CommandLine

inductive CompletionFault where
  | noFlagForFiles (name : Text)
  | noFlagForValues (name : Text)
  | alreadySet (name : Text)
  deriving DecidableEq, Repr

def CompletionFault.message : CompletionFault → Text
  | .noFlagForFiles name => "registering " ++ name ++ " completion: no such flag -" ++ name
  | .noFlagForValues name =>
    "registering " ++ name ++ " completion: RegisterFlagCompletionFunc: flag '" ++ name ++
      "' does not exist"
  | .alreadySet name =>
    "registering " ++ name ++ " completion: RegisterFlagCompletionFunc: flag '" ++ name ++
      "' already registered"

namespace FlagSet

def completeFiles (name : Text) (c : Candidates) (fs : FlagSet) : Except CompletionFault FlagSet :=
  match find? fs name with
  | none => .error (.noFlagForFiles name)
  | some _ => .ok (update fs name fun f => { f with candidates := some c })

def completeValues (name : Text) (values : List Text) (fs : FlagSet) :
    Except CompletionFault FlagSet :=
  match find? fs name with
  | none => .error (.noFlagForValues name)
  | some f =>
    if f.candidates.isSome then
      .error (.alreadySet name)
    else
      .ok (update fs name fun f => { f with candidates := some (.values values) })

end FlagSet

def listed (names : List String) : Text :=
  "[" ++ Text.join " " (names.map Text.ofString) ++ "]"

def manifestFlag (name : Text) : Flag where
  name
  shorthand := some 'm'.toUInt8
  initial := .text []
  description := "manifest file (default: built-in xplr layout)"

structure GenerateOptions where
  manifest : Text := []
  root : Text := []
  dryRun : Bool := false
  noFormat : Bool := false
  deriving DecidableEq, Repr

structure GenerateNames where
  manifest : Text := "manifest"
  root : Text := "root"
  dryRun : Text := "dry-run"
  noFormat : Text := "no-format"
  deriving DecidableEq, Repr

namespace GenerateNames

def flags (n : GenerateNames) : FlagSet :=
  [manifestFlag n.manifest,
   { name := n.root
     shorthand := some 'C'.toUInt8
     initial := .text []
     description := "directory that manifest paths are resolved against (overrides the manifest)" },
   { name := n.dryRun
     shorthand := some 'n'.toUInt8
     initial := .bool false
     description := "print rendered pages to stdout instead of writing them" },
   { name := n.noFormat
     initial := .bool false
     description := "do not run the manifest's formatter command" }]

def completions (n : GenerateNames) (fs : FlagSet) : Except CompletionFault FlagSet := do
  let fs ← fs.completeFiles n.manifest (.extensions ["yaml", "yml"])
  fs.completeFiles n.root .directories

def read (n : GenerateNames) (fs : FlagSet) : GenerateOptions where
  manifest := fs.text n.manifest
  root := fs.text n.root
  dryRun := fs.bool n.dryRun
  noFormat := fs.bool n.noFormat

end GenerateNames

structure LogOptions where
  level : Text := Log.Level.info.name
  format : Text := Log.Format.text.name
  deriving DecidableEq, Repr

structure LogNames where
  level : Text := "log-level"
  format : Text := "log-format"
  deriving DecidableEq, Repr

namespace LogNames

def flags (n : LogNames) : FlagSet :=
  [{ name := n.level
     initial := .text Log.Level.info.name
     description := "log level, one of: " ++ listed (Log.Level.all.map Log.Level.name) },
   { name := n.format
     initial := .text Log.Format.text.name
     description := "log format, one of: " ++ listed (Log.Format.all.map Log.Format.name) }]

def completions (n : LogNames) (fs : FlagSet) : Except CompletionFault FlagSet := do
  let fs ← fs.completeValues n.level (Log.Level.all.map fun l => Text.ofString l.name)
  fs.completeValues n.format (Log.Format.all.map fun f => Text.ofString f.name)

def read (n : LogNames) (fs : FlagSet) : LogOptions :=
  match fs.value? n.level, fs.value? n.format with
  | some (.text level), some (.text format) => { level, format }
  | _, _ => {}

end LogNames

structure ProfileNames where
  cpu : Text := "cpu-profile"
  heap : Text := "heap-profile"
  allocations : Text := "allocs-profile"
  tasks : Text := "goroutine-profile"
  memoryRate : Text := "mem-profile-rate"
  deriving DecidableEq, Repr

namespace ProfileNames

def fileFlag (name description : Text) : Flag where
  name
  initial := .text []
  description

def flags (n : ProfileNames) : FlagSet :=
  [fileFlag n.cpu "write a CPU profile of the command to file",
   fileFlag n.heap "write a heap profile to file when the command ends",
   fileFlag n.allocations "write an allocs profile to file when the command ends",
   fileFlag n.tasks "write a goroutine profile to file when the command ends",
   { name := n.memoryRate
     initial := .number 0
     description := "memory profile rate in bytes per sample (default: runtime default)" }]

def completions (n : ProfileNames) (fs : FlagSet) : Except CompletionFault FlagSet :=
  fs.completeValues n.memoryRate []

def read (n : ProfileNames) (fs : FlagSet) : ProfileConfig where
  cpu := fs.text n.cpu
  heap := fs.text n.heap
  allocations := fs.text n.allocations
  tasks := fs.text n.tasks
  memoryRate := fs.number n.memoryRate

end ProfileNames

end CommandLine

end Commentary
