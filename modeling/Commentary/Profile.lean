import Commentary.Error

/-!
This module contains the profiles that can be taken of a run.
-/

namespace Commentary

structure ProfileConfig where
  cpu : Text := []
  heap : Text := []
  allocations : Text := []
  tasks : Text := []
  memoryRate : Int := 0
  deriving DecidableEq, Repr

def ProfileConfig.enabled (c : ProfileConfig) : Bool :=
  c.cpu ≠ [] || c.heap ≠ [] || c.allocations ≠ [] || c.tasks ≠ []

structure Profiler where
  config : ProfileConfig
  running : Bool := false
  deriving DecidableEq, Repr

namespace Profiler

structure Outcome where
  profiler : Profiler
  fs : FileSystem
  error : Option Error := none
  deriving DecidableEq, Repr

def start (p : Profiler) (fs : FileSystem) (refuses? : Refusals := fun _ => none) : Outcome :=
  if p.config.cpu = [] then
    { profiler := p, fs }
  else
    match fs.writeFile p.config.cpu (.text []) (refuses? (.writeProfile "cpu" p.config.cpu)) with
    | .error e => { profiler := p, fs, error := some (.profileFile "cpu" e) }
    | .ok fs =>
      if p.running then
        { profiler := p, fs, error := some .profileInUse }
      else
        { profiler := { p with running := true }, fs }

def snapshots (c : ProfileConfig) : List (String × Text) :=
  [("heap", c.heap), ("allocs", c.allocations), ("goroutine", c.tasks)].filter (·.2 ≠ [])

def writeSnapshot (refuses? : Refusals) (fs : FileSystem) (snapshot : String × Text) :
    FileSystem × Option Error :=
  match fs.writeFile snapshot.2 .profile (refuses? (.writeProfile snapshot.1 snapshot.2)) with
  | .ok fs => (fs, none)
  | .error e => (fs, some (.profileFile snapshot.1 e))

def writeSnapshots (refuses? : Refusals) :
    FileSystem → List (String × Text) → FileSystem × Option Error
  | fs, [] => (fs, none)
  | fs, s :: ss =>
    let (fs, error) := writeSnapshot refuses? fs s
    let (fs, others) := writeSnapshots refuses? fs ss
    match error, others with
    | some e, some es => (fs, some (.several e es))
    | none, others => (fs, others)
    | error, none => (fs, error)

def stop (p : Profiler) (fs : FileSystem) (refuses? : Refusals := fun _ => none) : Outcome :=
  let fs := if p.running then fs.rewriteFile p.config.cpu .profile else fs
  let (fs, error) := writeSnapshots refuses? fs (snapshots p.config)
  { profiler := { p with running := false }, fs, error }

end Profiler

end Commentary
