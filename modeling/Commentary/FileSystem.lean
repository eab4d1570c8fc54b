import Commentary.Path

/-!
This module contains file systems as values: what lies where, and the operations on files and
directories with the ways in which they fail.
-/

namespace Commentary

inductive FileFault where
  | notFound
  | notDirectory
  | isDirectory
  | exists
  | other (reason : Text)
  deriving DecidableEq, Repr

namespace FileFault

def message : FileFault → Text
  | .notFound => "no such file or directory"
  | .notDirectory => "not a directory"
  | .isDirectory => "is a directory"
  | .exists => "file exists"
  | .other reason => reason

end FileFault

structure FileError where
  action : String
  path : Text
  fault : FileFault
  deriving DecidableEq, Repr

def FileError.message (e : FileError) : Text :=
  e.action ++ " " ++ e.path ++ ": " ++ e.fault.message

/--
What the system is asked for while pages and profiles are written, with the number of pages that were
written before.
-/
inductive FileRequest where
  | makeDirectory (written : Nat) (path : Text)
  | writePage (written : Nat) (path : Text)
  | writeProfile (profile : String) (path : Text)
  deriving DecidableEq, Repr

/--
The errors with which a system refuses requests that the files and directories themselves would allow.
-/
abbrev Refusals := FileRequest → Option FileError

/--
What a file holds. The measurements of a profile are not modelled.
-/
inductive Contents where
  | text (t : Text)
  | profile
  deriving DecidableEq, Repr

def Contents.bytes : Contents → Text
  | .text t => t
  | .profile => []

inductive Entry where
  | directory
  | file (contents : Contents)
  deriving DecidableEq, Repr

abbrev Location := List Text

/--
The files and directories of a system. The root directory has no entry of its own.
-/
structure FileSystem where
  workingDirectory : Location := []
  entries : List (Location × Entry) := []
  -- The places whose files cannot be read, with the reasons.
  unreadable : List (Location × FileFault) := []
  deriving DecidableEq, Repr

namespace FileSystem

def get? (fs : FileSystem) (l : Location) : Option Entry :=
  if l = [] then some .directory else fs.entries.lookup l

def put (fs : FileSystem) (l : Location) (e : Entry) : FileSystem :=
  { fs with entries := (l, e) :: fs.entries.filter (·.1 ≠ l) }

def remove (fs : FileSystem) (l : Location) : FileSystem :=
  { fs with entries := fs.entries.filter fun e => !l.isPrefixOf e.1 }

def follow (fs : FileSystem) : Location → List Text → Except FileFault Location
  -- Everything but the end of the way has to be a directory; the end may be missing.
  | l, [] => .ok l
  | l, part :: parts =>
    match fs.get? l with
    | none => .error .notFound
    | some (.file _) => .error .notDirectory
    | some .directory =>
      if part = [] ∨ part = Path.here then
        fs.follow l parts
      else if part = Path.above then
        fs.follow l.dropLast parts
      else
        fs.follow (l ++ [part]) parts

def locate (fs : FileSystem) (p : Text) : Except FileFault Location :=
  if p = [] then
    .error .notFound
  else
    fs.follow (if Path.isAbsolute p then [] else fs.workingDirectory) (Text.split Path.separator p)

def find (fs : FileSystem) (p : Text) : Except FileFault Entry := do
  match fs.get? (← fs.locate p) with
  | some e => .ok e
  | none => .error .notFound

def isDirectory (fs : FileSystem) (p : Text) : Bool :=
  match fs.find p with
  | .ok .directory => true
  | _ => false

def readFile (fs : FileSystem) (p : Text) : Except FileError Text :=
  match fs.locate p with
  | .error fault => .error ⟨"open", p, fault⟩
  | .ok l =>
    match fs.get? l, fs.unreadable.lookup l with
    | none, _ => .error ⟨"open", p, .notFound⟩
    | some .directory, _ => .error ⟨"read", p, .isDirectory⟩
    | some (.file _), some fault => .error ⟨"open", p, fault⟩
    | some (.file contents), none => .ok contents.bytes

def locateForWriting (fs : FileSystem) (p : Text) : Except FileFault Location := do
  let l ← fs.locate (Text.dropEndWhile (· = Path.separator) p)
  if p.getLast? = some Path.separator ∨ fs.get? l = some .directory then
    .error .isDirectory
  else
    .ok l

def writeFile (fs : FileSystem) (p : Text) (contents : Contents) (refusal : Option FileError := none) :
    Except FileError FileSystem :=
  match refusal, fs.locateForWriting p with
  | some e, _ => .error e
  | none, .error fault => .error ⟨"open", p, fault⟩
  | none, .ok l => .ok (fs.put l (.file contents))

/--
Write to a file that has been open since it was written before. Nothing happens if it has been removed.
-/
def rewriteFile (fs : FileSystem) (p : Text) (contents : Contents) : FileSystem :=
  match fs.locateForWriting p with
  | .ok l => if (fs.get? l).isSome then fs.put l (.file contents) else fs
  | .error _ => fs

def makeDirectory (fs : FileSystem) (p : Text) : Except FileError FileSystem :=
  match fs.locate (Text.dropEndWhile (· = Path.separator) p) with
  | .error fault => .error ⟨"mkdir", p, fault⟩
  | .ok l =>
    if (fs.get? l).isSome then .error ⟨"mkdir", p, .exists⟩ else .ok (fs.put l .directory)

def ensureDirectory (fs : FileSystem) (p : Text) (refusal : Option FileError) :
    Except FileError FileSystem :=
  match refusal with
  | some e => .error e
  | none => if fs.isDirectory p then .ok fs else fs.makeDirectory p

def ensureDirectories (refuses? : Text → Option FileError) :
    FileSystem → List Text → FileSystem × Option FileError
  | fs, [] => (fs, none)
  | fs, p :: ps =>
    match fs.ensureDirectory p (refuses? p) with
    | .error e => (fs, some e)
    | .ok fs => ensureDirectories refuses? fs ps

def waypoints (p : Text) : List Text :=
  go [] p
where
  go (before : Text) : Text → List Text
    | [] => []
    | b :: rest =>
      let before := before ++ [b]
      if b = Path.separator ∧ rest ≠ [] then before :: go before rest else go before rest

def makeDirectories (fs : FileSystem) (p : Text)
    (refuses? : Text → Option FileError := fun _ => none) : FileSystem × Option FileError :=
  match fs.find p with
  | .ok .directory => (fs, refuses? p)
  | .ok (.file _) => (fs, some ⟨"mkdir", p, .notDirectory⟩)
  | .error _ => ensureDirectories refuses? fs (waypoints p ++ [p])

def files (fs : FileSystem) : List (Text × Contents) :=
  fs.entries.filterMap fun (l, e) =>
    match e with
    | .directory => none
    | .file contents =>
      if fs.workingDirectory.isPrefixOf l then
        some (Text.join [Path.separator] (l.drop fs.workingDirectory.length), contents)
      else
        none

def empty (workingDirectory : Location) : FileSystem where
  workingDirectory
  entries := (List.range workingDirectory.length).map fun n => (workingDirectory.take (n + 1), .directory)

/--
Write a file and make the directories on the way to it. Nothing happens where that is impossible.
-/
def withFile (fs : FileSystem) (p : Text) (contents : Contents) : FileSystem :=
  match fs.makeDirectories (Path.parent p) with
  | (_, some _) => fs
  | (made, none) =>
    match made.writeFile p contents with
    | .ok after => after
    | .error _ => fs

end FileSystem

end Commentary
