import Commentary.CommandLine.Run

/-!
This module contains the program: it takes a picture of the files, runs on it, and carries out on the
files what has changed in the picture.
-/

namespace Commentary

namespace Program

partial def readTree (path : String) : IO (List (Location × Entry)) := do
  let location : Location := Path.parts (Text.ofString path)
  try
    let resolved ← IO.FS.realPath path
    match (← resolved.symlinkMetadata).type with
    | .dir =>
      let below ← (← resolved.readDir).toList.mapM fun e => do
        match (← e.path.symlinkMetadata).type with
        | .dir | .file => readTree e.path.toString
        | _ => return []
      return (location, .directory) :: below.flatten
    | .file =>
      let bytes ← IO.FS.readBinFile resolved
      return [(location, .file (.text bytes.toList))]
    | _ => return []
  catch _ => return []

def directoriesAbove (l : Location) : List (Location × Entry) :=
  (List.range (l.length - 1)).map fun n => (l.take (n + 1), .directory)

def placesOf (argument : String) : List Text :=
  let named := ((Text.cut? "=" argument).map Prod.snd).getD (Text.ofString argument)
  [named, Path.parent named].filter fun p => p ≠ [] && Path.clean p ≠ [Path.separator]

def readFiles (arguments : List String) : IO FileSystem := do
  let here := (← IO.FS.realPath ".").toString
  let workingDirectory := Path.parts (Text.ofString here)
  let mut entries ← readTree here
  for place in arguments.flatMap placesOf do
    match Text.toString? place with
    | none => pure ()
    | some place =>
      try
        let path := (← IO.FS.realPath place).toString
        let location := Path.parts (Text.ofString path)
        if !workingDirectory.isPrefixOf location then
          entries := entries ++ directoriesAbove location ++ (← readTree path)
      catch _ => pure ()
  return { workingDirectory, entries := entries ++ directoriesAbove workingDirectory }

def pathOf (l : Location) : String :=
  (Text.toString? (Path.separator :: Text.join [Path.separator] l)).getD ""

def writeFiles (before after : FileSystem) : IO Unit := do
  for (location, entry) in after.entries.reverse do
    if before.get? location ≠ some entry then
      match entry with
      | .directory => IO.FS.createDirAll (pathOf location)
      | .file contents =>
        IO.FS.createDirAll (pathOf location.dropLast)
        IO.FS.writeBinFile (pathOf location) ⟨contents.bytes.toArray⟩
  for (location, entry) in before.entries do
    match entry, after.get? location with
    | .file _, none => IO.FS.removeFile (pathOf location)
    | _, _ => pure ()

partial def readInput (input : IO.FS.Stream) (bytes : ByteArray) : IO ByteArray := do
  let more ← input.read 65536
  if more.isEmpty then return bytes else readInput input (bytes ++ more)

def print (stream : IO.FS.Stream) (t : Text) : IO Unit := do
  stream.write ⟨t.toArray⟩
  stream.flush

end Program

end Commentary

open Commentary in
def main (arguments : List String) : IO UInt32 := do
  let input ←
    if arguments.contains "-" then Program.readInput (← IO.getStdin) .empty else pure .empty
  let fs ← Program.readFiles arguments
  let result := CommandLine.run { arguments := arguments.map Text.ofString, input := input.toList } fs
  Program.writeFiles fs result.fs
  Program.print (← IO.getStdout) result.output
  Program.print (← IO.getStderr) result.notes
  match result.failure with
  | none => return 0
  | some failure =>
    Program.print (← IO.getStderr) (failure.message ++ "\n")
    return 1
