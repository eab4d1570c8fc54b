import Commentary.Generate.Render
import Commentary.Log.Write
import Commentary.Platform

/-!
This module contains the run of several passes: all of them are rendered, then all pages are
delivered, then the formatter is run.
-/

namespace Commentary

/--
A stream that text is written to. Where it does not take the whole of a text, it says how many bytes it
takes at most and for what reason no more; that may depend on all it has received before.
-/
structure Stream where
  refuses? : (received text : Text) → Option (Nat × Text)

namespace Stream

def working : Stream where
  refuses? _ _ := none

def broken (reason : Text) : Stream where
  refuses? _ _ := some (0, reason)

end Stream

namespace Generate

structure Options where
  dryRun : Option Stream := none
  formats : Bool := true
  cancelled : Bool := false
  platform : Platform := {}

structure Progress where
  fs : FileSystem
  output : Text := []
  delivered : Nat := 0
  records : List Log.Record := []
  deriving DecidableEq, Repr

structure Outcome extends Progress where
  error : Option Error := none
  deriving DecidableEq, Repr

def requested (m : Manifest) (passes : List Text) : List Text :=
  if passes = [] then m.passes.map fun p => Text.ofString p.name else passes

/--
The passes of a run in their order, each with the engine as it behaves in its rendering.
-/
def requests (m : Manifest) (engine : Nat → Template.Engine) (passes : List Text) : List Request :=
  (requested m passes).zipIdx.map fun (name, i) => { name, engine := engine i }

def renderPass (m : Manifest) (fs : FileSystem) (cancelled : Bool) (r : Request) :
    Except Error (List Page) :=
  (render m fs cancelled r).mapError (.passFailed r.name)

def renderAll (m : Manifest) (fs : FileSystem) (cancelled : Bool) (rs : List Request) :
    Except Error (List Page) := do
  let pages ← rs.mapM (renderPass m fs cancelled)
  return pages.flatten

def printed (p : Page) : Text :=
  "==> " ++ p.path ++ " <==\n" ++ p.content ++ "\n"

def print (s : Stream) (p : Page) (progress : Progress) : Outcome :=
  match s.refuses? progress.output (printed p) with
  | none =>
    { progress with output := progress.output ++ printed p, delivered := progress.delivered + 1 }
  | some (taken, reason) =>
    { progress with
      output := progress.output ++ (printed p).take taken
      error := some (.outputStream reason) }

def write (refuses? : Refusals) (p : Page) (progress : Progress) : Outcome :=
  match progress.fs.makeDirectories (Path.parent p.path)
      fun directory => refuses? (.makeDirectory progress.delivered directory) with
  | (fs, some e) => { progress with fs, error := some (.outputFile e) }
  | (fs, none) =>
    match fs.writeFile p.path (.text p.content) (refuses? (.writePage progress.delivered p.path)) with
    | .error e => { progress with fs, error := some (.outputFile e) }
    | .ok fs =>
      let record : Log.Record :=
        { level := .debug, message := "wrote page", attributes := [("path", .text p.path)] }
      { progress with
        fs, delivered := progress.delivered + 1, records := progress.records ++ [record] }

def deliver (o : Options) (p : Page) (progress : Progress) : Outcome :=
  match o.dryRun with
  | some stream => print stream p progress
  | none => write o.platform.refuses? p progress

def deliverAll (o : Options) : List Page → Progress → Outcome
  | [], progress => { progress with }
  | p :: ps, progress =>
    let outcome := deliver o p progress
    match outcome.error with
    | some _ => outcome
    | none => deliverAll o ps outcome.toProgress

def format (formatter : Formatter) (m : Manifest) (progress : Progress) : Progress :=
  match m.formatter with
  | [] => progress
  | program :: arguments =>
    let command : Text := Text.join " " m.formatter
    let outcome := formatter progress.fs m.root program arguments
    let record : Log.Record :=
      match outcome.failure with
      | none =>
        { level := .debug, message := "formatter finished", attributes := [("command", .text command)] }
      | some failure =>
        { level := .warn
          message := "formatter failed"
          attributes :=
            [("command", .text command), ("error", .text failure), ("output", .text outcome.output)] }
    { progress with fs := outcome.fs, records := progress.records ++ [record] }

def passRecords (m : Manifest) (fs : FileSystem) (r : Request) : List Log.Record :=
  match Pass.ofName? r.name with
  | none => []
  | some p =>
    match (m.source? p).map fun source => fs.readFile (m.path source) with
    | some (.ok text) =>
      match pagesOf r.engine m fs text p with
      | .ok pages => renderRecords m text p pages
      | .error _ => []
    | _ => []

/--
Render the passes of the given names, or all that are configured if there are none, then deliver their
pages and run the formatter. Nothing is delivered unless every pass succeeds.
-/
def run (m : Manifest) (o : Options) (fs : FileSystem) (passes : List Text) : Outcome :=
  let rs := requests m o.platform.engine passes
  match renderAll m fs o.cancelled rs with
  | .error e => { fs, error := some e }
  | .ok pages =>
    let outcome := deliverAll o pages { fs, records := rs.flatMap (passRecords m fs) }
    match outcome.error with
    | some _ => outcome
    | none =>
      if o.dryRun.isNone ∧ o.formats then
        { format o.platform.formatter m outcome.toProgress with }
      else
        outcome

end Generate

end Commentary
