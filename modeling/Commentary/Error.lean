import Commentary.FileSystem
import Commentary.Manifest.Basic
import Commentary.Text.Quoted

/-!
This module contains the causes for which the generation of pages fails, and their wording.
-/

namespace Commentary

inductive Error where
  | passFailed (pass : Text) (cause : Error)
  | unknownPass (name : Text)
  | passNotConfigured (pass : Pass)
  | cancelled
  -- A line of a configuration script begins like a declaration and has no word on it. This ends the
  -- program, whatever else it is doing.
  | declarationWithoutName
  | unknownTarget (name : Text)
  | pageNotProduced (page : Text)
  | manifestFile (cause : FileError)
  | manifestMalformed
  | manifestIncomplete (fault : Manifest.Fault)
  | manifestAt (path : Text) (cause : Error)
  | sourceFile (cause : FileError)
  | templateFile (cause : FileError)
  | templateMalformed
  | outputFile (cause : FileError)
  | outputStream (reason : Text)
  | unknownLogLevel (name : Text)
  | unknownLogFormat (name : Text)
  | invalidArgument (cause : Error)
  | profileInUse
  | profileFile (profile : String) (cause : FileError)
  | several (first : Error) (others : Error)
  deriving DecidableEq, Repr

namespace Error

def message : Error → Text
  | .passFailed pass cause => "pass failed: " ++ pass ++ ": " ++ cause.message
  | .unknownPass name => "unknown pass: " ++ Text.quote name
  | .passNotConfigured pass => "pass not configured: " ++ Text.ofString pass.name
  | .cancelled => "context canceled"
  | .declarationWithoutName => "declaration without a name"
  | .unknownTarget name => "unknown target: " ++ Text.quote name
  | .pageNotProduced page => "page not produced: " ++ page
  | .manifestFile cause => "manifest: " ++ cause.message
  | .manifestMalformed => "manifest: malformed"
  | .manifestIncomplete fault => "manifest: " ++ fault.message
  | .manifestAt path cause => path ++ ": " ++ cause.message
  | .sourceFile cause => "read source: " ++ cause.message
  | .templateFile cause => "read source: template: " ++ cause.message
  | .templateMalformed => "render: malformed template"
  | .outputFile cause => "write output: " ++ cause.message
  | .outputStream reason => "write output: " ++ reason
  | .unknownLogLevel name => "unknown log level: " ++ Text.quote name
  | .unknownLogFormat name => "unknown log format: " ++ Text.quote name
  | .invalidArgument cause => "invalid argument: " ++ cause.message
  | .profileInUse => "profile: cpu: cpu profiling already in use"
  | .profileFile profile cause => "profile: " ++ profile ++ ": " ++ cause.message
  | .several first others => first.message ++ [Text.lf] ++ others.message

end Error

def Pass.parse (name : Text) : Except Error Pass :=
  match ofName? name with
  | some p => .ok p
  | none => .error (.unknownPass name)

end Commentary
