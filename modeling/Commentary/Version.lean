import Commentary.Text.Basic

/-!
This module contains what is known about the build of a program.
-/

namespace Commentary

structure BuildData where
  version : Text := []
  buildDate : Text := []
  revision : Text := []
  toolchain : Text := []
  system : Text := []
  architecture : Text := []
  deriving DecidableEq, Repr

def BuildData.current : BuildData where
  revision := "unknown"
  toolchain := "go1.25.0"
  system := "linux"
  architecture := "amd64"

structure VersionInfo where
  version : Text
  revision : Text
  buildDate : Text
  toolchain : Text
  platform : Text
  deriving DecidableEq, Repr

namespace VersionInfo

def ofBuild (b : BuildData) : VersionInfo where
  version := if b.version = [] then "devel" else b.version
  revision := b.revision
  buildDate := b.buildDate
  toolchain := b.toolchain
  platform := b.system ++ "/" ++ b.architecture

def describe (i : VersionInfo) : Text :=
  let built : Text := if i.buildDate = [] then [] else Text.ofString " built " ++ i.buildDate
  "commentdoc " ++ i.version ++ " (" ++ i.revision ++ ", " ++ i.toolchain ++ ", " ++ i.platform ++
    ")" ++ built

end VersionInfo

end Commentary
