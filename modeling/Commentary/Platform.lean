import Commentary.Shell
import Commentary.Template.Eval
import Commentary.Yaml.Read

/-!
This module contains what the program is given by others: the libraries that it is built with, the
programs that it starts and the system that it runs on.
-/

namespace Commentary

abbrev Formatter :=
  FileSystem → (directory program : Text) → (arguments : List Text) → Shell.Outcome

structure Platform where
  -- The engine for layouts, as it behaves in the rendering of the given number.
  engine : Nat → Template.Engine := fun _ => Template.standard
  yaml : Yaml.Loader := Yaml.read?
  formatter : Formatter := Shell.run
  refuses? : Refusals := fun _ => none

end Commentary
