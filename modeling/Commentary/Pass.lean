import Commentary.Text.Basic

/-!
This module contains the passes that pages are generated in.
-/

namespace Commentary

inductive Pass where
  | messages
  | configuration
  | functions
  deriving DecidableEq, Repr

namespace Pass

def all : List Pass :=
  [.messages, .configuration, .functions]

def name : Pass → String
  | .messages => "messages"
  | .configuration => "configuration"
  | .functions => "functions"

def names : List String :=
  all.map name

def ofName? (name : Text) : Option Pass :=
  all.find? fun p => Text.ofString p.name = name

end Pass

end Commentary
