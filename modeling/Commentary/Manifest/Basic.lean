import Commentary.Pass
import Commentary.Path
import Commentary.Source.Token

/-!
This module contains the manifest, which says what pages to generate from what sources.
-/

namespace Commentary

structure ConfigOutputs where
  overview : Text := []
  general : Text := []
  nodeTypes : Text := []
  layouts : Text := []
  modes : Text := []
  deriving DecidableEq, Repr

def ConfigOutputs.get (o : ConfigOutputs) : Target → Text
  | .overview => o.overview
  | .general => o.general
  | .nodeTypes => o.nodeTypes
  | .layouts => o.layouts
  | .modes => o.modes

structure MessagesEntry where
  source : Text := []
  output : Text := []
  enumName : Text := []
  template : Text := []
  deriving DecidableEq, Repr

structure ConfigurationEntry where
  source : Text := []
  namespaceStart : Text := []
  outputs : ConfigOutputs := {}
  deriving DecidableEq, Repr

structure FunctionsEntry where
  source : Text := []
  output : Text := []
  headingStart : Text := []
  keyword : Text := []
  deriving DecidableEq, Repr

structure Manifest where
  messages : Option MessagesEntry := none
  configuration : Option ConfigurationEntry := none
  functions : Option FunctionsEntry := none
  root : Text := []
  formatter : List Text := []
  deriving DecidableEq, Repr

namespace Manifest

def standard : Manifest where
  messages := some
    { source := "src/msg/in_/external.rs"
      output := "docs/en/src/messages.md"
      enumName := "ExternalMsg" }
  configuration := some
    { source := "src/init.lua"
      namespaceStart := "xplr."
      outputs :=
        { overview := "docs/en/src/configuration.md"
          general := "docs/en/src/general-config.md"
          nodeTypes := "docs/en/src/node_types.md"
          layouts := "docs/en/src/layouts.md"
          modes := "docs/en/src/modes.md" } }
  functions := some
    { source := "src/lua/util.rs"
      output := "docs/en/src/xplr.util.md"
      headingStart := "xplr.util."
      keyword := "pub fn" }
  root := "."
  formatter := ["prettier", "--write", "docs/en/src"]

def configures (m : Manifest) : Pass → Bool
  | .messages => m.messages.isSome
  | .configuration => m.configuration.isSome
  | .functions => m.functions.isSome

def passes (m : Manifest) : List Pass :=
  Pass.all.filter m.configures

def source? (m : Manifest) : Pass → Option Text
  | .messages => m.messages.map MessagesEntry.source
  | .configuration => m.configuration.map ConfigurationEntry.source
  | .functions => m.functions.map FunctionsEntry.source

def vocabulary (m : Manifest) : Vocabulary where
  enumName := (m.messages.map MessagesEntry.enumName).getD []
  namespaceStart := (m.configuration.map ConfigurationEntry.namespaceStart).getD []
  functionKeyword := (m.functions.map FunctionsEntry.keyword).getD []

def path (m : Manifest) (p : Text) : Text :=
  if p = [] ∨ Path.isAbsolute p then p else Path.join m.root p

inductive Fault where
  | noPasses
  | messagesIncomplete
  | configurationWithoutSource
  | configurationWithoutOutput
  | functionsIncomplete
  deriving DecidableEq, Repr

def Fault.message : Fault → Text
  | .noPasses => "no passes configured"
  | .messagesIncomplete => "messages: source and output are required"
  | .configurationWithoutSource => "configuration: source is required"
  | .configurationWithoutOutput => "configuration: at least one output is required"
  | .functionsIncomplete => "functions: source and output are required"

def fault? (m : Manifest) : Option Fault :=
  if m.passes = [] then
    some .noPasses
  else if m.messages.any fun e => e.source = [] ∨ e.output = [] then
    some .messagesIncomplete
  else if m.configuration.any fun e => e.source = [] then
    some .configurationWithoutSource
  else if m.configuration.any fun e => e.outputs = {} then
    some .configurationWithoutOutput
  else if m.functions.any fun e => e.source = [] ∨ e.output = [] then
    some .functionsIncomplete
  else
    none

end Manifest

end Commentary
