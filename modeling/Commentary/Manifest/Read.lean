import Commentary.Error
import Commentary.Manifest.Schema
import Commentary.Yaml.Read

/-!
This module contains the reading of manifests from YAML and from files.
-/

namespace Commentary

namespace Manifest

open Yaml (Node)

def fieldOf (value : Node) (name : String) : Node :=
  match value with
  | .mapping entries => (entries.lookup (Text.ofString name)).getD .null
  | _ => .null

def textOf : Node → Text
  | .text t => t
  | _ => []

def textsOf : Node → List Text
  | .sequence items => items.map textOf
  | _ => []

def unlessNull (decode : Node → α) : Node → Option α
  | .null => none
  | value => some (decode value)

def outputsOf (value : Node) : ConfigOutputs where
  overview := textOf (fieldOf value "overview")
  general := textOf (fieldOf value "general")
  nodeTypes := textOf (fieldOf value "node-types")
  layouts := textOf (fieldOf value "layouts")
  modes := textOf (fieldOf value "modes")

def messagesOf (value : Node) : MessagesEntry where
  source := textOf (fieldOf value "source")
  output := textOf (fieldOf value "output")
  enumName := textOf (fieldOf value "enum")
  template := textOf (fieldOf value "template")

def configurationOf (value : Node) : ConfigurationEntry where
  source := textOf (fieldOf value "source")
  namespaceStart := textOf (fieldOf value "namespace")
  outputs := outputsOf (fieldOf value "outputs")

def functionsOf (value : Node) : FunctionsEntry where
  source := textOf (fieldOf value "source")
  output := textOf (fieldOf value "output")
  headingStart := textOf (fieldOf value "prefix")
  keyword := textOf (fieldOf value "keyword")

def ofNode (value : Node) : Manifest where
  messages := unlessNull messagesOf (fieldOf value "messages")
  configuration := unlessNull configurationOf (fieldOf value "configuration")
  functions := unlessNull functionsOf (fieldOf value "functions")
  root := textOf (fieldOf value "root")
  formatter := textsOf (fieldOf value "formatter")

def decode (t : Text) (yaml : Yaml.Loader := Yaml.read?) : Except Error Manifest :=
  match yaml t with
  | none => .error .manifestMalformed
  | some none => .ok {}
  | some (some value) => if schema.accepts value then .ok (ofNode value) else .error .manifestMalformed

def parse (t : Text) (yaml : Yaml.Loader := Yaml.read?) : Except Error Manifest := do
  let m ← decode t yaml
  match m.fault? with
  | some fault => .error (.manifestIncomplete fault)
  | none => .ok m

def load (fs : FileSystem) (path : Text) (yaml : Yaml.Loader := Yaml.read?) : Except Error Manifest := do
  let t ← (fs.readFile path).mapError .manifestFile
  let m ← (parse t yaml).mapError (.manifestAt path)
  .ok (if Path.isAbsolute m.root then m else { m with root := Path.join (Path.parent path) m.root })

end Manifest

end Commentary
