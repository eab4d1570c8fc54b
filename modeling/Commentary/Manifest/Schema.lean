import Commentary.Json
import Commentary.Yaml.Node

/-!
This module contains the schema of manifest files. The same schema decides which values are manifests
and is printed for editors to use.
-/

namespace Commentary

structure RecordNotes where
  nullable : Bool := false
  title : Option String := none
  description : Option String := none
  required : List String := []
  deriving DecidableEq, Repr

inductive Schema where
  | text (description : Option String)
  | texts (description : String)
  | record (notes : RecordNotes) (fields : List (String × Schema))

namespace Schema

open Yaml (Node)

def isText : Node → Bool
  | .text _ => true
  | _ => false

mutual

def accepts : Schema → Node → Bool
  | .text _, value => isText value
  | .texts _, .null => true
  | .texts _, .sequence items => items.all isText
  | .record notes _, .null => notes.nullable
  | .record notes fields, .mapping entries =>
    notes.required.all (fun name => entries.any fun e => e.1 = Text.ofString name) &&
      entries.all fun (name, value) => acceptsField fields name value
  | _, _ => false

def acceptsField : List (String × Schema) → Text → Node → Bool
  | [], _, _ => false
  | (field, schema) :: fields, name, value =>
    if Text.ofString field = name then schema.accepts value else acceptsField fields name value

end

def textJson (s : String) : Json :=
  .text s

def typeJson (nullable : Bool) (type : String) : Json :=
  if nullable then .list [.text "null", .text type] else .text type

def noteJson (name : String) (note : Option String) : List (String × Json) :=
  (note.map fun note => (name, Json.text note)).toList

mutual

def toJson : Schema → Json
  | .text description => .record (("type", typeJson false "string") :: noteJson "description" description)
  | .texts description =>
    .record
      [("type", typeJson true "array"), ("items", .record [("type", typeJson false "string")]),
       ("description", .text description)]
  | .record notes fields =>
    .record <|
      [("type", typeJson notes.nullable "object"), ("properties", .record (fieldsJson fields))] ++
        noteJson "description" notes.description ++
        (if notes.required = [] then [] else [("required", .list (notes.required.map textJson))]) ++
        noteJson "title" notes.title ++
        [("additionalProperties", .bool false)]

def fieldsJson : List (String × Schema) → List (String × Json)
  | [] => []
  | (name, schema) :: fields => (name, schema.toJson) :: fieldsJson fields

end

def print (s : Schema) : Text :=
  s.toJson.pretty 0 ++ [Text.lf]

end Schema

namespace Manifest

def schema : Schema :=
  .record { title := some "commentdoc manifest" }
    [("messages",
      .record
        { nullable := true
          description := some "page listing every message of an annotated enum"
          required := ["source", "output"] }
        [("source", .text (some "annotated enum source file")),
         ("output", .text (some "markdown file to write")),
         ("enum", .text (some "name of the documented enum")),
         ("template", .text (some "Go text/template file for the page layout"))]),
     ("configuration",
      .record
        { nullable := true
          description := some "pages extracted from an annotated Lua configuration script"
          required := ["source", "outputs"] }
        [("source", .text (some "annotated Lua configuration script")),
         ("namespace", .text (some "reserved prefix of documented declarations")),
         ("outputs",
          .record
            { description := some "markdown file per document; empty entries are not written" }
            [("overview", .text none), ("general", .text none), ("node-types", .text none),
             ("layouts", .text none), ("modes", .text none)])]),
     ("functions",
      .record
        { nullable := true
          description := some "page listing documented functions"
          required := ["source", "output"] }
        [("source", .text (some "annotated function source file")),
         ("output", .text (some "markdown file to write")),
         ("prefix", .text (some "text prepended to every function heading")),
         ("keyword", .text (some "keyword introducing a function declaration"))]),
     ("root", .text (some "directory that relative paths are resolved against")),
     ("formatter", .texts "command run once from root after every page is written")]

end Manifest

end Commentary
