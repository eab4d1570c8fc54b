import Commentary.Log.Basic
import Commentary.Manifest.Read
import Commentary.Markdown.Block
import Commentary.Template.Eval

/-!
This module contains the rendering of the pages that a manifest asks for.
-/

namespace Commentary

structure Page where
  pass : Pass
  name : Text
  path : Text
  content : Text
  deriving DecidableEq, Repr

namespace Generate

def messagesContent (engine : Template.Engine) (m : Manifest) (e : MessagesEntry) (fs : FileSystem)
    (text : Text) : Except Error Text := do
  let document := (Messages.extract m.vocabulary text.lines).1
  if e.template = [] then
    return Page.messages document
  else
    let layout ← (fs.readFile (m.path e.template)).mapError .templateFile
    match Template.page? layout document engine with
    | some content => return content
    | none => .error .templateMalformed

def messagesPages (engine : Template.Engine) (m : Manifest) (e : MessagesEntry) (fs : FileSystem)
    (text : Text) : Except Error (List Page) := do
  let content ← messagesContent engine m e fs text
  return [{ pass := .messages, name := Pass.messages.name, path := m.path e.output, content }]

def configurationPageName (t : Target) : Text :=
  Pass.configuration.name ++ "/" ++ t.name

def ConfigurationEntry.targets (e : ConfigurationEntry) : List Target :=
  Target.all.filter fun t => e.outputs.get t ≠ []

def configurationPages (m : Manifest) (e : ConfigurationEntry) (text : Text) :
    Except Error (List Page) :=
  match ConfigDocs.extract m.vocabulary text.lines with
  | none => .error .declarationWithoutName
  | some docs => .ok <| (ConfigurationEntry.targets e).map fun t =>
    { pass := .configuration
      name := configurationPageName t
      path := m.path (e.outputs.get t)
      content := Page.paragraphs (docs.get t) }

def functionsPages (m : Manifest) (e : FunctionsEntry) (text : Text) : List Page :=
  let docs := FunctionDocs.extract m.vocabulary text.lines
  [{ pass := .functions
     name := Pass.functions.name
     path := m.path e.output
     content := Page.functions e.headingStart docs }]

def pagesOf (engine : Template.Engine) (m : Manifest) (fs : FileSystem) (text : Text) :
    Pass → Except Error (List Page)
  | .messages =>
    match m.messages with
    | none => .error (.passNotConfigured .messages)
    | some e => messagesPages engine m e fs text
  | .configuration =>
    match m.configuration with
    | none => .error (.passNotConfigured .configuration)
    | some e => configurationPages m e text
  | .functions =>
    match m.functions with
    | none => .error (.passNotConfigured .functions)
    | some e => .ok (functionsPages m e text)

def renderSource (m : Manifest) (fs : FileSystem) (pass text : Text)
    (engine : Template.Engine := Template.standard) : Except Error (List Page) := do
  pagesOf engine m fs text (← Pass.parse pass)

structure Request where
  name : Text
  engine : Template.Engine

def sourcePath (m : Manifest) (pass : Pass) : Except Error Text :=
  match m.source? pass with
  | some source => .ok (m.path source)
  | none => .error (.passNotConfigured pass)

def render (m : Manifest) (fs : FileSystem) (cancelled : Bool) (r : Request) :
    Except Error (List Page) := do
  let p ← Pass.parse r.name
  let source ← sourcePath m p
  if cancelled then
    .error .cancelled
  else
    let text ← (fs.readFile source).mapError .sourceFile
    pagesOf r.engine m fs text p

/-! What is logged about a rendering. -/

def extractionRecords (m : Manifest) (text : Text) : Pass → List Log.Record
  | .messages =>
    let document := (Messages.extract m.vocabulary text.lines).1
    [{ level := .debug
       message := "extracted messages"
       attributes := [("categories", document.categories.length), ("messages", document.titledCount)] }]
  | .configuration =>
    match m.configuration, ConfigDocs.extract m.vocabulary text.lines with
    | some e, some docs => (ConfigurationEntry.targets e).map fun t =>
      { level := .debug
        message := "extracted configuration document"
        attributes :=
          [("target", .text t.name), ("paragraphs", (docs.get t).length),
           ("lines", (docs.get t).lineCount)] }
    | _, _ => []
  | .functions =>
    let docs := FunctionDocs.extract m.vocabulary text.lines
    [{ level := .debug
       message := "extracted functions"
       attributes := [("functions", docs.functions.length), ("orphan", docs.orphan.isSome)] }]

def pageRecord (p : Page) : Log.Record where
  level := .info
  message := "rendered page"
  attributes :=
    [("pass", .text p.pass.name), ("page", .text p.name), ("output", .text p.path),
     ("headings", (Markdown.outline p.content).length)]

def renderRecords (m : Manifest) (text : Text) (pass : Pass) (pages : List Page) : List Log.Record :=
  extractionRecords m text pass ++ pages.map pageRecord

end Generate

end Commentary
