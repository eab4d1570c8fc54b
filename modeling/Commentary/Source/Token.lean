import Commentary.Text.Basic

/-!
This module contains the vocabulary of annotated sources: the modes in which a source is read, the
configuration documents that lines are routed to, and the token that a line is classified as.
-/

namespace Commentary

inductive Mode where
  | enumeration
  | configuration
  | function
  deriving DecidableEq, Repr

namespace Mode

def all : List Mode :=
  [.enumeration, .configuration, .function]

def name : Mode → String
  | .enumeration => "enum"
  | .configuration => "config"
  | .function => "function"

end Mode

inductive Target where
  | overview
  | general
  | nodeTypes
  | layouts
  | modes
  deriving DecidableEq, Repr

namespace Target

def all : List Target :=
  [.overview, .general, .nodeTypes, .layouts, .modes]

def name : Target → String
  | .overview => "overview"
  | .general => "general"
  | .nodeTypes => "node-types"
  | .layouts => "layouts"
  | .modes => "modes"

def ofName? (name : Text) : Option Target :=
  all.find? fun t => Text.ofString t.name = name

def nameOrNone : Option Target → String
  | some t => t.name
  | none => "none"

end Target

inductive Token where
  | plain (line : Text)
  -- A separator that is dropped before any other rule applies.
  | skip
  | scopeStart
  | scopeEnd
  | heading (text : Text) (target : Option Target)
  | doc (text : Text)
  | blank
  | empty
  | declaration (name : Text)
  deriving DecidableEq, Repr

inductive Kind where
  | plain
  | skip
  | scopeStart
  | scopeEnd
  | heading
  | doc
  | blank
  | empty
  | declaration
  deriving DecidableEq, Repr

namespace Kind

def all : List Kind :=
  [.plain, .skip, .scopeStart, .scopeEnd, .heading, .doc, .blank, .empty, .declaration]

def name : Kind → String
  | .plain => "plain"
  | .skip => "skip"
  | .scopeStart => "scope-start"
  | .scopeEnd => "scope-end"
  | .heading => "heading"
  | .doc => "doc"
  | .blank => "blank"
  | .empty => "empty"
  | .declaration => "declaration"

end Kind

namespace Token

def kind : Token → Kind
  | .plain _ => .plain
  | .skip => .skip
  | .scopeStart => .scopeStart
  | .scopeEnd => .scopeEnd
  | .heading _ _ => .heading
  | .doc _ => .doc
  | .blank => .blank
  | .empty => .empty
  | .declaration _ => .declaration

def text : Token → Text
  | .plain t | .heading t _ | .doc t | .declaration t => t
  | .skip | .scopeStart | .scopeEnd | .blank | .empty => []

def target? : Token → Option Target
  | .heading _ target => target
  | _ => none

end Token

def ofNumber? (entries : List α) (number : Int) : Option α :=
  if number < 0 then none else entries[number.toNat]?

def nameOfNumber (entries : List α) (name : α → String) (number : Int) : String :=
  ((ofNumber? entries number).map name).getD "unknown"

def Target.nameOfNumber (number : Int) : String :=
  Commentary.nameOfNumber (none :: all.map some) nameOrNone number

structure Vocabulary where
  enumName : Text := []
  namespaceStart : Text := []
  functionKeyword : Text := []
  deriving DecidableEq, Repr

namespace Vocabulary

def standard : Vocabulary where
  enumName := "ExternalMsg"
  namespaceStart := "xplr."
  functionKeyword := "pub fn"

def orElse (t fallback : Text) : Text :=
  if t = [] then fallback else t

def filled (v : Vocabulary) : Vocabulary where
  enumName := orElse v.enumName standard.enumName
  namespaceStart := orElse v.namespaceStart standard.namespaceStart
  functionKeyword := orElse v.functionKeyword standard.functionKeyword

end Vocabulary

end Commentary
