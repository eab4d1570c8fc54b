import Commentary.Page.Render
import Commentary.Text.Quoted

/-!
This module contains the values that page layouts work with, and how they are shown.
-/

namespace Commentary

namespace Template

inductive Value where
  | nothing
  | text (t : Text)
  | number (n : Int)
  | bool (b : Bool)
  | texts (ts : List Text)
  | section (s : Section)
  | sections (ss : List Section)
  | category (c : Category)
  | categories (cs : List Category)
  | document (m : Messages)
  -- What a layout is given at first. It refers to its document, which lies at the address.
  | page (address : Nat) (m : Messages)
  deriving DecidableEq, Repr

namespace Value

def field? (v : Value) (name : Text) : Option Value :=
  match v with
  | .page _ m =>
    if name = "Document" then some (.document m)
    else if name = "TOC" then some (.text (Page.contents m))
    else if name = "Messages" then some (.text (Page.messageBody m))
    else none
  | .document m => if name = "Categories" then some (.categories m.categories) else none
  | .category c =>
    if name = "Title" then some (.text c.title)
    else if name = "Sections" then some (.sections c.sections)
    else if name = "TitledSections" then some (.sections c.titledSections)
    else none
  | .section s =>
    if name = "Title" then some (.text s.title)
    else if name = "Body" then some (.texts s.body)
    else if name = "Titled" then some (.bool s.titled)
    else none
  | _ => none

def isTrue : Value → Bool
  | .nothing => false
  | .text t => t ≠ []
  | .number n => n ≠ 0
  | .bool b => b
  | .texts ts => ts ≠ []
  | .sections ss => ss ≠ []
  | .categories cs => cs ≠ []
  | .section _ | .category _ | .document _ | .page _ _ => true

def items? : Value → Option (List Value)
  | .texts ts => some (ts.map .text)
  | .sections ss => some (ss.map .section)
  | .categories cs => some (cs.map .category)
  | _ => none

def typeName : Value → String
  | .nothing => "nil"
  | .text _ => "string"
  | .number _ => "int"
  | .bool _ => "bool"
  | .texts _ => "[]string"
  | .section _ => "commentdoc.Section"
  | .sections _ => "[]commentdoc.Section"
  | .category _ => "commentdoc.Category"
  | .categories _ => "[]commentdoc.Category"
  | .document _ => "*commentdoc.Document"
  | .page _ _ => "commentdoc.MessagesPage"

/-! The forms below show every text in the way that `f` does. -/

def showList (items : List Text) : Text :=
  "[" ++ Text.join " " items ++ "]"

def showRecord (fields : List Text) : Text :=
  "\x7b" ++ Text.join " " fields ++ "\x7d"

def showSection (f : Text → Text) (s : Section) : Text :=
  showRecord [f s.title, showList (s.body.map f)]

def showCategory (f : Text → Text) (c : Category) : Text :=
  showRecord [f c.title, showList (c.sections.map (showSection f))]

def showDocument (f : Text → Text) (m : Messages) : Text :=
  showRecord [showList (m.categories.map (showCategory f))]

def showWith (f : Text → Text) (g : Nat → Messages → Text) : Value → Text
  | .nothing => "<no value>"
  | .text t => f t
  | .number n => Text.ofInt n
  | .bool b => if b then "true" else "false"
  | .texts ts => showList (ts.map f)
  | .section s => showSection f s
  | .sections ss => showList (ss.map (showSection f))
  | .category c => showCategory f c
  | .categories cs => showList (cs.map (showCategory f))
  | .document m => showDocument f m
  | .page address m => showRecord [g address m, f (Page.contents m), f (Page.messageBody m)]

def showAddress (address : Nat) : Text :=
  "0x" ++ (Nat.toDigits 16 address).flatMap Text.ofChar

def print (v : Value) : Text :=
  v.showWith id fun address _ => showAddress address

def misplaced (v : Value) : Text :=
  match v with
  | .nothing => "<nil>"
  | .document m => Text.ofString v.typeName ++ "=&" ++ showDocument id m
  | v => Text.ofString v.typeName ++ "=" ++ v.print

def formatWrong (verb : Char) (v : Value) : Text :=
  "%!" ++ Text.ofChar verb ++ "(" ++ v.misplaced ++ ")"

def formatText (verb : Char) (t : Text) : Text :=
  match verb with
  | 'v' | 's' => t
  | 'q' => Text.quote t
  | verb => formatWrong verb (.text t)

def formatReference (verb : Char) (address : Nat) (m : Messages) : Text :=
  match verb with
  | 'v' => showAddress address
  | 'd' => Text.ofNat address
  | verb => formatWrong verb (.document m)

def format (verb : Char) (v : Value) : Text :=
  match verb, v with
  | 'v', .nothing => "<nil>"
  | 'v', .number n => Text.ofInt n
  | 'd', .number n => Text.ofInt n
  | 'q', .number n => Text.quoteCodePoint n
  | 'v', .bool _ => v.print
  | 't', .bool _ => v.print
  | verb, .nothing => formatWrong verb v
  | verb, .number _ => formatWrong verb v
  | verb, .bool _ => formatWrong verb v
  | verb, .document m => "&" ++ showDocument (formatText verb) m
  | verb, v => v.showWith (formatText verb) (formatReference verb)

def uncovered : List Char :=
  "bcoOxXUeEfFgGpT+-# 0123456789.*[".toList

def fill? : (symbols : List Symbol) → (values : List Value) → Option Text
  -- Too few and too many values leave their mark.
  | [], [] => some []
  | [], vs => some ("%!(EXTRA " ++ Text.join ", " (vs.map misplaced) ++ ")")
  | [.char '%'], vs => (fill? [] vs).map ("%!(NOVERB)" ++ ·)
  | .char '%' :: .char '%' :: symbols, vs => (fill? symbols vs).map ("%" ++ ·)
  | .char '%' :: verb :: symbols, vs =>
    if verb.char?.any uncovered.contains then
      none
    else
      match vs with
      | [] => (fill? symbols []).map ("%!" ++ verb.bytes ++ "(MISSING)" ++ ·)
      | v :: vs => (fill? symbols vs).map (v.format (verb.char?.getD '�') ++ ·)
  | s :: symbols, vs => (fill? symbols vs).map (s.bytes ++ ·)

def printAll : List Value → Text
  | [] => []
  | [v] => v.format 'v'
  | v :: w :: vs =>
    let gap : Text := match v, w with
      | .text _, _ | _, .text _ => []
      | _, _ => " "
    v.format 'v' ++ gap ++ printAll (w :: vs)

def printLine (vs : List Value) : Text :=
  Text.join " " (vs.map (format 'v')) ++ "\n"

end Value

end Template

end Commentary
