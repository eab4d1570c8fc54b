import Commentary.Markdown.Line

/-!
This module contains the recognition of HTML blocks in markdown: the lines that start one, and what
ends it.
-/

namespace Commentary

namespace Markdown

inductive HtmlEnd where
  | closingTag
  | marker (m : Text)
  | blankLine
  deriving Repr

namespace Html

def isUpper (b : UInt8) : Bool :=
  'A'.toUInt8 ≤ b && b ≤ 'Z'.toUInt8

def isLetter (b : UInt8) : Bool :=
  isUpper b || ('a'.toUInt8 ≤ b && b ≤ 'z'.toUInt8)

def isDigit (b : UInt8) : Bool :=
  '0'.toUInt8 ≤ b && b ≤ '9'.toUInt8

def toLower (t : Text) : Text :=
  t.map fun b => if isUpper b then b + 32 else b

def literalElements : List Text :=
  ["script", "pre", "style", "textarea"].map Text.ofString

def blockElements : List Text :=
  ["address", "article", "aside", "base", "basefont", "blockquote", "body", "caption", "center",
    "col", "colgroup", "dd", "details", "dialog", "dir", "div", "dl", "dt", "fieldset",
    "figcaption", "figure", "footer", "form", "frame", "frameset", "h1", "h2", "h3", "h4", "h5",
    "h6", "head", "header", "hr", "html", "iframe", "legend", "li", "link", "main", "menu",
    "menuitem", "meta", "nav", "noframes", "ol", "optgroup", "option", "p", "param", "search",
    "section", "summary", "table", "tbody", "td", "tfoot", "th", "thead", "title", "tr", "track",
    "ul"].map Text.ofString

def endsAt (stop : HtmlEnd) (line : Text) : Bool :=
  match stop with
  | .closingTag => literalElements.any fun name => Text.contains (toLower line) ("</" ++ name ++ ">")
  | .marker m => Text.contains line m
  | .blankLine => allSpace line

def atLineEnd (t : Text) : Bool :=
  t = [] || t = [Text.lf] || t = [Text.cr, Text.lf]

def afterLiteralName (t : Text) : Bool :=
  match t with
  | [] => true
  | b :: _ =>
    (isSpace b && b ≠ '\x0b'.toUInt8) || b = '>'.toUInt8 || t.startsWith "/>"

def afterBlockName (t : Text) : Bool :=
  atLineEnd t || t.startsWith " " || t.startsWith ">" || t.startsWith "/>"

def elementName? (t : Text) : Option (Text × Text) :=
  match t with
  | b :: _ =>
    if isLetter b then
      some (t.span fun b => isLetter b || isDigit b || b = '-'.toUInt8)
    else
      none
  | [] => none

def isAttributeSpace (b : UInt8) : Bool :=
  b = ' '.toUInt8 || b = '\t'.toUInt8 || b = Text.lf || b = Text.cr

def isAttributeStart (b : UInt8) : Bool :=
  isLetter b || b = '_'.toUInt8 || b = ':'.toUInt8

def isAttributeByte (b : UInt8) : Bool :=
  isAttributeStart b || isDigit b || b = '.'.toUInt8 || b = '-'.toUInt8

def isUnquoted (b : UInt8) : Bool :=
  32 < b && !"\"'=<>\x60".toList.any fun c => c.toUInt8 = b

def attributeValue? (t : Text) : Option Text :=
  match t with
  | [] => none
  | q :: rest =>
    if q = '"'.toUInt8 || q = '\''.toUInt8 then
      match rest.dropWhile (· ≠ q) with
      | _ :: rest => some rest
      | [] => none
    else if isUnquoted q then
      some (rest.dropWhile isUnquoted)
    else
      none

def attribute? (t : Text) : Option Text :=
  let name := t.dropWhile isAttributeSpace
  match t, name with
  | a :: _, b :: _ =>
    if isAttributeSpace a && isAttributeStart b then
      let rest := name.dropWhile isAttributeByte
      match rest.dropWhile isAttributeSpace with
      | e :: value =>
        if e = '='.toUInt8 then
          attributeValue? (value.dropWhile isAttributeSpace)
        else
          some rest
      | [] => some rest
    else
      none
  | _, _ => none

def dropAttributes (t : Text) : Text :=
  go t.length t
where
  go : Nat → Text → Text
    | 0, t => t
    | n + 1, t =>
      match attribute? t with
      | some rest => go n rest
      | none => t

def closesTag (t : Text) : Bool :=
  let t := t.dropWhile (· = ' '.toUInt8)
  match (Text.after? ">" t).or (Text.after? "/>" t) with
  | some rest => atLineEnd (rest.dropWhile (· = ' '.toUInt8))
  | none => false

def startOfTag? (afterParagraph : Bool) (t : Text) : Option HtmlEnd := do
  let closing := Text.after? "/" t
  let body := match closing with
    | some rest => rest.dropWhile (· = ' '.toUInt8)
    | none => t
  let (name, rest) ← elementName? body
  let name := toLower name
  let alone := closesTag (dropAttributes rest)
  if blockElements.contains name then
    if alone || afterBlockName rest then some .blankLine else none
  else if alone && !afterParagraph && !(["script", "style", "pre"].map Text.ofString).contains name then
    let hasAttributes := (dropAttributes rest).length < rest.length
    if closing = some body && hasAttributes then none else some .blankLine
  else
    none

def start? (afterParagraph : Bool) (line : Text) : Option HtmlEnd := do
  let (spaces, rest) := line.span (· = ' '.toUInt8)
  if 3 < spaces.length then
    none
  else
    let t ← Text.after? "<" rest
    let literal := literalElements.any fun name =>
      match Text.after? name (toLower t) with
      | some rest => afterLiteralName rest
      | none => false
    if literal then
      some .closingTag
    else if t.startsWith "!--" then
      some (.marker "-->")
    else if t.startsWith "?" then
      some (.marker "?>")
    else if t.startsWith "!" && (t.drop 1).head?.any isUpper then
      some (.marker ">")
    else if t.startsWith "![CDATA[" then
      some (.marker "]]>")
    else
      startOfTag? afterParagraph t

end Html

end Markdown

end Commentary
