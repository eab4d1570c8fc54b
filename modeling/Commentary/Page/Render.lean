import Commentary.Document.Configuration
import Commentary.Document.Functions
import Commentary.Document.Messages
import Commentary.Page.Slug

/-!
This module contains the pages that documents are rendered to.
-/

namespace Commentary

namespace Page

def withFinalNewline (t : Text) : Text :=
  Text.dropEndWhile (· = Text.lf) t ++ [Text.lf]

def contentsLine (c : Category) : Text :=
  "- [" ++ c.title ++ "](#" ++ slug c.title ++ ")"

def sectionLines (s : Section) : List Text :=
  ["#### " ++ s.title, []] ++ s.body ++ [[]]

def categoryLines (c : Category) : List Text :=
  ["### " ++ c.title, []] ++ c.titledSections.flatMap sectionLines

def contents (m : Messages) : Text :=
  Text.join [Text.lf] (m.categories.map contentsLine)

def messageBody (m : Messages) : Text :=
  Text.join [Text.lf] (m.categories.flatMap categoryLines)

def standardHeader : Text :=
  "# Full List of Messages\n\nxplr [messages][1] categorized based on their purpose.\n\n## Categories\n\n"

def standardFooter : Text :=
  "\n\n## Also See:\n\n- [Message][1]\n\n[1]: message.md"

def messages (m : Messages) : Text :=
  withFinalNewline (standardHeader ++ contents m ++ "\n\n" ++ messageBody m ++ standardFooter)

def paragraphs (p : Paragraphs) : Text :=
  withFinalNewline (Text.join "\n\n" ((p.filter (· ≠ [])).map (Text.join [Text.lf])))

def functionEntry (headingStart : Text) (f : FunctionDoc) : Text :=
  "\n### " ++ headingStart ++ f.name ++ "\n\n" ++ Text.join [Text.lf] f.doc ++ [Text.lf]

def functions (headingStart : Text) (d : FunctionDocs) : Text :=
  d.functions.flatMap (functionEntry headingStart) ++
    match d.orphan with
    | some doc => Text.join [Text.lf] doc ++ [Text.lf]
    | none => []

end Page

end Commentary
