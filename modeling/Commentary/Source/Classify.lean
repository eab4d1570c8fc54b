import Commentary.Source.Token
import Commentary.Text.Blank

/-!
This module contains the classification of source lines. Every line gets a token, whatever its
bytes, with one exception: a configuration declaration is named by its first word, so a line of
white space that counts as a declaration has no token.
-/

namespace Commentary

namespace Source

def variantName (line : Text) : Text :=
  Text.trim (line.takeWhile fun b =>
    !(b = ','.toUInt8 || b = '('.toUInt8 || b = '{'.toUInt8))

def scopeOpener (v : Vocabulary) : Text :=
  "pub enum " ++ v.filled.enumName ++ " \x7b"

def unframe (t : Text) : Text :=
  Text.trim (Text.dropEndWhile (· = '-'.toUInt8) t)

def classifyEnum (v : Vocabulary) (line : Text) : Token :=
  let line := Text.trim line
  if line.startsWith (scopeOpener v) then
    .scopeStart
  else if line = Text.ofString "\x7d" then
    .scopeEnd
  else if let some title := Text.after? "/// ### " line then
    .heading (unframe title) none
  else if line.startsWith "/// " then
    .doc (Text.trim (line.dropWhile fun b => b = '/'.toUInt8 || b = ' '.toUInt8))
  else if line = [] ∨ line = Text.ofString "///" then
    .blank
  else if line.endsWith "," then
    .declaration (variantName line)
  else
    .plain line

def targetHeadings : List (Text × Target) :=
  [("-- # Configuration ", .overview),
   ("-- ## Config ", .overview),
   ("-- ## Function ", .overview),
   ("-- ## On Load ", .overview),
   ("-- ### General Configuration ", .general),
   ("-- ### Node Types ", .nodeTypes),
   ("-- ### Layouts ", .layouts),
   ("-- ### Modes ", .modes)]

def commentText (line : Text) : Text :=
  let text := line.drop 3
  if line.startsWith "-- #" && line.endsWith "--" then
    [Text.lf] ++ unframe text ++ [Text.lf]
  else
    text

def classifyStatement (v : Vocabulary) (line : Text) : Option Token :=
  if line.startsWith "-- " then
    some (.doc (commentText line))
  else if line = Text.ofString "--" then
    some .blank
  else if line.startsWith v.filled.namespaceStart then
    (Text.firstWord? line).map .declaration
  else if Text.isBlank line then
    some .empty
  else
    some (.plain line)

def classifyConfigWith (headings : List (Text × Target)) (v : Vocabulary) (line : Text) :
    Option Token :=
  if line.startsWith "---" then
    some .skip
  else
    (classifyStatement v line).map fun token =>
      match headings.find? fun (start, _) => line.startsWith start with
      | some (_, target) => .heading token.text target
      | none => token

def classifyConfig (v : Vocabulary) (line : Text) : Option Token :=
  classifyConfigWith targetHeadings v line

def functionName (rest : Text) : Text :=
  ((Text.firstWord? rest).getD []).takeWhile fun b => !(b = '('.toUInt8 || b = '<'.toUInt8)

def classifyFunction (v : Vocabulary) (line : Text) : Token :=
  if let some text := Text.after? "///" line then
    .doc (Text.dropSymbol text)
  else if let some rest := Text.after? (v.filled.functionKeyword ++ " ") line then
    .declaration (functionName rest)
  else
    .plain line

def classify (mode : Option Mode) (v : Vocabulary) (line : Text) : Option Token :=
  match mode with
  | some .enumeration => some (classifyEnum v line)
  | some .configuration => classifyConfig v line
  | some .function => some (classifyFunction v line)
  | none => some (.plain line)

end Source

end Commentary
