import Commentary.Text.LowerCase

/-!
This module contains the anchors that links to headings use.
-/

namespace Commentary

def slug (title : Text) : Text :=
  (Text.toLower title).map fun b => if b = ' '.toUInt8 then '-'.toUInt8 else b

end Commentary
