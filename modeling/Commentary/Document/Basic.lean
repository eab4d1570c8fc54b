/-!
This module contains what the extractions have in common: a document grows at its end, so the last
entry of a list is the current one.
-/

namespace Commentary

def mapLast (f : α → α) : List α → List α
  | [] => []
  | [a] => [f a]
  | a :: b :: as => a :: mapLast f (b :: as)

end Commentary
