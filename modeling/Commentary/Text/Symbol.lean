import Commentary.Text.Basic

/-!
This module contains the reading of a text as UTF-8. Bytes that do not take part in a well-formed
encoding are kept one by one, so decoding never fails and loses nothing.
-/

namespace Commentary

inductive Symbol where
  | char (c : Char)
  | stray (b : UInt8)
  deriving DecidableEq, Repr

namespace Symbol

def bytes : Symbol → Text
  | .char c => String.utf8EncodeChar c
  | .stray b => [b]

def char? : Symbol → Option Char
  | .char c => some c
  | .stray _ => none

end Symbol

namespace Text

def continuation? (b : UInt8) : Option Nat :=
  if 0x80 ≤ b ∧ b ≤ 0xBF then some (b.toNat - 0x80) else none

/--
The character whose encoding begins with the byte `a` and goes on with the bytes of `t`, with the
number of bytes it takes from `t`. Overlong forms, surrogates and code points above `0x10FFFF` are
not characters.
-/
def leading? (a : UInt8) (t : Text) : Option (Char × Nat) :=
  if a < 0x80 then
    some (Char.ofNat a.toNat, 0)
  else if a < 0xC2 then
    none
  else if a < 0xE0 then do
    let x ← t[0]? >>= continuation?
    some (Char.ofNat ((a.toNat - 0xC0) * 64 + x), 1)
  else if a < 0xF0 then do
    let x ← t[0]? >>= continuation?
    let y ← t[1]? >>= continuation?
    let n := (a.toNat - 0xE0) * 4096 + x * 64 + y
    if n < 0x800 ∨ (0xD800 ≤ n ∧ n < 0xE000) then none else some (Char.ofNat n, 2)
  else if a < 0xF5 then do
    let x ← t[0]? >>= continuation?
    let y ← t[1]? >>= continuation?
    let z ← t[2]? >>= continuation?
    let n := (a.toNat - 0xF0) * 262144 + x * 4096 + y * 64 + z
    if n < 0x10000 ∨ 0x10FFFF < n then none else some (Char.ofNat n, 3)
  else
    none

def symbols (t : Text) : List Symbol :=
  go 0 t
where
  -- Decode after passing over the first `skip` bytes, which belong to an earlier character.
  go : Nat → Text → List Symbol
    | _, [] => []
    | skip + 1, _ :: t => go skip t
    | 0, a :: t =>
      match leading? a t with
      | some (c, n) => .char c :: go n t
      | none => .stray a :: go 0 t

def ofSymbols (ss : List Symbol) : Text :=
  ss.flatMap Symbol.bytes

def isUtf8 (t : Text) : Bool :=
  (symbols t).all fun s => s.char?.isSome

def toString? (t : Text) : Option String :=
  ((symbols t).mapM Symbol.char?).map String.ofList

def dropSymbol : Text → Text
  | [] => []
  | a :: t =>
    match leading? a t with
    | some (_, n) => t.drop n
    | none => t

end Text

end Commentary
