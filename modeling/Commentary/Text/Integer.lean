import Commentary.Text.Symbol

/-!
This module contains the reading of whole numbers.
-/

namespace Commentary

namespace Integer

def digit? (base : Nat) (c : Char) : Option Nat :=
  let value? :=
    if '0' ≤ c ∧ c ≤ '9' then some (c.toNat - '0'.toNat)
    else if 'a' ≤ c ∧ c ≤ 'f' then some (c.toNat - 'a'.toNat + 10)
    else if 'A' ≤ c ∧ c ≤ 'F' then some (c.toNat - 'A'.toNat + 10)
    else none
  value?.filter (· < base)

def ofDigits? (base : Nat) (cs : List Char) : Option Nat :=
  if cs = [] then
    none
  else
    (cs.mapM (digit? base)).map fun ds => ds.foldl (fun n d => n * base + d) 0

def separatorsAreInside (cs : List Char) : Bool :=
  cs.head? ≠ some '_' && cs.getLast? ≠ some '_' &&
    (cs.zip cs.tail).all fun (a, b) => a ≠ '_' || b ≠ '_'

def natural? (cs : List Char) : Option Nat :=
  match cs with
  | '0' :: 'x' :: ds | '0' :: 'X' :: ds => digits 16 ('0' :: ds) ds
  | '0' :: 'o' :: ds | '0' :: 'O' :: ds => digits 8 ('0' :: ds) ds
  | '0' :: 'b' :: ds | '0' :: 'B' :: ds => digits 2 ('0' :: ds) ds
  | '0' :: d :: ds => digits 8 cs (d :: ds)
  | _ => digits 10 cs cs
where
  digits (base : Nat) (whole ds : List Char) : Option Nat :=
    if separatorsAreInside whole then ofDigits? base (ds.filter (· ≠ '_')) else none

def ofChars? : List Char → Option Int
  | '+' :: cs => (natural? cs).map Int.ofNat
  | '-' :: cs => (natural? cs).map fun n => -n
  | cs => (natural? cs).map Int.ofNat

def ofText? (t : Text) : Option Int := do
  ofChars? (← t.symbols.mapM Symbol.char?)

def greatest : Int := 0x7fffffffffffffff

def least : Int := -0x8000000000000000

end Integer

end Commentary
