import Commentary.Text.Symbol

/-!
This module contains the values that YAML documents describe, and the meaning of scalars without
quotes.
-/

namespace Commentary

namespace Yaml

/--
A YAML value. Numbers keep their written form.
-/
inductive Node where
  | null
  | bool (b : Bool)
  | number (literal : Text)
  | text (t : Text)
  | sequence (items : List Node)
  | mapping (entries : List (Text × Node))
  deriving Repr

namespace Scalar

def isDigitOf (base : Nat) (c : Char) : Bool :=
  let value? :=
    if '0' ≤ c ∧ c ≤ '9' then some (c.toNat - '0'.toNat)
    else if 'a' ≤ c ∧ c ≤ 'f' then some (c.toNat - 'a'.toNat + 10)
    else if 'A' ≤ c ∧ c ≤ 'F' then some (c.toNat - 'A'.toNat + 10)
    else none
  value?.any (· < base)

def allDigits (base : Nat) (cs : List Char) : Bool :=
  cs ≠ [] && cs.all (isDigitOf base)

def isExponent : List Char → Bool
  | [] => true
  | c :: cs =>
    let digits := match cs with
      | '+' :: ds | '-' :: ds => ds
      | ds => ds
    (c = 'e' || c = 'E') && allDigits 10 digits

def isFraction (cs : List Char) : Bool :=
  let (whole, rest) := cs.span (isDigitOf 10)
  match rest with
  | '.' :: rest =>
    let (digits, exponent) := rest.span (isDigitOf 10)
    (whole ≠ [] || digits ≠ []) && isExponent exponent
  | rest => whole ≠ [] && rest ≠ [] && isExponent rest

def isNumber (cs : List Char) : Bool :=
  let unsigned := match cs with
    | '+' :: '-' :: ds | '+' :: ds | '-' :: ds => ds
    | ds => ds
  let digits := unsigned.filter (· ≠ '_')
  cs.head? ≠ some '_' &&
    match digits with
    | '0' :: 'x' :: ds => allDigits 16 ds
    | '0' :: 'o' :: ds => allDigits 8 ds
    | '0' :: 'b' :: ds => allDigits 2 ds
    | '0' :: d :: ds => allDigits 8 (d :: ds) || isFraction digits
    | ds => allDigits 10 ds || isFraction ds

def nulls : List String :=
  ["", "~", "null", "Null", "NULL"]

def truths : List String :=
  ["true", "True", "TRUE"]

def falsehoods : List String :=
  ["false", "False", "FALSE"]

def specialNumbers : List String :=
  [".inf", ".Inf", ".INF", "+.inf", "+.Inf", "+.INF", "-.inf", "-.Inf", "-.INF", ".nan", ".NaN",
   ".NAN"]

end Scalar

def Node.ofPlain (cs : List Char) : Node :=
  let s := String.ofList cs
  let literal := cs.flatMap String.utf8EncodeChar
  if Scalar.nulls.contains s then
    .null
  else if Scalar.truths.contains s then
    .bool true
  else if Scalar.falsehoods.contains s then
    .bool false
  else if Scalar.specialNumbers.contains s || Scalar.isNumber cs then
    .number literal
  else
    .text literal

end Yaml

end Commentary
