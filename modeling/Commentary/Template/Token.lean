import Commentary.Text.Integer

/-!
This module contains the tokens of page layouts. A layout is text with actions in it; an action stands
between two opening and two closing braces. A dash at its edge, set off by a space, removes the white
space on the other side of the braces.
-/

namespace Commentary

namespace Template

inductive Function where
  | and
  | eq
  | ge
  | gt
  | index
  | le
  | len
  | lt
  | ne
  | not
  | or
  | print
  | printf
  | println
  deriving DecidableEq, Repr

def Function.name : Function → String
  | .and => "and"
  | .eq => "eq"
  | .ge => "ge"
  | .gt => "gt"
  | .index => "index"
  | .le => "le"
  | .len => "len"
  | .lt => "lt"
  | .ne => "ne"
  | .not => "not"
  | .or => "or"
  | .print => "print"
  | .printf => "printf"
  | .println => "println"

def Function.all : List Function :=
  [.and, .eq, .ge, .gt, .index, .le, .len, .lt, .ne, .not, .or, .print, .printf, .println]

inductive Keyword where
  | otherwise
  | close
  | test
  | nothing
  | each
  | focus
  deriving DecidableEq, Repr

def Keyword.name : Keyword → String
  | .otherwise => "else"
  | .close => "end"
  | .test => "if"
  | .nothing => "nil"
  | .each => "range"
  | .focus => "with"

def Keyword.all : List Keyword :=
  [.otherwise, .close, .test, .nothing, .each, .focus]

inductive Token where
  | literal (t : Text)
  | openAction
  | closeAction
  | space
  | dot
  | field (name : Text)
  | variable (name : Text)
  | function (f : Function)
  | keyword (k : Keyword)
  | bool (b : Bool)
  | number (n : Int)
  | text (t : Text)
  | openParen
  | closeParen
  | pipe
  | assign
  | declare
  | comma
  deriving DecidableEq, Repr

namespace Token

def openBraces : Text := "\x7b\x7b"

def closeBraces : Text := "\x7d\x7d"

def isSpace (b : UInt8) : Bool :=
  b = 32 || b = 9 || b = 10 || b = 13

def isWordByte (b : UInt8) : Bool :=
  b = '_'.toUInt8 || ('0'.toUInt8 ≤ b && b ≤ '9'.toUInt8) || ('a'.toUInt8 ≤ b && b ≤ 'z'.toUInt8) ||
    ('A'.toUInt8 ≤ b && b ≤ 'Z'.toUInt8) || 0x80 ≤ b

def afterClose? (t : Text) : Option Text :=
  match t with
  | a :: rest =>
    match if isSpace a then Text.after? ('-'.toUInt8 :: closeBraces) rest else none with
    | some rest => some (rest.dropWhile isSpace)
    | none => Text.after? closeBraces t
  | [] => none

def isWordEnd (t : Text) : Bool :=
  match t with
  | [] => true
  | b :: _ => isSpace b || List.contains (Text.ofString ".,|:()") b || t.startsWith closeBraces

/-! Constants. -/

inductive Piece where
  | byte (b : UInt8)
  | char (c : Char)
  deriving DecidableEq, Repr

def Piece.bytes : Piece → Text
  | .byte b => [b]
  | .char c => String.utf8EncodeChar c

def Piece.value : Piece → Int
  | .byte b => b.toNat
  | .char c => c.toNat

def charOf? (n : Nat) : Option Piece :=
  if n < 0xD800 ∨ (0xE000 ≤ n ∧ n < 0x110000) then some (.char (Char.ofNat n)) else none

def byteOf? (n : Nat) : Option Piece :=
  if n < 256 then some (.byte n.toUInt8) else none

def escape? (quote : Char) : List Char → Option (Piece × List Char)
  | 'a' :: cs => some (.char '\x07', cs)
  | 'b' :: cs => some (.char '\x08', cs)
  | 'f' :: cs => some (.char '\x0c', cs)
  | 'n' :: cs => some (.char '\n', cs)
  | 'r' :: cs => some (.char '\r', cs)
  | 't' :: cs => some (.char '\t', cs)
  | 'v' :: cs => some (.char '\x0b', cs)
  | '\\' :: cs => some (.char '\\', cs)
  | 'x' :: cs => code 16 2 byteOf? cs
  | 'u' :: cs => code 16 4 charOf? cs
  | 'U' :: cs => code 16 8 charOf? cs
  | c :: cs => if c = quote then some (.char c, cs) else code 8 3 byteOf? (c :: cs)
  | [] => none
where
  code (base width : Nat) (make : Nat → Option Piece) (cs : List Char) : Option (Piece × List Char) :=
    if cs.length < width then
      none
    else do
      some (← make (← Integer.ofDigits? base (cs.take width)), cs.drop width)

def pieces? (quote : Char) (cs : List Char) : Option (List Piece) :=
  go cs.length cs
where
  go : (fuel : Nat) → List Char → Option (List Piece)
    | _, [] => some []
    | 0, _ :: _ => none
    | fuel + 1, '\\' :: cs => do
      let (piece, cs) ← escape? quote cs
      some (piece :: (← go fuel cs))
    | fuel + 1, c :: cs =>
      if c = quote ∨ c = '\n' then none else (go fuel cs).map (.char c :: ·)

def quoted? (quote : UInt8) : Text → Option (Text × Text)
  | [] => none
  | 92 :: b :: t => (quoted? quote t).map fun (inside, rest) => (92 :: b :: inside, rest)
  | b :: t =>
    if b = quote then some ([], t) else (quoted? quote t).map fun (inside, rest) => (b :: inside, rest)

def charsOf (t : Text) : List Char :=
  t.symbols.map fun s => s.char?.getD '�'

def text? (inside : Text) : Option Token :=
  (pieces? '"' (charsOf inside)).map fun ps => .text (ps.flatMap Piece.bytes)

def char? (inside : Text) : Option Token :=
  match pieces? '\'' (charsOf inside) with
  | some [piece] => some (.number piece.value)
  | _ => none

def number? (t : Text) : Option Token := do
  let n ← Integer.ofText? t
  if Integer.least ≤ n ∧ n ≤ 0xffffffffffffffff then some (.number n) else none

def word? (t : Text) : Option Token :=
  if t = "true" then
    some (.bool true)
  else if t = "false" then
    some (.bool false)
  else
    match Keyword.all.find? fun k => Text.ofString k.name = t with
    | some k => some (.keyword k)
    | none => (Function.all.find? fun f => Text.ofString f.name = t).map .function

def next? (t : Text) : Option (Token × Text) := do
  match t with
  | [] => none
  | b :: rest =>
    if isSpace b then
      some (.space, rest)
    else if b = '='.toUInt8 then
      some (.assign, rest)
    else if b = ':'.toUInt8 then
      some (.declare, ← Text.after? "=" rest)
    else if b = '|'.toUInt8 then
      some (.pipe, rest)
    else if b = ','.toUInt8 then
      some (.comma, rest)
    else if b = '('.toUInt8 then
      some (.openParen, rest)
    else if b = ')'.toUInt8 then
      some (.closeParen, rest)
    else if b = '"'.toUInt8 then
      let (inside, rest) ← quoted? b rest
      some (← text? inside, rest)
    else if b = '\''.toUInt8 then
      let (inside, rest) ← quoted? b rest
      some (← char? inside, rest)
    else if b = 96 then
      -- Between backticks nothing is special.
      let (inside, rest) ← Text.cut? [96] rest
      some (.text (inside.filter (· ≠ Text.cr)), rest)
    else
      let start := if isWordByte b then [] else [b]
      let rest := if isWordByte b then t else rest
      let word := rest.takeWhile isWordByte
      let rest := rest.dropWhile isWordByte
      if !isWordEnd rest then
        none
      else if start = Text.ofString "." then
        some (if word = [] then .dot else .field word, rest)
      else if start = Text.ofString "$" then
        some (.variable word, rest)
      else if start = [] ∧ word.head?.all fun c => '9'.toUInt8 < c then
        some (← word? word, rest)
      else
        some (← number? (start ++ word), rest)

def tokens? (t : Text) : Option (List Token) :=
  outside t.length t
where
  outside : (fuel : Nat) → Text → Option (List Token)
    | fuel, t =>
      match Text.cut? openBraces t with
      | none => some (literals t)
      | some (before, rest) =>
        let trims := match rest with
          | a :: b :: _ => a = '-'.toUInt8 && isSpace b
          | _ => false
        let before := if trims then Text.dropEndWhile isSpace before else before
        let rest := if trims then rest.drop 2 else rest
        match Text.after? "/*" rest with
        | some comment => do
          let (_, rest) ← Text.cut? "*/" comment
          let rest ← afterClose? rest
          match fuel with
          | 0 => none
          | fuel + 1 => some (literals before ++ (← outside fuel rest))
        | none =>
          match fuel with
          | 0 => none
          | fuel + 1 => do some (literals before ++ .openAction :: (← inside fuel 0 rest))
  inside : (fuel depth : Nat) → Text → Option (List Token)
    | 0, _, _ => none
    | fuel + 1, depth, t =>
      match afterClose? t with
      | some rest =>
        if depth = 0 then do some (.closeAction :: (← outside fuel rest)) else none
      | none => do
        let (token, rest) ← next? t
        match token, depth with
        | .openParen, depth => some (token :: (← inside fuel (depth + 1) rest))
        | .closeParen, 0 => none
        | .closeParen, depth + 1 => some (token :: (← inside fuel depth rest))
        | token, depth => some (token :: (← inside fuel depth rest))
  literals (t : Text) : List Token :=
    if t = [] then [] else [.literal t]

end Token

end Template

end Commentary
