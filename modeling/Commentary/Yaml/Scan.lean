import Commentary.Text.LowerCase

/-!
This module contains the parts of YAML that need no recursion: lines, quoted scalars and block
scalars.
-/

namespace Commentary

namespace Yaml

structure Line where
  column : Nat
  chars : List Char
  deriving Repr

namespace Line

def isSpace (c : Char) : Bool :=
  c = ' ' || c = '\t'

def trim (l : Line) : Line :=
  let (spaces, chars) := l.chars.span isSpace
  { column := l.column + spaces.length, chars }

def isBlank (l : Line) : Bool :=
  match l.trim.chars with
  | [] | '#' :: _ => true
  | _ => false

def drop (n : Nat) (l : Line) : Line :=
  { column := l.column + n, chars := l.chars.drop n }

def isMark (c : Char) (l : Line) : Bool :=
  match l.chars with
  | a :: b :: d :: rest => l.column = 0 && a = c && b = c && d = c && (rest.head?.all isSpace)
  | _ => false

end Line

def splitLines : List Char → List (List Char)
  | [] => [[]]
  | '\r' :: '\n' :: cs => [] :: splitLines cs
  | '\r' :: cs | '\n' :: cs => [] :: splitLines cs
  | c :: cs =>
    match splitLines cs with
    | [] => [[c]]
    | line :: lines => (c :: line) :: lines

def charsOf (t : Text) : List Char :=
  (Text.symbols t).map fun s => s.char?.getD replacementChar

def linesOf (t : Text) : List Line :=
  (splitLines (charsOf t)).map fun cs =>
    let (spaces, chars) := cs.span (· = ' ')
    { column := spaces.length, chars }

def trimEnd (cs : List Char) : List Char :=
  (cs.reverse.dropWhile Line.isSpace).reverse

def withoutComment (cs : List Char) : List Char :=
  go true cs
where
  go (afterSpace : Bool) : List Char → List Char
    | [] => []
    | c :: cs => if c = '#' && afterSpace then [] else c :: go (Line.isSpace c) cs

def endsKey (rest : List Char) : Bool :=
  rest.head?.all Line.isSpace

def plainKey? (cs : List Char) : Option (List Char × List Char) :=
  go [] true cs
where
  go (key : List Char) (afterSpace : Bool) : List Char → Option (List Char × List Char)
    | [] => none
    | c :: cs =>
      if c = ':' && endsKey cs then
        some (trimEnd key.reverse, cs)
      else if c = '#' && afterSpace then
        none
      else
        go (c :: key) (Line.isSpace c) cs

def hexValue (cs : List Char) : Nat :=
  cs.foldl (fun n c =>
    n * 16 + (if c.isDigit then c.toNat - '0'.toNat else c.toLower.toNat - 'a'.toNat + 10)) 0

def escape? : Char → Option Char
  | '0' => some '\x00'
  | 'a' => some '\x07'
  | 'b' => some '\x08'
  | 'e' => some '\x1b'
  | 'f' => some '\x0c'
  | 'n' => some '\n'
  | 'r' => some '\r'
  | 't' | '\t' => some '\t'
  | 'v' => some '\x0b'
  | ' ' => some ' '
  | '"' => some '"'
  | '/' => some '/'
  | '\\' => some '\\'
  | '_' => some '\u00a0'
  | 'N' => some '\u0085'
  | 'L' => some '\u2028'
  | 'P' => some '\u2029'
  | _ => none

def escapeDigits : Char → Nat
  | 'x' => 2
  | 'u' => 4
  | 'U' => 8
  | _ => 0

inductive Piece where
  -- The scalar ends in this line; `rest` follows it.
  | closed (content rest : List Char)
  -- The scalar goes on in the next line. `joined` says that the line break does not count.
  | continued (content : List Char) (joined : Bool)
  | invalid

def Piece.cons (c : Char) : Piece → Piece
  | .closed content rest => .closed (c :: content) rest
  | .continued content joined => .continued (c :: content) joined
  | .invalid => .invalid

def doubleQuoted : (skip : Nat) → List Char → Piece
  | _, [] => .continued [] false
  | skip + 1, _ :: cs => doubleQuoted skip cs
  | 0, '"' :: cs => .closed [] cs
  | 0, ['\\'] => .continued [] true
  | 0, '\\' :: c :: cs =>
    match escape? c, escapeDigits c with
    | some e, _ => (doubleQuoted 0 cs).cons e
    | none, 0 => .invalid
    | none, n + 1 =>
      let digits := cs.take (n + 1)
      if digits.length = n + 1 && digits.all (fun d => d.isDigit || ('a' ≤ d.toLower ∧ d.toLower ≤ 'f')) then
        (doubleQuoted (n + 1) cs).cons (Char.ofNat (hexValue digits))
      else
        .invalid
  | 0, c :: cs => (doubleQuoted 0 cs).cons c

def singleQuoted : List Char → Piece
  | [] => .continued [] false
  | '\'' :: '\'' :: cs => (singleQuoted cs).cons '\''
  | '\'' :: cs => .closed [] cs
  | c :: cs => (singleQuoted cs).cons c

def quoted (quote : Char) (cs : List Char) : Piece :=
  if quote = '"' then doubleQuoted 0 cs else singleQuoted cs

def quotedScalar? (quote : Char) (here : Line) (later : List Line) :
    Option (List Char × Line × List Line) :=
  match quoted quote here.chars with
  | .closed content rest =>
    some (content, { column := here.column + (here.chars.length - rest.length), chars := rest }, later)
  | .invalid => none
  | .continued content joined => go later (if joined then content else trimEnd content) joined 0
where
  go : List Line → List Char → Bool → Nat → Option (List Char × Line × List Line)
    | [], _, _, _ => none
    | line :: later, found, joined, blanks =>
      let line := line.trim
      if line.chars = [] then
        go later found joined (blanks + 1)
      else
        let gap := if joined && blanks = 0 then []
          else if blanks = 0 then [' '] else List.replicate blanks '\n'
        match quoted quote line.chars with
        | .closed content rest =>
          some (found ++ gap ++ content,
            { column := line.column + (line.chars.length - rest.length), chars := rest }, later)
        | .invalid => none
        | .continued content joined =>
          go later (found ++ gap ++ (if joined then content else trimEnd content)) joined 0

inductive Chomping where
  | clip
  | strip
  | keep
  deriving DecidableEq, Repr

def blockHeader? (cs : List Char) : Option (Option Nat × Chomping) :=
  let rec go (indent : Option Nat) (chomping : Option Chomping) :
      List Char → Option (Option Nat × Chomping)
    | [] => some (indent, chomping.getD .clip)
    | '+' :: cs => if chomping.isNone then go indent (some .keep) cs else none
    | '-' :: cs => if chomping.isNone then go indent (some .strip) cs else none
    | c :: cs =>
      if '1' ≤ c ∧ c ≤ '9' ∧ indent.isNone then
        go (some (c.toNat - '0'.toNat)) chomping cs
      else
        none
  go none none (trimEnd (withoutComment cs))

def blockLine (indent : Nat) (l : Line) : List Char :=
  List.replicate (l.column - indent) ' ' ++ l.chars

/--
Fold the lines of a block scalar: the break between two lines that are neither empty nor indented is
read as a space, or left out where empty lines follow.
-/
def fold : List (List Char) → List Char
  | [] => []
  | line :: lines => line ++ go line 0 lines
where
  starts (cs : List Char) : Bool := cs.head?.all fun c => !Line.isSpace c
  go (last : List Char) (blanks : Nat) : List (List Char) → List Char
    | [] => List.replicate blanks '\n'
    | line :: lines =>
      if line = [] then
        go last (blanks + 1) lines
      else if last ≠ [] && starts last && starts line then
        (if blanks = 0 then [' '] else List.replicate blanks '\n') ++ line ++ go line 0 lines
      else
        List.replicate (blanks + 1) '\n' ++ line ++ go line 0 lines

def blockScalar (folded : Bool) (indent : Option Nat) (chomping : Chomping) (least : Nat)
    (lines : List Line) : List Char × List Line :=
  let first? := lines.find? fun l => l.chars ≠ []
  let width := match indent with
    | some n => least - 1 + n
    | none => max least ((first?.map Line.column).getD least)
  let (taken, rest) := lines.span fun l => l.chars = [] || width ≤ l.column
  let content := taken.map (blockLine width)
  let trailing := (content.reverse.takeWhile (· = [])).length
  let body := content.take (content.length - trailing)
  let text := if folded then fold body else (body.intersperse ['\n']).flatten
  let ending := match chomping with
    | .strip => []
    | .clip => if body = [] then [] else ['\n']
    | .keep => if body = [] then List.replicate trailing '\n' else List.replicate (trailing + 1) '\n'
  (text ++ ending, rest)

end Yaml

end Commentary
