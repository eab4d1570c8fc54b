import Commentary.Yaml.Node
import Commentary.Yaml.Scan

/-!
This module contains the reading of YAML documents: block and flow collections, scalars in every
style, anchors and aliases, and merge keys.
-/

namespace Commentary

namespace Yaml

structure Input where
  lines : List Line
  anchors : List (List Char × Node) := []

abbrev Reader := StateT Input Option

namespace Reader

def fail : Reader α :=
  fun _ => none

def here : Reader Line :=
  fun s => some (s.lines.head?.getD ⟨0, []⟩, s)

def setHere (l : Line) : Reader Unit :=
  modify fun s => { s with lines := l :: s.lines.tail }

def nextLine : Reader Unit :=
  modify fun s => { s with lines := s.lines.tail }

def skipBlank : Reader Unit :=
  modify fun s => { s with lines := s.lines.dropWhile Line.isBlank }

def atEnd : Reader Bool :=
  return (← get).lines = []

def endLine : Reader Unit := do
  let l ← here
  match l.chars with
  | [] => nextLine
  | c :: _ => if Line.isSpace c && l.isBlank then nextLine else fail

def skipFlow : Reader Unit :=
  modify fun s =>
    match s.lines with
    | [] => s
    | l :: later =>
      if l.isBlank then
        match later.dropWhile Line.isBlank with
        | [] => { s with lines := [] }
        | l :: later => { s with lines := l.trim :: later }
      else
        { s with lines := l.trim :: later }

def define (name : Option (List Char)) (value : Node) : Reader Unit :=
  match name with
  | none => pure ()
  | some name => modify fun s => { s with anchors := (name, value) :: s.anchors }

def lookup (name : List Char) : Reader Node := do
  match (← get).anchors.find? fun (n, _) => n = name with
  | some (_, value) => return value
  | none => fail

def quotedScalar : Reader (List Char) := do
  let s ← get
  match s.lines with
  | { column, chars := quote :: cs } :: later =>
    match quotedScalar? quote { column := column + 1, chars := cs } later with
    | some (value, rest, later) => set { s with lines := rest :: later }; return value
    | none => fail
  | _ => fail

def name (inFlow : Bool) : Reader (List Char) := do
  let l ← here
  let stops (c : Char) := Line.isSpace c || inFlow && (c = ',' || c = ']' || c = '}')
  let name := (l.chars.drop 1).takeWhile fun c => !stops c
  if name = [] && l.chars.head? ≠ some '!' then
    fail
  else
    setHere (l.drop (name.length + 1))
    return name

end Reader

open Reader

def encode (cs : List Char) : Text :=
  cs.flatMap String.utf8EncodeChar

def tagged (tag : Option (List Char)) (cs : List Char) : Node :=
  match tag with
  | some ['!', 's', 't', 'r'] | some [] => .text (encode cs)
  | _ => Node.ofPlain cs

def startsPlain (inFlow : Bool) : List Char → Bool
  | [] => false
  | c :: rest =>
    if c = '-' || c = '?' || c = ':' then
      rest.head?.any fun d =>
        !Line.isSpace d && !(inFlow && (d = ',' || d = ']' || d = '}' || d = '[' || d = '{'))
    else
      !",[]\x7b\x7d#&*!|>'\"%@\x60".toList.contains c

inductive Entry where
  | pair (key : Text) (value : Node)
  | merge (value : Node)

def entriesOf? : Node → Option (List (Text × Node))
  | .mapping entries => some entries
  | _ => none

def merged? : Node → Option (List (Text × Node))
  | .mapping entries => some entries
  | .sequence items => (items.mapM entriesOf?).map List.flatten
  | _ => none

def mappingOf? (entries : List Entry) : Option Node := do
  let pairs ← entries.mapM fun
    | .pair key value => some [(key, value)]
    | .merge value => merged? value
  let pairs := pairs.flatten
  if (pairs.map Prod.fst).Nodup then some (.mapping pairs) else none

def entryOf (isPlain : Bool) (key : List Char) (value : Node) : Entry :=
  if isPlain && key = ['<', '<'] then .merge value else .pair (encode key) value

def flowPlainLine (inMapping : Bool) : (afterSpace : Bool) → List Char → List Char
  | _, [] => []
  | afterSpace, c :: cs =>
    let isEnd :=
      c = ',' || c = ']' || c = '}' || c = '[' || c = '{' || (c = '#' && afterSpace) ||
        (c = ':' &&
          (endsKey cs || cs.head?.any (fun d => d = ',' || d = ']' || d = '}') ||
            inMapping && cs.head? ≠ some '/'))
    if isEnd then [] else c :: flowPlainLine inMapping (Line.isSpace c) cs

def flowPlain (inMapping : Bool) : (fuel : Nat) → Reader (List Char)
  | 0 => fail
  | fuel + 1 => do
    let l ← here
    let found := flowPlainLine inMapping false l.chars
    setHere (l.drop found.length)
    let rest := l.drop found.length
    if !rest.chars = [] then
      return trimEnd found
    else
      skipFlow
      let next ← here
      match next.chars with
      | [] => return trimEnd found
      | c :: _ =>
        if ",[]\x7b\x7d:#".toList.contains c then
          return trimEnd found
        else
          return trimEnd found ++ [' '] ++ (← flowPlain inMapping fuel)

mutual

def flowValue (inMapping : Bool) (tag anchor : Option (List Char)) : (fuel : Nat) → Reader Node
  | 0 => fail
  | fuel + 1 => do
    skipFlow
    let l ← here
    match l.chars with
    | '&' :: _ =>
      let anchor ← name true
      flowValue inMapping tag (some anchor) fuel
    | '!' :: _ =>
      let tag ← name true
      flowValue inMapping (some tag) anchor fuel
    | '*' :: _ => lookup (← name true)
    | '[' :: _ =>
      setHere (l.drop 1)
      let items ← flowItems inMapping fuel
      let value := Node.sequence items
      define anchor value
      return value
    | '{' :: _ =>
      setHere (l.drop 1)
      let entries ← flowEntries fuel
      match mappingOf? entries with
      | some value =>
        define anchor value
        return value
      | none => fail
    | '"' :: _ | '\'' :: _ =>
      let value := Node.text (encode (← quotedScalar))
      define anchor value
      return value
    | ',' :: _ | '}' :: _ | ']' :: _ | [] =>
      let value := tagged tag []
      define anchor value
      return value
    | cs =>
      if startsPlain true cs then
        let value := tagged tag (← flowPlain inMapping fuel)
        define anchor value
        return value
      else
        fail

def flowItems (inMapping : Bool) : (fuel : Nat) → Reader (List Node)
  | 0 => fail
  | fuel + 1 => do
    skipFlow
    let l ← here
    match l.chars with
    | [] | ',' :: _ | '}' :: _ => fail
    | ']' :: _ =>
      setHere (l.drop 1)
      return []
    | _ =>
      let value ← flowValue inMapping none none fuel
      skipFlow
      let l ← here
      let value ← match value, l.chars with
        | .text key, ':' :: _ => do
          setHere (l.drop 1)
          let paired ← flowValue inMapping none none fuel
          pure (Node.mapping [(key, paired)])
        | value, _ => pure value
      skipFlow
      let l ← here
      match l.chars with
      | ',' :: _ =>
        setHere (l.drop 1)
        return value :: (← flowItems inMapping fuel)
      | ']' :: _ =>
        setHere (l.drop 1)
        return [value]
      | _ => fail

def flowEntries : (fuel : Nat) → Reader (List Entry)
  | 0 => fail
  | fuel + 1 => do
    skipFlow
    let l ← here
    match l.chars with
    | [] | ',' :: _ | ']' :: _ | '[' :: _ | '{' :: _ => fail
    | '}' :: _ =>
      setHere (l.drop 1)
      return []
    | c :: cs =>
      let isPlain := c ≠ '"' && c ≠ '\''
      if isPlain && !startsPlain true (c :: cs) then
        fail
      else
        let key ← if isPlain then flowPlain true fuel else quotedScalar
        skipFlow
        let l ← here
        let value ← match l.chars with
          | ':' :: _ => do
            setHere (l.drop 1)
            flowValue true none none fuel
          | _ => pure .null
        let entry := entryOf isPlain key value
        skipFlow
        let l ← here
        match l.chars with
        | ',' :: _ =>
          setHere (l.drop 1)
          return entry :: (← flowEntries fuel)
        | '}' :: _ =>
          setHere (l.drop 1)
          return [entry]
        | _ => fail

end

def keyOf? (l : Line) : Option (List Char × Line × Bool) :=
  match l.chars with
  | quote :: cs =>
    if quote = '"' || quote = '\'' then
      match quoted quote cs with
      | .closed key rest =>
        match rest.dropWhile Line.isSpace with
        | ':' :: rest =>
          if endsKey rest then some (key, after rest, false) else none
        | _ => none
      | _ => none
    else if startsPlain false l.chars then
      (plainKey? l.chars).map fun (key, rest) => (key, after rest, true)
    else
      none
  | [] => none
where
  after (rest : List Char) : Line :=
    { column := l.column + (l.chars.length - rest.length), chars := rest }

def isItem (l : Line) : Bool :=
  match l.chars with
  | '-' :: rest => endsKey rest
  | _ => false

def plainRest (least : Nat) : List Line → Option (List Char × List Line)
  | [] => some ([], [])
  | l :: later =>
    let line := l.trim
    if line.chars = [] then
      match plainRest least later with
      | some ([], _) => some ([], l :: later)
      | some (more, rest) => some ('\n' :: more.drop (if more.head? = some ' ' then 1 else 0), rest)
      | none => none
    else if l.column < least || line.chars.head? = some '#' then
      some ([], l :: later)
    else if (plainKey? line.chars).isSome then
      none
    else
      let own := withoutComment line.chars
      if own.length < line.chars.length then
        some (' ' :: trimEnd own, later)
      else
        (plainRest least later).map fun (more, rest) => (' ' :: trimEnd own ++ more, rest)

def plain (least : Nat) : Reader (List Char) := do
  let s ← get
  match s.lines with
  | [] => fail
  | l :: later =>
    if !startsPlain false l.chars || (plainKey? l.chars).isSome then
      fail
    else
      let own := withoutComment l.chars
      if own.length < l.chars.length then
        set { s with lines := later }
        return trimEnd own
      else
        match plainRest least later with
        | some (more, rest) => set { s with lines := rest }; return trimEnd own ++ more
        | none => fail

def scalarBlock (least : Nat) (folded : Bool) (header : List Char) : Reader Node := do
  match blockHeader? header with
  | none => fail
  | some (indent, chomping) =>
    nextLine
    let s ← get
    let (text, rest) := blockScalar folded indent chomping least s.lines
    set { s with lines := rest }
    return .text (encode text)

mutual

def inlineValue (least leastItem : Nat) (tag anchor : Option (List Char)) :
    (fuel : Nat) → Reader Node
  | 0 => fail
  | fuel + 1 => do
    let l := (← here).trim
    setHere l
    let value ← match l.chars with
      | [] | '#' :: _ => do
        nextLine
        skipBlank
        let next ← here
        if !(← atEnd) && (least ≤ next.column || leastItem ≤ next.column && isItem next) then
          blockValue least tag fuel
        else
          pure (tagged tag [])
      | '&' :: _ => do
        let anchor ← name false
        inlineValue least leastItem tag (some anchor) fuel
      | '!' :: _ => do
        let tag ← name false
        inlineValue least leastItem (some tag) anchor fuel
      | '*' :: _ => do
        let value ← lookup (← name false)
        endLine
        pure value
      | '|' :: header => scalarBlock least false header
      | '>' :: header => scalarBlock least true header
      | '"' :: _ | '\'' :: _ => do
        let value := Node.text (encode (← quotedScalar))
        endLine
        pure value
      | '[' :: _ | '{' :: _ => do
        let value ← flowValue false none none fuel
        endLine
        pure value
      | _ => do
        pure (tagged tag (← plain least))
    define anchor value
    return value
  termination_by structural fuel => fuel

def blockValue (least : Nat) (tag : Option (List Char)) : (fuel : Nat) → Reader Node
  | 0 => fail
  | fuel + 1 => do
    let l ← here
    if isItem l then
      return .sequence (← blockItems l.column fuel)
    else if (keyOf? l).isSome then
      match mappingOf? (← blockEntries l.column fuel) with
      | some value => return value
      | none => fail
    else if l.chars.head? = some '\t' then
      fail
    else
      inlineValue least least tag none fuel
  termination_by structural fuel => fuel

def blockItems (column : Nat) : (fuel : Nat) → Reader (List Node)
  | 0 => fail
  | fuel + 1 => do
    skipBlank
    let l ← here
    if (← atEnd) || l.column < column || (l.column = column && !isItem l) then
      return []
    else if l.column = column then
      let rest := (l.drop 1).trim
      setHere rest
      let value ←
        if rest.isBlank then
          inlineValue (column + 1) (column + 1) none none fuel
        else
          blockValue (column + 1) none fuel
      return value :: (← blockItems column fuel)
    else
      fail
  termination_by structural fuel => fuel

def blockEntries (column : Nat) : (fuel : Nat) → Reader (List Entry)
  | 0 => fail
  | fuel + 1 => do
    skipBlank
    let l ← here
    if (← atEnd) || l.column < column then
      return []
    else
      match if l.column = column then keyOf? l else none with
      | none => fail
      | some (key, rest, isPlain) =>
        setHere rest
        let value ← inlineValue (column + 1) column none none fuel
        return entryOf isPlain key value :: (← blockEntries column fuel)
  termination_by structural fuel => fuel

end

def documents : List Line → List (List Line)
  | [] => [[]]
  | l :: lines =>
    if l.isMark '-' then
      [] :: withFirst (l.drop 3).trim (documents lines)
    else if l.isMark '.' then
      [] :: documents lines
    else
      withFirst l (documents lines)
where
  withFirst (l : Line) : List (List Line) → List (List Line)
    | [] => [[l]]
    | d :: ds => (l :: d) :: ds

def document? (lines : List Line) : Option (Option Node) := do
  -- Directives stand before the document proper.
  let lines := lines.dropWhile fun l => l.isBlank || l.column = 0 && l.chars.head? = some '%'
  if lines = [] then
    some none
  else
    let fuel := (lines.flatMap Line.chars).length + 2 * lines.length
    let (value, s) ← (blockValue 0 none fuel).run { lines }
    if s.lines.all Line.isBlank then some (some value) else none

/--
What reads the first document of a YAML text, if that is well-formed. An empty document has no value.
-/
abbrev Loader := Text → Option (Option Node)

/--
Read a stream of documents. The value is that of the first one, but all of them must be well-formed.
-/
def read? : Loader := fun t => do
  let values ← (documents (linesOf t)).mapM document?
  match values with
  | none :: some value :: _ => some (some value)
  | value :: _ => some value
  | [] => some none

end Yaml

end Commentary
