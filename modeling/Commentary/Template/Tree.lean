import Commentary.Template.Token

/-!
This module contains the structure of page layouts and its recovery from tokens.
-/

namespace Commentary

namespace Template

mutual

inductive Operand where
  | dot
  | nothing
  | bool (b : Bool)
  | number (n : Int)
  | text (t : Text)
  | field (names : List Text)
  | variable (name : Text) (fields : List Text)
  | function (f : Function) (fields : List Text)
  | group (p : Pipeline) (fields : List Text)

inductive Command where
  | mk (head : Operand) (arguments : List Operand)

inductive Pipeline where
  | mk (names : List Text) (assigns : Bool) (commands : List Command)

end

def Command.head : Command → Operand
  | .mk head _ => head

def Pipeline.names : Pipeline → List Text
  | .mk names _ _ => names

def Pipeline.assigns : Pipeline → Bool
  | .mk _ assigns _ => assigns

inductive Node where
  | literal (t : Text)
  | action (p : Pipeline)
  | test (p : Pipeline) (body otherwise : List Node)
  | focus (p : Pipeline) (body otherwise : List Node)
  | each (p : Pipeline) (body otherwise : List Node)

structure Source where
  tokens : List Token
  known : List Text := [[]]
  deriving DecidableEq, Repr

abbrev Reading := StateT Source Option

namespace Reading

def fail : Reading α :=
  fun _ => none

def setTokens (tokens : List Token) : Reading Unit :=
  modify fun s => { s with tokens }

def know (name : Text) : Reading Unit :=
  modify fun s => { s with known := name :: s.known }

def skipSpaces : Reading (List Token) := do
  let tokens := (← get).tokens.dropWhile (· = .space)
  setTokens tokens
  return tokens

def expect (token : Token) : Reading Unit := do
  match ← skipSpaces with
  | t :: tokens => if t = token then setTokens tokens else fail
  | [] => fail

def declaredNames (inEach : Bool) : Reading (List Text × Bool) := do
  match ← skipSpaces with
  | .variable v :: tokens =>
    match tokens.dropWhile (· = .space) with
    | .assign :: tokens => do
      setTokens tokens
      know v
      return ([v], true)
    | .declare :: tokens => do
      setTokens tokens
      know v
      return ([v], false)
    | .comma :: tokens =>
      if !inEach then
        fail
      else
        know v
        let tokens := tokens.dropWhile (· = .space)
        setTokens tokens
        match tokens with
        | .variable w :: tokens =>
          match tokens.dropWhile (· = .space) with
          | .assign :: tokens => do
            setTokens tokens
            know w
            return ([v, w], true)
          | .declare :: tokens => do
            setTokens tokens
            know w
            return ([v, w], false)
          | .comma :: _ => fail
          | _ => return ([v], false)
        | .closeAction :: _ => return ([v], false)
        | .closeParen :: _ => return ([v], false)
        | _ => fail
    | _ => return ([], false)
  | _ => return ([], false)

def fields : Reading (List Text) := do
  let tokens := (← get).tokens
  let names := go tokens
  setTokens (tokens.drop names.length)
  return names
where
  go : List Token → List Text
    | .field name :: tokens => name :: go tokens
    | _ => []

def bare (o : Operand) : Reading (Option Operand) := do
  if (← fields) = [] then return some o else fail

def takesArgument : Operand → Bool
  | .dot | .nothing | .bool _ | .number _ | .text _ => false
  | .field _ | .variable _ _ | .function _ _ | .group _ _ => true

mutual

def pipeline (inEach : Bool) (stop : Token) : (fuel : Nat) → Reading Pipeline
  | 0 => fail
  | fuel + 1 => do
    let (names, assigns) ← declaredNames inEach
    let cs ← commands stop fuel
    if cs = [] || !(cs.tail.all fun c => takesArgument c.head) then
      fail
    else
      return .mk names assigns cs
  termination_by structural fuel => fuel

def commands (stop : Token) : (fuel : Nat) → Reading (List Command)
  | 0 => fail
  | fuel + 1 => do
    match ← skipSpaces with
    | [] => fail
    | token :: tokens =>
      if token = stop then
        setTokens tokens
        return []
      else
        match token with
        | .pipe => fail
        | _ =>
          match ← operands fuel with
          | [] => fail
          | head :: arguments => return .mk head arguments :: (← commands stop fuel)
  termination_by structural fuel => fuel

def operands : (fuel : Nat) → Reading (List Operand)
  | 0 => fail
  | fuel + 1 => do
    let first ← operand fuel
    match (← get).tokens with
    | .space :: _ => return first.toList ++ (← operands fuel)
    | .closeAction :: _ => return first.toList
    | .closeParen :: _ => return first.toList
    | .pipe :: tokens => do
      setTokens tokens
      return first.toList
    | _ => fail
  termination_by structural fuel => fuel

def operand : (fuel : Nat) → Reading (Option Operand)
  | 0 => fail
  | fuel + 1 => do
    match ← skipSpaces with
    | [] => return none
    | token :: tokens =>
      let source ← get
      setTokens tokens
      match token with
      | .dot => bare .dot
      | .keyword .nothing => bare .nothing
      | .bool b => bare (.bool b)
      | .number n => bare (.number n)
      | .text t => bare (.text t)
      | .field name => return some (.field (name :: (← fields)))
      | .variable name =>
        if source.known.contains name then return some (.variable name (← fields)) else fail
      | .function f => return some (.function f (← fields))
      | .openParen => do
        let p ← pipeline false .closeParen fuel
        return some (.group p (← fields))
      | _ => do
        set source
        return none
  termination_by structural fuel => fuel

end

inductive Stop where
  | layoutEnd
  | close
  | otherwise
  deriving DecidableEq, Repr

mutual

def nodes : (fuel : Nat) → Reading (List Node × Stop)
  | 0 => fail
  | fuel + 1 => do
    match (← get).tokens with
    | [] => return ([], .layoutEnd)
    | .literal t :: tokens => do
      setTokens tokens
      let (ns, stop) ← nodes fuel
      return (.literal t :: ns, stop)
    | .openAction :: tokens => do
      setTokens tokens
      match ← skipSpaces with
      | .keyword .close :: tokens => do
        setTokens tokens
        expect .closeAction
        return ([], .close)
      | .keyword .otherwise :: tokens => do
        setTokens tokens
        match ← skipSpaces with
        | .keyword .test :: _ => return ([], .otherwise)
        | .keyword .focus :: _ => return ([], .otherwise)
        | _ => do
          expect .closeAction
          return ([], .otherwise)
      | .keyword .test :: tokens => do
        setTokens tokens
        let n ← block .test fuel
        let (ns, stop) ← nodes fuel
        return (n :: ns, stop)
      | .keyword .focus :: tokens => do
        setTokens tokens
        let n ← block .focus fuel
        let (ns, stop) ← nodes fuel
        return (n :: ns, stop)
      | .keyword .each :: tokens => do
        setTokens tokens
        let n ← block .each fuel
        let (ns, stop) ← nodes fuel
        return (n :: ns, stop)
      | _ => do
        let p ← pipeline false .closeAction fuel
        let (ns, stop) ← nodes fuel
        return (.action p :: ns, stop)
    | _ => fail
  termination_by structural fuel => fuel

def block (keyword : Keyword) : (fuel : Nat) → Reading Node
  | 0 => fail
  | fuel + 1 => do
    let known := (← get).known
    let p ← pipeline (keyword = .each) .closeAction fuel
    let (body, stop) ← nodes fuel
    let otherwise ←
      match stop with
      | .layoutEnd => fail
      | .close => pure []
      | .otherwise => do
        match (← get).tokens with
        | .keyword k :: tokens =>
          if k = keyword then
            setTokens tokens
            pure [← block keyword fuel]
          else
            fail
        | _ => do
          let (ns, stop) ← nodes fuel
          if stop = .close then pure ns else fail
    modify fun s => { s with known }
    match keyword with
    | .test => return .test p body otherwise
    | .focus => return .focus p body otherwise
    | _ => return .each p body otherwise
  termination_by structural fuel => fuel

end

end Reading

def parse? (t : Text) : Option (List Node) := do
  let tokens ← Token.tokens? t
  let ((ns, stop), _) ← (Reading.nodes (4 * tokens.length + 4)).run { tokens }
  if stop = .layoutEnd then some ns else none

end Template

end Commentary
