import Commentary.Template.Tree
import Commentary.Template.Value

/-!
This module contains the engines that execute page layouts, and one of them.
-/

namespace Commentary

namespace Template

abbrev Exec := StateT (List (Text × Value)) Option

namespace Exec

def fail : Exec α :=
  fun _ => none

def ofOption : Option α → Exec α
  | some a => pure a
  | none => fail

def find (name : Text) : Exec Value := do
  ofOption ((← get).lookup name)

def declare (name : Text) (v : Value) : Exec Unit :=
  modify ((name, v) :: ·)

def assign (name : Text) (v : Value) : Exec Unit := do
  match go (← get) with
  | some vars => set vars
  | none => fail
where
  go : List (Text × Value) → Option (List (Text × Value))
    | [] => none
    | (n, old) :: vars => if n = name then some ((n, v) :: vars) else (go vars).map ((n, old) :: ·)

def setAt (newer : Nat) (v : Value) : Exec Unit :=
  modify fun vars => vars.modify newer fun (name, _) => (name, v)

def inScope (x : Exec α) : Exec α := do
  let before := (← get).length
  let a ← x
  modify fun vars => vars.drop (vars.length - before)
  return a

end Exec

def follow (v : Value) (fields : List Text) : Exec Value :=
  fields.foldlM (fun v name => Exec.ofOption (v.field? name)) v

def equal? : Value → Value → Option Bool
  | .text a, .text b => some (a = b)
  | .number a, .number b => some (a = b)
  | .bool a, .bool b => some (a = b)
  | .document a, .document b => some (a = b)
  | .page _ a, .page _ b => some (a = b)
  | .nothing, .nothing => some true
  | .nothing, _ => some false
  | _, .nothing => some false
  | _, _ => none

def equalsAny? (v : Value) : List Value → Option Bool
  | [] => some false
  | w :: ws => do if ← equal? v w then some true else equalsAny? v ws

def less? : Value → Value → Option Bool
  | .text a, .text b => some (a < b)
  | .number a, .number b => some (a < b)
  | _, _ => none

def atMost? (v w : Value) : Option Bool := do
  if ← less? v w then some true else equal? v w

def item? (v : Value) : Value → Option Value
  | .number n =>
    if n < 0 then
      none
    else
      match v with
      | .text t => t[n.toNat]?.map fun b => .number b.toNat
      | v => do (← v.items?)[n.toNat]?
  | _ => none

def call? : Function → List Value → Option Value
  | .eq, v :: w :: ws => (equalsAny? v (w :: ws)).map .bool
  | .ne, [v, w] => (equal? v w).map fun b => .bool !b
  | .lt, [v, w] => (less? v w).map .bool
  | .le, [v, w] => (atMost? v w).map .bool
  | .gt, [v, w] => (atMost? v w).map fun b => .bool !b
  | .ge, [v, w] => (less? v w).map fun b => .bool !b
  | .index, v :: positions => positions.foldlM item? v
  | .len, [.text t] => some (.number t.length)
  | .len, [v] => v.items?.map fun items => .number items.length
  | .not, [v] => some (.bool !v.isTrue)
  | .print, vs => some (.text (Value.printAll vs))
  | .printf, .text t :: vs => (Value.fill? t.symbols vs).map .text
  | .println, vs => some (.text (Value.printLine vs))
  | _, _ => none

mutual

def Operand.value (dot : Value) : Operand → Exec Value
  | .dot => pure dot
  | .nothing => pure .nothing
  | .bool b => pure (.bool b)
  | .number n => if n ≤ Integer.greatest then pure (.number n) else Exec.fail
  | .text t => pure (.text t)
  | .field names => follow dot names
  | .variable name fields => do follow (← Exec.find name) fields
  | .function f fields => do follow (← Exec.ofOption (call? f [])) fields
  | .group p fields => do follow (← p.value dot) fields

def operandValues (dot : Value) : List Operand → Exec (List Value)
  | [] => pure []
  | o :: os => do
    let v ← o.value dot
    return v :: (← operandValues dot os)

def firstWithTruth (dot : Value) (sought : Bool) : (last : Value) → List Operand → Exec Value
  | last, [] => pure last
  | _, o :: os => do
    let v ← o.value dot
    if v.isTrue = sought then return v else firstWithTruth dot sought v os

def Command.value (dot : Value) (final : Option Value) : Command → Exec Value
  | .mk (.function f []) arguments =>
    if f = .and ∨ f = .or then
      if arguments = [] ∧ final = none then
        Exec.fail
      else do
        let v ← firstWithTruth dot (f = .or) .nothing arguments
        let stopped := arguments ≠ [] ∧ v.isTrue = (f = .or : Bool)
        return if stopped then v else final.getD v
    else do
      Exec.ofOption (call? f ((← operandValues dot arguments) ++ final.toList))
  | .mk head [] =>
    match final, head with
    | some _, _ => Exec.fail
    | none, .nothing => Exec.fail
    | none, head => head.value dot
  | .mk _ (_ :: _) => Exec.fail

def commandValues (dot : Value) : (final : Option Value) → List Command → Exec (Option Value)
  | final, [] => pure final
  | final, c :: cs => do
    let v ← c.value dot final
    commandValues dot (some v) cs

def Pipeline.value (dot : Value) : Pipeline → Exec Value
  | .mk names assigns commands => do
    let v ← Exec.ofOption (← commandValues dot none commands)
    for name in names do
      if assigns then Exec.assign name v else Exec.declare name v
    return v

end

def bindItem (p : Pipeline) (number : Nat) (item : Value) : Exec Unit :=
  match p.assigns, p.names with
  | _, [] => pure ()
  | true, [v] => Exec.assign v item
  | true, v :: w :: _ => do
    Exec.assign v (.number number)
    Exec.assign w item
  | false, [_] => Exec.setAt 0 item
  | false, _ :: _ :: _ => do
    Exec.setAt 0 item
    Exec.setAt 1 (.number number)

def rangeOf? (p : Pipeline) : Value → Option (List Value)
  | .nothing => some []
  | .number n =>
    if 1 < p.names.length then none else some ((List.range n.toNat).map fun (i : Nat) => Value.number i)
  | v => v.items?

mutual

def Node.write (dot : Value) : Node → Exec Text
  | .literal t => pure t
  | .action p => do
    let v ← p.value dot
    return if p.names = [] then v.print else []
  | .test p body otherwise =>
    Exec.inScope do
      if (← p.value dot).isTrue then writeNodes dot body else writeNodes dot otherwise
  | .focus p body otherwise =>
    Exec.inScope do
      let v ← p.value dot
      if v.isTrue then writeNodes v body else writeNodes dot otherwise
  | .each p body otherwise =>
    Exec.inScope do
      match ← Exec.ofOption (rangeOf? p (← p.value dot)) with
      | [] => writeNodes dot otherwise
      | items => do
        let parts ← items.zipIdx.mapM fun (item, number) => do
          bindItem p number item
          Exec.inScope (writeNodes item body)
        return parts.flatten

def writeNodes (dot : Value) : List Node → Exec Text
  | [] => pure []
  | n :: ns => do
    let t ← n.write dot
    return t ++ (← writeNodes dot ns)

end

/--
What an engine for layouts writes about a document, if the layout makes sense to it. A layout can show the
addresses at which the parts of the document lie, so an engine may do something else in every rendering.
-/
abbrev Engine := (layout : Text) → (document : Messages) → Option Text

/--
The engine for the part of the language of layouts that this library covers, where the document lies at
the given address. Other layouts make no sense to it: those that define further layouts or leave a loop
early, those with numbers that are not whole or with other functions than `Function.all`, and those that
format with the verbs and flags of `Value.uncovered`.
-/
def write? (address : Nat) : Engine := fun layout m => do
  let ns ← parse? layout
  let (t, _) ← (writeNodes (.page address m) ns).run [([], .page address m)]
  some t

def standard : Engine :=
  write? 0xc000012018

def page? (layout : Text) (m : Messages) (engine : Engine := standard) : Option Text :=
  (engine layout m).map Page.withFinalNewline

end Template

end Commentary
