import Commentary.Template.Eval

/-!
This module contains layouts that put fields of the page between pieces of text. What is written in such a
layout does not depend on where the page lies in memory.
-/

namespace Commentary

namespace Template

def Node.isPlain : Node → Bool
  | .literal _ => true
  | .action (.mk [] _ [.mk (.field (_ :: _)) []]) => true
  | _ => false

def isPlain (layout : Text) : Bool :=
  ((parse? layout).getD []).all Node.isPlain

/--
The computation leaves the variables alone and has the same result whatever they are.
-/
def Exec.Constant (x : Exec α) (result : Option α) : Prop :=
  ∀ vars, x.run vars = result.map (·, vars)

theorem constant_pure (a : α) : Exec.Constant (pure a) (some a) := by
  intro vars
  rfl

theorem constant_ofOption (o : Option α) : Exec.Constant (Exec.ofOption o) o := by
  intro vars
  cases o with
  | none => rfl
  | some a => rfl

theorem constant_bind {x : Exec α} {f : α → Exec β} {result : Option α} {next : α → Option β}
    (hx : x.Constant result) (hf : ∀ a, (f a).Constant (next a)) :
    Exec.Constant (x >>= f) (result.bind next) := by
  intro vars
  rw [StateT.run_bind, hx vars]
  cases result with
  | none => rfl
  | some a => exact hf a vars

theorem constant_follow (v : Value) (fields : List Text) :
    (follow v fields).Constant (fields.foldlM Value.field? v) := by
  unfold follow
  induction fields generalizing v with
  | nil => exact constant_pure v
  | cons name fields ih =>
    rw [List.foldlM_cons, List.foldlM_cons]
    exact constant_bind (constant_ofOption _) ih

theorem value_field (dot : Value) (assigns : Bool) (fields : List Text) :
    Pipeline.value dot (.mk [] assigns [.mk (.field fields) []]) = follow dot fields := by
  simp [Pipeline.value, commandValues, Command.value, Operand.value, Exec.ofOption]

/--
The fields of a page are found without a look at where it lies.
-/
theorem foldlM_field?_page (address other : Nat) (m : Messages) (name : Text) (fields : List Text) :
    (name :: fields).foldlM Value.field? (.page address m) =
      (name :: fields).foldlM Value.field? (.page other m) := by
  rfl

theorem exists_constant_write {n : Node} (h : n.isPlain = true) (m : Messages) :
    ∃ result, ∀ address, (n.write (.page address m)).Constant result := by
  unfold Node.isPlain at h
  split at h
  . next t =>
    refine ⟨some t, ?_⟩
    intro address
    rw [Node.write]
    exact constant_pure t
  . next assigns name fields =>
    refine ⟨((name :: fields).foldlM Value.field? (.page 0 m)).bind fun v => some v.print, ?_⟩
    intro address
    rw [Node.write, value_field, foldlM_field?_page 0 address]
    exact constant_bind (constant_follow _ _) fun v => constant_pure v.print
  . cases h

theorem exists_constant_writeNodes {ns : List Node} (h : ns.all Node.isPlain = true) (m : Messages) :
    ∃ result, ∀ address, (writeNodes (.page address m) ns).Constant result := by
  induction ns with
  | nil =>
    refine ⟨some [], ?_⟩
    intro address
    rw [writeNodes]
    exact constant_pure []
  | cons n ns ih =>
    rw [List.all_cons, Bool.and_eq_true] at h
    obtain ⟨first, hfirst⟩ := exists_constant_write h.1 m
    obtain ⟨others, hothers⟩ := ih h.2
    refine ⟨first.bind fun t => others.bind fun u => some (t ++ u), ?_⟩
    intro address
    rw [writeNodes]
    refine constant_bind (hfirst address) ?_
    intro t
    exact constant_bind (hothers address) fun u => constant_pure (t ++ u)

theorem write?_eq_of_isPlain {layout : Text} (h : isPlain layout = true) (address other : Nat) :
    write? address layout = write? other layout := by
  funext m
  unfold write?
  cases hparse : parse? layout with
  | none => rfl
  | some ns =>
    have hplain : ns.all Node.isPlain = true := by
      rw [isPlain, hparse] at h
      exact h
    obtain ⟨result, hresult⟩ := exists_constant_writeNodes hplain m
    simp only [bind, Option.bind_some]
    rw [hresult address, hresult other]
    cases result with
    | none => rfl
    | some t => rfl

-- A layout that shows the page as a whole is another matter.
example : isPlain "# \x7b\x7b.TOC\x7d\x7d\n\x7b\x7b.Document.Categories\x7d\x7d" = true
    ∧ isPlain "\x7b\x7b.\x7d\x7d" = false
    ∧ write? 1 "\x7b\x7b.\x7d\x7d" {} ≠ write? 2 "\x7b\x7b.\x7d\x7d" {} := by
  decide +kernel

end Template

end Commentary
