import Commentary.Proofs.Document.Configuration
import Commentary.Proofs.Document.Functions
import Commentary.Proofs.Document.Messages

/-!
This module contains how documents grow while a source is read. What has been closed stays as it is; only
the last entry of a list can still change, and each extraction changes it in its own way.
-/

namespace Commentary

/--
The second list goes on from the first: it has all entries of the first but the last one, and in the
place of that one an entry that is related to it by `r`. After that it may have more.
-/
def GoesOn (r : α → α → Prop) (as bs : List α) : Prop :=
  ∀ closed last, as = closed ++ [last] → ∃ next more, bs = closed ++ next :: more ∧ r last next

namespace GoesOn

variable {r : α → α → Prop} {as bs cs : List α}

theorem append (hr : ∀ a, r a a) (as bs : List α) : GoesOn r as (as ++ bs) := by
  rintro closed last rfl
  exact ⟨last, bs, by simp, hr last⟩

theorem refl (hr : ∀ a, r a a) (as : List α) : GoesOn r as as := by
  have happend := append hr as []
  rwa [List.append_nil] at happend

theorem mapLast {f : α → α} (hf : ∀ a, r a (f a)) (as : List α) : GoesOn r as (mapLast f as) := by
  rintro closed last rfl
  rw [mapLast_append_singleton]
  exact ⟨f last, [], rfl, hf last⟩

theorem trans (hr : ∀ a b c, r a b → r b c → r a c) (h : GoesOn r as bs) (h' : GoesOn r bs cs) :
    GoesOn r as cs := by
  rintro closed last rfl
  obtain ⟨next, more, rfl, hnext⟩ := h closed last rfl
  -- the last entry of the second list is the related one, or a later one
  cases more using List.reverseRecOn with
  | nil =>
    obtain ⟨next', more', rfl, hnext'⟩ := h' closed next rfl
    exact ⟨next', more', rfl, hr last next next' hnext hnext'⟩
  | append_singleton more b =>
    obtain ⟨b', more', rfl, -⟩ := h' (closed ++ next :: more) b (by simp)
    exact ⟨next, more ++ b' :: more', by simp, hnext⟩

end GoesOn

def Category.GrowsTo (c d : Category) : Prop :=
  c.title = d.title ∧ GoesOn (fun s t : Section => s.body <+: t.body) c.sections d.sections

namespace Category

theorem GrowsTo.refl (c : Category) : c.GrowsTo c := by
  constructor
  . rfl
  . apply GoesOn.refl
    intro s
    apply List.prefix_rfl

theorem GrowsTo.trans (a b c : Category) (h : a.GrowsTo b) (h' : b.GrowsTo c) : a.GrowsTo c := by
  constructor
  . rw [h.1, h'.1]
  . apply GoesOn.trans _ h.2 h'.2
    intro s t u hst htu
    exact hst.trans htu

theorem growsTo_addLine (line : Text) (c : Category) : c.GrowsTo (c.addLine line) := by
  constructor
  . rfl
  . apply GoesOn.mapLast
    intro s
    apply List.prefix_append

theorem growsTo_declare (name : Text) (c : Category) : c.GrowsTo (c.declare name) := by
  constructor
  . rfl
  . have htitled : GoesOn (fun s t : Section => s.body <+: t.body) c.sections
        (mapLast (fun s => { s with title := name }) c.sections) := by
      apply GoesOn.mapLast
      intro s
      apply List.prefix_rfl
    refine GoesOn.trans ?_ htitled (GoesOn.append ?_ _ _)
    . intro s t u hst htu
      exact hst.trans htu
    . intro s
      apply List.prefix_rfl

end Category

namespace Messages

def GrowsTo (m n : Messages) : Prop :=
  GoesOn Category.GrowsTo m.categories n.categories

theorem GrowsTo.refl (m : Messages) : m.GrowsTo m := by
  exact GoesOn.refl Category.GrowsTo.refl m.categories

theorem GrowsTo.trans {a b c : Messages} (h : a.GrowsTo b) (h' : b.GrowsTo c) : a.GrowsTo c := by
  exact GoesOn.trans Category.GrowsTo.trans h h'

theorem growsTo_take (m : Messages) (token : Token) : m.GrowsTo (m.take token) := by
  cases token with
  | heading title target => exact GoesOn.append Category.GrowsTo.refl _ _
  | doc text => exact GoesOn.mapLast (Category.growsTo_addLine text) _
  | blank | empty => exact GoesOn.mapLast (Category.growsTo_addLine []) _
  | declaration name => exact GoesOn.mapLast (Category.growsTo_declare name) _
  | plain | skip | scopeStart | scopeEnd => exact GrowsTo.refl m

theorem growsTo_of_step? {p q : Progress} {token : Token} (h : p.step? token = some q) :
    p.found.GrowsTo q.found := by
  cases p with
  | outside =>
    intro closed last hnil
    exact absurd hnil (by simp [Progress.found])
  | inside m =>
    rw [Progress.step?] at h
    split at h
    . cases h
    . cases h
      apply growsTo_take

theorem growsTo_extractFrom (v : Vocabulary) (p : Progress) (lines : List Text) :
    p.found.GrowsTo (extractFrom v p lines).1.found := by
  induction lines generalizing p with
  | nil => exact GrowsTo.refl p.found
  | cons line lines ih =>
    rw [extractFrom]
    split
    . exact GrowsTo.refl p.found
    . next q hstep => exact (growsTo_of_step? hstep).trans (ih q)

theorem extractFrom_append (v : Vocabulary) (p : Progress) (xs ys : List Text) :
    (extractFrom v p (xs ++ ys)).1 = (extractFrom v p xs).1
      ∨ (extractFrom v p (xs ++ ys)).1 = (extractFrom v (extractFrom v p xs).1 ys).1 := by
  induction xs generalizing p with
  | nil => exact .inr rfl
  | cons x xs ih =>
    rw [List.cons_append, extractFrom, extractFrom]
    split
    . exact .inl rfl
    . next q _ => exact ih q

theorem growsTo_extract_append (v : Vocabulary) (xs ys : List Text) :
    (extract v xs).1.GrowsTo (extract v (xs ++ ys)).1 := by
  change (extractFrom v .outside xs).1.found.GrowsTo (extractFrom v .outside (xs ++ ys)).1.found
  rcases extractFrom_append v .outside xs ys with h | h
  . rw [h]
    apply GrowsTo.refl
  . rw [h]
    apply growsTo_extractFrom

end Messages

namespace FunctionDocs

def Progress.blocks (s : Progress) : List (List Text) :=
  s.functions.map FunctionDoc.doc ++ [s.pending]

structure Progress.GrowsTo (s t : Progress) : Prop where
  functions : s.functions <+: t.functions
  blocks : GoesOn (· <+: ·) s.blocks t.blocks

theorem Progress.GrowsTo.refl (s : Progress) : s.GrowsTo s where
  functions := List.prefix_rfl
  blocks := GoesOn.refl (fun _ => List.prefix_rfl) s.blocks

theorem Progress.GrowsTo.trans {s t u : Progress} (h : s.GrowsTo t) (h' : t.GrowsTo u) :
    s.GrowsTo u where
  functions := h.functions.trans h'.functions
  blocks := GoesOn.trans (fun _ _ _ hst htu => hst.trans htu) h.blocks h'.blocks

theorem Progress.growsTo_step (s : Progress) (token : Token) : s.GrowsTo (s.step token) := by
  cases token with
  | doc text =>
    constructor
    . exact List.prefix_rfl
    . have hblocks : (s.step (.doc text)).blocks = mapLast (· ++ [text]) s.blocks := by
        rw [blocks, blocks, mapLast_append_singleton]
        rfl
      rw [hblocks]
      apply GoesOn.mapLast
      intro pending
      apply List.prefix_append
  | declaration name =>
    rw [step]
    split
    . exact GrowsTo.refl s
    . constructor
      . apply List.prefix_append
      . have hblocks : Progress.blocks { functions := s.functions ++ [⟨name, s.pending⟩] } =
            s.blocks ++ [[]] := by
          simp [blocks]
        rw [hblocks]
        exact GoesOn.append (fun _ => List.prefix_rfl) _ _
  | plain | skip | scopeStart | scopeEnd | heading | blank | empty => exact GrowsTo.refl s

def progressAfter (v : Vocabulary) (lines : List Text) : Progress :=
  lines.foldl (fun s line => s.step (Source.classifyFunction v line)) {}

theorem growsTo_progressAfter_append (v : Vocabulary) (xs ys : List Text) :
    (progressAfter v xs).GrowsTo (progressAfter v (xs ++ ys)) := by
  induction ys using List.reverseRecOn with
  | nil =>
    rw [List.append_nil]
    apply Progress.GrowsTo.refl
  | append_singleton ys line ih =>
    have hlast : progressAfter v (xs ++ ys ++ [line]) =
        (progressAfter v (xs ++ ys)).step (Source.classifyFunction v line) := by
      apply List.foldl_concat
    rw [← List.append_assoc, hlast]
    exact ih.trans (Progress.growsTo_step _ _)

theorem Progress.GrowsTo.pending {s t : Progress} (h : s.GrowsTo t) :
    (∃ f, t.functions[s.functions.length]? = some f ∧ s.pending <+: f.doc) ∨ s.pending <+: t.pending := by
  obtain ⟨later, hlater⟩ := h.functions
  obtain ⟨next, more, hnext, hpending⟩ := h.blocks _ _ rfl
  rw [Progress.blocks, ← hlater, List.map_append, List.append_assoc, List.append_cancel_left_eq] at hnext
  cases later with
  | nil =>
    right
    rw [List.map_nil, List.nil_append, List.cons.injEq] at hnext
    rwa [hnext.1]
  | cons f later =>
    left
    rw [List.map_cons, List.cons_append, List.cons.injEq] at hnext
    refine ⟨f, ?_, ?_⟩
    . rw [← hlater, List.getElem?_append_right (Nat.le_refl _), Nat.sub_self]
      rfl
    . rwa [hnext.1]

theorem orphan_extract_eq_some_iff {v : Vocabulary} {lines orphan : List Text} :
    (extract v lines).orphan = some orphan
      ↔ (progressAfter v lines).pending ≠ [] ∧ (progressAfter v lines).pending = orphan := by
  change (if (progressAfter v lines).pending = [] then none else some (progressAfter v lines).pending) =
    some orphan ↔ _
  split
  . next hnil => simp [hnil]
  . next hne => simp [hne]

end FunctionDocs

namespace ConfigDocs

def GrowsTo (d e : ConfigDocs) : Prop :=
  ∀ t, GoesOn (· <:+: ·) (d.get t) (e.get t)

theorem GrowsTo.refl (d : ConfigDocs) : d.GrowsTo d := by
  intro t
  exact GoesOn.refl (fun _ => List.infix_rfl) (d.get t)

theorem GrowsTo.trans {a b c : ConfigDocs} (h : a.GrowsTo b) (h' : b.GrowsTo c) : a.GrowsTo c := by
  intro t
  exact GoesOn.trans (fun _ _ _ hst htu => hst.trans htu) (h t) (h' t)

theorem goesOn_addToken (p : Paragraphs) (token : Token) : GoesOn (· <:+: ·) p (addToken p token) := by
  have hrefl : GoesOn (· <:+: ·) p p := GoesOn.refl (fun _ => List.infix_rfl) p
  have happend : ∀ text, GoesOn (· <:+: ·) p (mapLast (· ++ [text]) p) := by
    intro text
    apply GoesOn.mapLast
    intro current
    exact (List.prefix_append current [text]).isInfix
  cases token with
  | heading text target => apply happend
  | doc text => apply happend
  | blank => apply happend
  | declaration name =>
    apply GoesOn.mapLast
    intro current
    split
    . next hnil => rw [hnil]
    . exact (List.suffix_cons (subHeading name) current).isInfix
  | empty =>
    rw [addToken]
    split
    . exact hrefl
    . exact GoesOn.append (fun _ => List.infix_rfl) p _
  | plain | skip | scopeStart | scopeEnd => exact hrefl

theorem Progress.growsTo_step (s : Progress) (token : Token) : s.docs.GrowsTo (s.step token).docs := by
  intro t
  rw [get_step]
  split
  . apply goesOn_addToken
  . exact GrowsTo.refl s.docs t

theorem Progress.growsTo_foldl_step (s : Progress) (tokens : List Token) :
    s.docs.GrowsTo (tokens.foldl step s).docs := by
  induction tokens generalizing s with
  | nil => exact GrowsTo.refl s.docs
  | cons token tokens ih => exact (growsTo_step s token).trans (ih (s.step token))

theorem growsTo_extract_append {v : Vocabulary} {xs ys : List Text}
    (h : none ∉ (xs ++ ys).map (Source.classifyConfig v)) :
    ∃ before after, extract v xs = some before ∧ extract v (xs ++ ys) = some after
      ∧ before.GrowsTo after := by
  have hxs : none ∉ xs.map (Source.classifyConfig v) := by
    intro hnone
    apply h
    rw [List.map_append]
    exact List.mem_append_left _ hnone
  unfold extract
  rw [extractFrom_eq_foldl hxs, extractFrom_eq_foldl h, List.filterMap_append, List.foldl_append]
  refine ⟨_, _, rfl, rfl, ?_⟩
  apply Progress.growsTo_foldl_step

end ConfigDocs

/--
The documents of the first lines of a source are found again in those of the whole source. Closed
entries are the same. The current section and pending documentation go on at their end, the current
paragraph of a configuration document goes on at both ends.
-/
theorem extraction_only_goes_on (v : Vocabulary) (xs ys : List Text) :
    GoesOn
        (fun c d : Category =>
          c.title = d.title ∧ GoesOn (fun s t : Section => s.body <+: t.body) c.sections d.sections)
        (Messages.extract v xs).1.categories (Messages.extract v (xs ++ ys)).1.categories
      ∧ (FunctionDocs.extract v xs).functions <+: (FunctionDocs.extract v (xs ++ ys)).functions
      ∧ (∀ orphan, (FunctionDocs.extract v xs).orphan = some orphan →
          (∃ f, (FunctionDocs.extract v (xs ++ ys)).functions[(FunctionDocs.extract v xs).functions.length]?
              = some f ∧ orphan <+: f.doc)
            ∨ ∃ later, (FunctionDocs.extract v (xs ++ ys)).orphan = some later ∧ orphan <+: later)
      ∧ (none ∉ (xs ++ ys).map (Source.classifyConfig v) →
          ∃ before after, ConfigDocs.extract v xs = some before
            ∧ ConfigDocs.extract v (xs ++ ys) = some after
            ∧ ∀ t : Target, GoesOn (· <:+: ·) (before.get t) (after.get t)) := by
  have hfunctions := FunctionDocs.growsTo_progressAfter_append v xs ys
  refine ⟨Messages.growsTo_extract_append v xs ys, hfunctions.functions, ?_, ?_⟩
  . intro orphan horphan
    obtain ⟨hne, rfl⟩ := FunctionDocs.orphan_extract_eq_some_iff.mp horphan
    rcases hfunctions.pending with hnext | hpending
    . exact .inl hnext
    . refine .inr ⟨_, FunctionDocs.orphan_extract_eq_some_iff.mpr ⟨?_, rfl⟩, hpending⟩
      exact hpending.ne_nil hne
  . exact ConfigDocs.growsTo_extract_append

def openSource : List Text :=
  ["pub enum ExternalMsg \x7b", "/// ### A", "/// a", "-- ### Modes ", "-- text"]

def openSourceRest : List Text :=
  ["/// b", "B,", "xplr.b = 1", "", "-- more", "pub fn f() \x7b\x7d", "/// ### C", "\x7d"]

theorem openSource_only_goes_on :
    (Messages.extract {} openSource).1.categories = [] ++ [⟨"A", [{ body := ["a"] }]⟩]
      ∧ (∃ d more, (Messages.extract {} (openSource ++ openSourceRest)).1.categories = [] ++ d :: more
          ∧ Text.ofString "A" = d.title
          ∧ GoesOn (fun s t : Section => s.body <+: t.body) [{ body := ["a"] }] d.sections)
      ∧ (FunctionDocs.extract {} openSource).orphan = some [Text.ofString "### A", Text.ofString "a"]
      ∧ ((∃ f, (FunctionDocs.extract {} (openSource ++ openSourceRest)).functions[0]? = some f
            ∧ [Text.ofString "### A", Text.ofString "a"] <+: f.doc)
          ∨ ∃ later, (FunctionDocs.extract {} (openSource ++ openSourceRest)).orphan = some later
            ∧ [Text.ofString "### A", Text.ofString "a"] <+: later)
      ∧ none ∉ (openSource ++ openSourceRest).map (Source.classifyConfig {})
      ∧ ∃ before after, ConfigDocs.extract {} openSource = some before
          ∧ ConfigDocs.extract {} (openSource ++ openSourceRest) = some after
          ∧ ∀ t : Target, GoesOn (· <:+: ·) (before.get t) (after.get t) := by
  obtain ⟨hcategories, -, horphan, hdocs⟩ := extraction_only_goes_on {} openSource openSourceRest
  have hmessages : (Messages.extract {} openSource).1.categories =
      [] ++ [⟨"A", [{ body := ["a"] }]⟩] := by
    decide +kernel
  have hpending : (FunctionDocs.extract {} openSource).orphan =
      some [Text.ofString "### A", Text.ofString "a"] := by
    decide +kernel
  have htokens : none ∉ (openSource ++ openSourceRest).map (Source.classifyConfig {}) := by
    decide +kernel
  exact ⟨hmessages, hcategories _ _ hmessages, hpending, horphan _ hpending, htokens, hdocs htokens⟩

end Commentary
