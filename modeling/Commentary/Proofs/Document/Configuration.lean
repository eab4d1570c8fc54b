import Commentary.Document.Configuration
import Commentary.Proofs.Document.Cut
import Mathlib.Data.List.Infix

/-!
This module contains the description of the documents of a configuration script: every line belongs to
the document of the last heading at or before it, and the tokens of a document are cut into paragraphs
at the empty lines. The extraction, which fills five documents at once, gives each of them as its own
lines alone would.
-/

namespace Commentary

namespace ConfigDocs

open Token

def lineKinds : List Kind :=
  [.heading, .doc, .blank]

def fromFirstLine (group : List Token) : List Token :=
  group.dropWhile (·.kind ∉ lineKinds)

def paragraph (group : List Token) : List Text :=
  (textsOf [.declaration] group).reverse.map subHeading ++ textsOf lineKinds group

/--
The paragraphs of a document with the given tokens. A group without a line of text gives none, except
that the document ends with an empty paragraph if its last group is such a one.
-/
def paragraphsOf (tokens : List Token) : Paragraphs :=
  let groups := (cutAt .empty tokens).map fromFirstLine
  (groups.filter (· ≠ [])).map paragraph ++ if groups.getLast? = some [] then [[]] else []

variable {group tokens : List Token} {token : Token}

@[simp]
theorem fromFirstLine_nil : fromFirstLine [] = [] := by
  rfl

@[simp]
theorem paragraph_nil : paragraph [] = [] := by
  rfl

theorem fromFirstLine_append_line (h : token.kind ∈ lineKinds) :
    fromFirstLine (group ++ [token]) = fromFirstLine group ++ [token] := by
  unfold fromFirstLine
  rw [List.dropWhile_append]
  split
  . next hempty => simp_all
  . rfl

theorem fromFirstLine_append_other (h : token.kind ∉ lineKinds) :
    fromFirstLine (group ++ [token]) =
      if fromFirstLine group = [] then [] else fromFirstLine group ++ [token] := by
  unfold fromFirstLine
  rw [List.dropWhile_append]
  simp [h]

theorem paragraph_fromFirstLine_eq_nil_iff :
    paragraph (fromFirstLine group) = [] ↔ fromFirstLine group = [] := by
  constructor
  . intro h
    by_contra hne
    have hhead := List.head_dropWhile_not (fun token : Token => token.kind ∉ lineKinds) hne
    have hmem := List.head_mem hne
    simp only [paragraph, List.append_eq_nil_iff, textsOf, List.map_eq_nil_iff,
      List.filter_eq_nil_iff] at h
    exact h.2 _ hmem (by simpa [fromFirstLine] using hhead)
  . intro h
    simp [h]

theorem paragraph_append_line (h : token.kind ∈ lineKinds) :
    paragraph (fromFirstLine (group ++ [token])) =
      paragraph (fromFirstLine group) ++ [token.text] := by
  have hkind : token.kind ∉ [Kind.declaration] := by
    intro hdeclaration
    simp_all [lineKinds]
  rw [fromFirstLine_append_line h]
  unfold paragraph
  rw [textsOf_append_not_mem hkind, textsOf_append_mem h, List.append_assoc]

theorem paragraph_append_declaration (h : token.kind = .declaration) :
    paragraph (fromFirstLine (group ++ [token])) =
      if paragraph (fromFirstLine group) = [] then []
      else subHeading token.text :: paragraph (fromFirstLine group) := by
  have hkind : token.kind ∉ lineKinds := by
    simp [h, lineKinds]
  rw [fromFirstLine_append_other hkind]
  simp only [paragraph_fromFirstLine_eq_nil_iff]
  split
  . rfl
  . unfold paragraph
    rw [textsOf_append_mem (by simp [h]), textsOf_append_not_mem hkind]
    simp

theorem paragraph_append_other (hline : token.kind ∉ lineKinds) (h : token.kind ≠ .declaration) :
    paragraph (fromFirstLine (group ++ [token])) = paragraph (fromFirstLine group) := by
  rw [fromFirstLine_append_other hline]
  split
  . next hempty => rw [hempty]
  . unfold paragraph
    rw [textsOf_append_not_mem (by simpa using h), textsOf_append_not_mem hline]

theorem paragraphsOf_eq {closed : List (List Token)} {last : List Token}
    (hcut : cutAt .empty tokens = closed ++ [last]) :
    paragraphsOf tokens =
      ((closed.map fromFirstLine).filter (· ≠ [])).map paragraph ++
        [paragraph (fromFirstLine last)] := by
  unfold paragraphsOf
  rw [hcut]
  by_cases hlast : fromFirstLine last = []
  . simp [hlast]
  . simp [hlast]

theorem paragraphsOf_append_of_ne {f : List Text → List Text} (h : token.kind ≠ .empty)
    (hf : ∀ group, paragraph (fromFirstLine (group ++ [token])) = f (paragraph (fromFirstLine group))) :
    paragraphsOf (tokens ++ [token]) = mapLast f (paragraphsOf tokens) := by
  obtain ⟨closed, last, hcut⟩ := exists_cutAt_eq_append .empty tokens
  rw [paragraphsOf_eq (cutAt_append_last h hcut), paragraphsOf_eq hcut, mapLast_append_singleton, hf]

theorem paragraphsOf_append_empty :
    paragraphsOf (tokens ++ [.empty]) = addToken (paragraphsOf tokens) .empty := by
  obtain ⟨closed, last, hcut⟩ := exists_cutAt_eq_append .empty tokens
  have hnext : cutAt .empty (tokens ++ [.empty]) = (closed ++ [last]) ++ [[]] := by
    rw [cutAt_append_eq (by simp [kind]), hcut]
  rw [paragraphsOf_eq hnext, paragraphsOf_eq hcut]
  unfold addToken
  rw [List.getLast?_concat]
  simp only [Option.some.injEq, paragraph_fromFirstLine_eq_nil_iff]
  split
  . next hlast => simp [hlast]
  . next hlast => simp [hlast]

theorem paragraphsOf_append (tokens : List Token) (token : Token) :
    paragraphsOf (tokens ++ [token]) = addToken (paragraphsOf tokens) token := by
  cases token with
  | heading | doc | blank =>
    rw [paragraphsOf_append_of_ne (by simp [kind])]
    . rfl
    . intro group
      apply paragraph_append_line
      simp [kind, lineKinds]
  | declaration name =>
    rw [paragraphsOf_append_of_ne (by simp [kind])]
    . rfl
    . intro group
      apply paragraph_append_declaration
      rfl
  | empty => apply paragraphsOf_append_empty
  | plain | skip | scopeStart | scopeEnd =>
    rw [paragraphsOf_append_of_ne (by simp [kind])]
    . rw [mapLast_id]
      rfl
    . intro group
      apply paragraph_append_other
      . simp [kind, lineKinds]
      . simp [kind]

example :
    paragraphsOf [.declaration "a", .doc "x", .declaration "b", .declaration "c", .empty] =
      [[subHeading "c", subHeading "b", "x"], []] := by
  decide +kernel

def selected (tokens : List Token) : Option Target :=
  (tokens.filter (·.kind = .heading)).getLast?.bind Token.target?

def routed (v : Vocabulary) (t : Target) (lines : List Text) : List Text :=
  ((lines.zip lines.inits.tail).filter fun (_, upTo) =>
    selected (upTo.filterMap (Source.classifyConfig v)) = some t).map Prod.fst

theorem selected_append (tokens : List Token) (token : Token) :
    selected (tokens ++ [token]) =
      if token.kind = .heading then token.target? else selected tokens := by
  unfold selected
  rw [List.filter_append]
  by_cases h : token.kind = .heading
  . simp [h]
  . simp [h]

variable {v : Vocabulary} {t : Target} {lines : List Text} {line : Text}

@[simp]
theorem routed_nil : routed v t [] = [] := by
  rfl

theorem routed_append (lines : List Text) (line : Text) :
    routed v t (lines ++ [line]) =
      routed v t lines ++
        if selected ((lines ++ [line]).filterMap (Source.classifyConfig v)) = some t
        then [line] else [] := by
  have hinits : (lines ++ [line]).inits.tail = lines.inits.tail ++ [lines ++ [line]] := by
    rw [List.inits_append, List.tail_append_of_ne_nil (by cases lines <;> simp)]
    simp
  unfold routed
  rw [hinits, List.zip_append (by simp), List.filter_append, List.map_append]
  congr 1
  split <;> simp_all

theorem mem_of_mem_routed (h : line ∈ routed v t lines) : line ∈ lines := by
  unfold routed at h
  simp only [List.mem_map, List.mem_filter] at h
  obtain ⟨⟨_, upTo⟩, ⟨hmem, -⟩, rfl⟩ := h
  exact (List.of_mem_zip hmem).1

theorem selected_routed_append
    (hlines : selected (lines.filterMap (Source.classifyConfig v)) = some t →
      selected ((routed v t lines).filterMap (Source.classifyConfig v)) = some t)
    (h : selected ((lines ++ [line]).filterMap (Source.classifyConfig v)) = some t) :
    selected ((routed v t lines ++ [line]).filterMap (Source.classifyConfig v)) = some t := by
  -- A line that is routed to a target is still routed to it when only the lines of that target stand
  -- before it: the heading that selects the target is one of them.
  rw [List.filterMap_append] at h ⊢
  cases htoken : Source.classifyConfig v line with
  | none =>
    simp only [List.filterMap_cons, htoken, List.filterMap_nil, List.append_nil] at h ⊢
    exact hlines h
  | some token =>
    simp only [List.filterMap_cons, htoken, List.filterMap_nil, selected_append] at h ⊢
    split
    . next hheading => simpa [hheading] using h
    . next hheading =>
      apply hlines
      simpa [hheading] using h

theorem selected_routed (h : selected (lines.filterMap (Source.classifyConfig v)) = some t) :
    selected ((routed v t lines).filterMap (Source.classifyConfig v)) = some t := by
  induction lines using List.reverseRecOn with
  | nil => simpa using h
  | append_singleton lines line ih =>
    rw [routed_append]
    simp only [h, ↓reduceIte]
    apply selected_routed_append ih h

theorem routed_routed (v : Vocabulary) (t : Target) (lines : List Text) :
    routed v t (routed v t lines) = routed v t lines := by
  induction lines using List.reverseRecOn with
  | nil => rfl
  | append_singleton lines line ih =>
    rw [routed_append]
    split
    . next h =>
      have hrouted := selected_routed_append selected_routed h
      rw [routed_append, ih]
      simp only [hrouted, ↓reduceIte]
    . simpa using ih

theorem get_set_eq (d : ConfigDocs) (t : Target) (p : Paragraphs) : (d.set t p).get t = p := by
  cases t <;> rfl

theorem get_set_ne (d : ConfigDocs) (p : Paragraphs) {t u : Target} (h : u ≠ t) :
    (d.set u p).get t = d.get t := by
  cases u <;> cases t <;> first | rfl | exact absurd rfl h

theorem Progress.target_step (s : Progress) (token : Token) :
    (s.step token).target = if token.kind = .heading then token.target? else s.target := by
  unfold step
  dsimp only
  split <;> rfl

theorem Progress.get_step (s : Progress) (token : Token) (t : Target) :
    (s.step token).docs.get t =
      if (s.step token).target = some t then addToken (s.docs.get t) token else s.docs.get t := by
  rw [target_step]
  unfold step
  dsimp only
  generalize (if token.kind = .heading then token.target? else s.target) = target
  cases target with
  | none => simp
  | some u =>
    by_cases h : u = t
    . simp [h, get_set_eq]
    . simp [h, get_set_ne]

theorem Progress.target_foldl_step (tokens : List Token) :
    (tokens.foldl step {}).target = selected tokens := by
  induction tokens using List.reverseRecOn with
  | nil => rfl
  | append_singleton tokens token ih =>
    rw [List.foldl_append, List.foldl_cons, List.foldl_nil, target_step, selected_append, ih]

theorem Progress.get_foldl_step (v : Vocabulary) (t : Target) (lines : List Text) :
    ((lines.filterMap (Source.classifyConfig v)).foldl step {}).docs.get t =
      paragraphsOf ((routed v t lines).filterMap (Source.classifyConfig v)) := by
  induction lines using List.reverseRecOn with
  | nil => cases t <;> rfl
  | append_singleton lines line ih =>
    rw [routed_append]
    cases htoken : Source.classifyConfig v line with
    | none =>
      have hline : [line].filterMap (Source.classifyConfig v) = [] := by
        simp [htoken]
      simp only [List.filterMap_append, hline, List.append_nil, ih]
      split <;> simp [hline]
    | some token =>
      have hline : [line].filterMap (Source.classifyConfig v) = [token] := by
        simp [htoken]
      simp only [List.filterMap_append, hline, List.foldl_append, List.foldl_cons, List.foldl_nil]
      -- The state has selected what the last heading up to this line selects.
      rw [get_step, target_step, target_foldl_step, ← selected_append, ih]
      split
      . rw [hline, paragraphsOf_append]
      . simp

theorem extractFrom_eq_foldl (h : none ∉ lines.map (Source.classifyConfig v)) (s : Progress) :
    extractFrom v s lines =
      some ((lines.filterMap (Source.classifyConfig v)).foldl Progress.step s) := by
  induction lines generalizing s with
  | nil => rfl
  | cons line lines ih =>
    simp only [List.map_cons, List.mem_cons, not_or] at h
    cases htoken : Source.classifyConfig v line with
    | none => exact absurd htoken.symm h.1
    | some token =>
      simp only [extractFrom, htoken]
      rw [ih h.2, List.filterMap_cons_some htoken, List.foldl_cons]

/--
Where every line has a token, every document has the paragraphs of the lines that are routed to it,
and these lines alone give the same document.
-/
theorem extract_get_eq_paragraphsOf_routed (v : Vocabulary) (lines : List Text)
    (h : none ∉ lines.map (Source.classifyConfig v)) :
    ∃ docs, extract v lines = some docs
      ∧ ∀ t : Target,
          docs.get t = paragraphsOf ((routed v t lines).filterMap (Source.classifyConfig v))
            ∧ ∃ only, extract v (routed v t lines) = some only ∧ only.get t = docs.get t := by
  unfold extract
  rw [extractFrom_eq_foldl h]
  refine ⟨_, rfl, ?_⟩
  intro t
  have hrouted : none ∉ (routed v t lines).map (Source.classifyConfig v) := by
    intro hnone
    obtain ⟨line, hmem, htoken⟩ := List.mem_map.mp hnone
    exact h (List.mem_map.mpr ⟨line, mem_of_mem_routed hmem, htoken⟩)
  rw [extractFrom_eq_foldl hrouted]
  refine ⟨?_, _, rfl, ?_⟩
  . apply Progress.get_foldl_step
  . rw [Progress.get_foldl_step, Progress.get_foldl_step, routed_routed]

def returningScript : List Text :=
  ["xplr.a = 1", "-- ### Modes ---", "-- text", "-- ### Layouts ", "", "-- ### Modes ", "xplr.b = 2",
   " "]

theorem extract_returningScript :
    none ∉ returningScript.map (Source.classifyConfig {})
      ∧ ∃ docs, extract {} returningScript = some docs
        ∧ ∀ t : Target,
            docs.get t =
                paragraphsOf ((routed {} t returningScript).filterMap (Source.classifyConfig {}))
              ∧ ∃ only, extract {} (routed {} t returningScript) = some only
                ∧ only.get t = docs.get t := by
  have h : none ∉ returningScript.map (Source.classifyConfig {}) := by
    decide +kernel
  exact ⟨h, extract_get_eq_paragraphsOf_routed {} returningScript h⟩

end ConfigDocs

end Commentary
