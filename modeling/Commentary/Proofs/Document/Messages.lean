import Commentary.Document.Messages
import Commentary.Proofs.Document.Cut

/-!
This module contains the description of the document of an enumeration by cutting its tokens: at the
opening and the closing line, then at the headings, then at the declarations. The extraction, which
reads line by line, gives that document.
-/

namespace Commentary

namespace Source

theorem classifyEnum_kind_ne_empty (v : Vocabulary) (line : Text) :
    (classifyEnum v line).kind ≠ .empty := by
  unfold classifyEnum
  dsimp only
  repeat' split
  all_goals simp [Token.kind]

end Source

namespace Category

open Token

def ofTokens (title : Text) (tokens : List Token) : Category where
  title := title
  sections :=
    List.zipWith Section.mk (textsOf [.declaration] tokens ++ [[]])
      ((cutAt .declaration tokens).map (textsOf [.doc, .blank]))

variable {title : Text} {tokens : List Token} {token : Token}

theorem ofTokens_nil : ofTokens title [] = ofTitle title := by
  simp [ofTokens, ofTitle]

theorem length_sections_ofTokens (title : Text) (tokens : List Token) :
    (ofTokens title tokens).sections.length = (textsOf [.declaration] tokens).length + 1 := by
  simp [ofTokens, length_cutAt]

theorem map_title_sections_ofTokens (title : Text) (tokens : List Token) :
    (ofTokens title tokens).sections.map Section.title = textsOf [.declaration] tokens ++ [[]] := by
  apply map_zipWith_eq_left
  . intros
    rfl
  . simp [length_cutAt]

theorem map_body_sections_ofTokens (title : Text) (tokens : List Token) :
    (ofTokens title tokens).sections.map Section.body =
      (cutAt .declaration tokens).map (textsOf [.doc, .blank]) := by
  unfold ofTokens
  rw [List.map_zipWith]
  apply List.ext_getElem
  . simp [length_cutAt]
  . simp

theorem sections_ofTokens (title : Text) {closed : List (List Token)} {last : List Token}
    (hcut : cutAt .declaration tokens = closed ++ [last]) :
    (ofTokens title tokens).sections =
      List.zipWith Section.mk (textsOf [.declaration] tokens) (closed.map (textsOf [.doc, .blank]))
        ++ [{ body := textsOf [.doc, .blank] last }] := by
  simp only [ofTokens, hcut, List.map_append]
  rw [List.zipWith_append]
  . rfl
  . simpa using length_textsOf_eq hcut

theorem ofTokens_append_line (h : token.kind = .doc ∨ token.kind = .blank) :
    ofTokens title (tokens ++ [token]) = addLine token.text (ofTokens title tokens) := by
  obtain ⟨closed, last, hcut⟩ := exists_cutAt_eq_append .declaration tokens
  have hkind : token.kind ≠ .declaration := by
    rcases h with h | h <;> simp [h]
  have hsections := sections_ofTokens title (cutAt_append_last hkind hcut)
  rw [textsOf_append_not_mem (by simpa using hkind)] at hsections
  rw [textsOf_append_mem (by simpa using h)] at hsections
  change Category.mk title (ofTokens title (tokens ++ [token])).sections = Category.mk title _
  rw [hsections, sections_ofTokens title hcut, mapLast_append_singleton]

theorem ofTokens_append_declaration (h : token.kind = .declaration) :
    ofTokens title (tokens ++ [token]) = declare token.text (ofTokens title tokens) := by
  obtain ⟨closed, last, hcut⟩ := exists_cutAt_eq_append .declaration tokens
  have hnext : cutAt .declaration (tokens ++ [token]) = cutAt .declaration tokens ++ [[]] :=
    cutAt_append_eq h
  have hsections := sections_ofTokens title hnext
  rw [textsOf_append_mem (by simp [h]), hcut, List.map_append, List.zipWith_append] at hsections
  . change Category.mk title (ofTokens title (tokens ++ [token])).sections = Category.mk title _
    rw [hsections, sections_ofTokens title hcut, mapLast_append_singleton]
    simp
  . simpa using length_textsOf_eq hcut

theorem ofTokens_append_other (h : token.kind ∉ [.declaration, .doc, .blank]) :
    ofTokens title (tokens ++ [token]) = ofTokens title tokens := by
  obtain ⟨closed, last, hcut⟩ := exists_cutAt_eq_append .declaration tokens
  simp only [List.mem_cons, List.not_mem_nil, not_or, or_false] at h
  unfold ofTokens
  rw [cutAt_append_last h.1 hcut, textsOf_append_not_mem (by simp [h]), hcut]
  simp only [List.map_append, List.map_cons]
  rw [textsOf_append_not_mem (by simp [h])]

end Category

namespace Messages

open Token

def ofTokens (tokens : List Token) : Messages where
  categories :=
    List.zipWith Category.ofTokens (textsOf [.heading] tokens) (cutAt .heading tokens).tail

variable {tokens : List Token} {token : Token}

theorem length_tail_cutAt_heading (tokens : List Token) :
    (textsOf [.heading] tokens).length = (cutAt .heading tokens).tail.length := by
  simp [length_cutAt]

theorem map_title_categories_ofTokens (tokens : List Token) :
    (ofTokens tokens).categories.map Category.title = textsOf [.heading] tokens := by
  apply map_zipWith_eq_left
  . intros
    rfl
  . exact Nat.le_of_eq (length_tail_cutAt_heading tokens)

theorem ofTokens_append_heading (h : token.kind = .heading) :
    (ofTokens (tokens ++ [token])).categories =
      (ofTokens tokens).categories ++ [.ofTitle token.text] := by
  unfold ofTokens
  rw [cutAt_append_eq h, textsOf_append_mem (by simp [h]), List.tail_append_of_ne_nil cutAt_ne_nil]
  rw [List.zipWith_append (length_tail_cutAt_heading tokens)]
  simp [Category.ofTokens_nil]

theorem ofTokens_append_of_not_heading {f : Category → Category} (h : token.kind ≠ .heading)
    (hf : ∀ title rest,
      Category.ofTokens title (rest ++ [token]) = f (Category.ofTokens title rest)) :
    (ofTokens (tokens ++ [token])).categories = mapLast f (ofTokens tokens).categories := by
  have hlength := length_tail_cutAt_heading tokens
  unfold ofTokens
  rw [cutAt_append_ne h, textsOf_append_not_mem (by simpa using h)]
  -- The first stretch stands before every heading, so a category needs a second one.
  rcases hcut : cutAt .heading tokens with _ | ⟨dropped, kept⟩
  . exact absurd hcut cutAt_ne_nil
  . rw [hcut, List.tail_cons] at hlength
    cases kept using List.reverseRecOn with
    | nil => simp [mapLast]
    | append_singleton closed last =>
      cases htitles : textsOf [.heading] tokens using List.reverseRecOn with
      | nil => simp [htitles] at hlength
      | append_singleton titles title =>
        have hclosed : titles.length = closed.length := by
          simpa [htitles] using hlength
        rw [← List.cons_append, mapLast_append_singleton]
        simp only [List.cons_append, List.tail_cons]
        rw [List.zipWith_append hclosed, List.zipWith_append hclosed]
        simp only [List.zipWith_cons_cons, List.zipWith_nil_left]
        rw [mapLast_append_singleton, hf]

theorem ofTokens_append (h : token.kind ≠ .empty) :
    ofTokens (tokens ++ [token]) = (ofTokens tokens).take token := by
  change Messages.mk (ofTokens (tokens ++ [token])).categories = _
  cases token with
  | heading title target => rw [ofTokens_append_heading rfl, take, text]
  | doc line =>
    rw [ofTokens_append_of_not_heading (by simp [kind])]
    . rw [take]
    . intro title rest
      apply Category.ofTokens_append_line
      simp [kind]
  | blank =>
    rw [ofTokens_append_of_not_heading (by simp [kind])]
    . rw [take]
    . intro title rest
      apply Category.ofTokens_append_line
      simp [kind]
  | declaration name =>
    rw [ofTokens_append_of_not_heading (by simp [kind])]
    . rw [take]
    . intro title rest
      apply Category.ofTokens_append_declaration
      rfl
  | empty => simp [kind] at h
  | plain | skip | scopeStart | scopeEnd =>
    rw [ofTokens_append_of_not_heading (by simp [kind])]
    . rw [take, mapLast_id]
    . intro title rest
      apply Category.ofTokens_append_other
      simp [kind]

theorem foldl_take_eq_ofTokens (h : ∀ token ∈ tokens, token.kind ≠ .empty) :
    tokens.foldl take {} = ofTokens tokens := by
  induction tokens using List.reverseRecOn with
  | nil => rfl
  | append_singleton tokens token ih =>
    have hrest : ∀ token ∈ tokens, token.kind ≠ .empty := by
      intro token hmem
      apply h
      simp [hmem]
    rw [List.foldl_append, ih hrest, ofTokens_append (h token (by simp))]
    rfl

def afterOpening (tokens : List Token) : List Token :=
  (tokens.dropWhile (· ≠ .scopeStart)).tail

def scope (tokens : List Token) : List Token :=
  (afterOpening tokens).takeWhile (· ≠ .scopeEnd)

def linesRead (tokens : List Token) : Nat :=
  if .scopeEnd ∈ afterOpening tokens then
    (tokens.takeWhile (· ≠ .scopeStart)).length + 1 + (scope tokens).length + 1
  else
    tokens.length

theorem extractFrom_inside (v : Vocabulary) (found : Messages) (lines : List Text) :
    extractFrom v (.inside found) lines =
      (.inside (((lines.map (Source.classifyEnum v)).takeWhile (· ≠ .scopeEnd)).foldl take found),
        if .scopeEnd ∈ lines.map (Source.classifyEnum v) then
          ((lines.map (Source.classifyEnum v)).takeWhile (· ≠ .scopeEnd)).length + 1
        else
          lines.length) := by
  induction lines generalizing found with
  | nil => rfl
  | cons line lines ih =>
    by_cases h : Source.classifyEnum v line = .scopeEnd
    . simp [extractFrom, Progress.step?, h]
    . simp only [extractFrom, Progress.step?, h, ↓reduceIte]
      rw [ih]
      have hne : ¬ .scopeEnd = Source.classifyEnum v line := by
        intro heq
        exact h heq.symm
      simp only [List.map_cons, List.mem_cons, hne, false_or]
      rw [List.takeWhile_cons_of_pos (by simpa using h)]
      split <;> simp

theorem extractFrom_outside (v : Vocabulary) (lines : List Text) :
    (extractFrom v .outside lines).1.found =
        (scope (lines.map (Source.classifyEnum v))).foldl take {}
      ∧ (extractFrom v .outside lines).2 = linesRead (lines.map (Source.classifyEnum v)) := by
  induction lines with
  | nil => exact ⟨rfl, rfl⟩
  | cons line lines ih =>
    by_cases h : Source.classifyEnum v line = .scopeStart
    . simp only [extractFrom, Progress.step?, h, ↓reduceIte]
      rw [extractFrom_inside]
      simp only [Progress.found, scope, linesRead, afterOpening, List.map_cons, h]
      constructor
      . simp
      . simp only [ne_eq, not_true_eq_false, decide_false, Bool.false_eq_true, not_false_eq_true,
          List.dropWhile_cons_of_neg, List.tail_cons, List.takeWhile_cons_of_neg, List.length_nil,
          List.length_cons, List.length_map]
        split <;> omega
    . simp only [extractFrom, Progress.step?, h, ↓reduceIte]
      have hafter : afterOpening ((line :: lines).map (Source.classifyEnum v)) =
          afterOpening (lines.map (Source.classifyEnum v)) := by
        simp [afterOpening, h]
      simp only [scope, linesRead, hafter] at ih ⊢
      constructor
      . exact ih.1
      . rw [ih.2]
        simp only [List.map_cons, List.length_cons]
        rw [List.takeWhile_cons_of_pos (by simpa using h)]
        split
        . simp only [List.length_cons]
          omega
        . rfl

theorem kind_ne_empty_of_mem_scope (v : Vocabulary) (lines : List Text) :
    ∀ token ∈ scope (lines.map (Source.classifyEnum v)), token.kind ≠ .empty := by
  intro token hmem
  have hmem : token ∈ lines.map (Source.classifyEnum v) := by
    apply (List.dropWhile_sublist (· ≠ .scopeStart)).subset
    apply List.mem_of_mem_tail
    exact (List.takeWhile_sublist _).subset hmem
  obtain ⟨line, -, rfl⟩ := List.mem_map.mp hmem
  apply Source.classifyEnum_kind_ne_empty

/--
The extraction finds the document that the tokens between the opening and the closing line describe,
and reads no line after the closing one. The description leaves nothing out: there is a category for
every heading, and in it a section for every declaration and one more for the text that is left.
-/
theorem extract_eq_ofTokens_scope (v : Vocabulary) (lines : List Text) :
    extract v lines =
        (ofTokens (scope (lines.map (Source.classifyEnum v))),
          linesRead (lines.map (Source.classifyEnum v)))
      ∧ (ofTokens (scope (lines.map (Source.classifyEnum v)))).categories.map Category.title =
          textsOf [.heading] (scope (lines.map (Source.classifyEnum v)))
      ∧ ∀ (title : Text) (tokens : List Token),
          (Category.ofTokens title tokens).sections.length =
              (textsOf [.declaration] tokens).length + 1
            ∧ (Category.ofTokens title tokens).sections.map Section.title =
                textsOf [.declaration] tokens ++ [[]]
            ∧ (Category.ofTokens title tokens).sections.map Section.body =
                (cutAt .declaration tokens).map (textsOf [.doc, .blank]) := by
  obtain ⟨hfound, hread⟩ := extractFrom_outside v lines
  refine ⟨?_, map_title_categories_ofTokens _, ?_⟩
  . rw [foldl_take_eq_ofTokens (kind_ne_empty_of_mem_scope v lines)] at hfound
    unfold extract
    dsimp only
    rw [hfound, hread]
  . intro title tokens
    refine ⟨?_, ?_, ?_⟩
    . apply Category.length_sections_ofTokens
    . apply Category.map_title_sections_ofTokens
    . apply Category.map_body_sections_ofTokens

end Messages

end Commentary
