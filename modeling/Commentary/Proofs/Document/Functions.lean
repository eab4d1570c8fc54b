import Commentary.Document.Functions
import Commentary.Proofs.Document.Cut

/-!
This module contains the description of documented functions by cutting the tokens of a source at its
declarations. The extraction, which reads line by line, gives these functions and loses no line of
documentation.
-/

namespace Commentary

namespace FunctionDocs

open Token

def trailing (tokens : List Token) : List Text :=
  textsOf [.doc] ((cutAt .declaration tokens).getLast cutAt_ne_nil)

def declared (tokens : List Token) : List FunctionDoc :=
  List.zipWith FunctionDoc.mk (textsOf [.declaration] tokens)
    ((cutAt .declaration tokens).dropLast.map (textsOf [.doc]))

def ofTokens (tokens : List Token) : FunctionDocs where
  functions := (declared tokens).filter (·.doc ≠ [])
  orphan := if trailing tokens = [] then none else some (trailing tokens)

variable {tokens : List Token} {token : Token}

theorem map_name_declared (tokens : List Token) :
    (declared tokens).map FunctionDoc.name = textsOf [.declaration] tokens := by
  apply map_zipWith_eq_left
  . intros
    rfl
  . simp [length_cutAt]

theorem trailing_eq {closed : List (List Token)} {last : List Token}
    (hcut : cutAt .declaration tokens = closed ++ [last]) :
    trailing tokens = textsOf [.doc] last := by
  simp [trailing, hcut]

theorem trailing_append_doc (h : token.kind = .doc) :
    trailing (tokens ++ [token]) = trailing tokens ++ [token.text] := by
  obtain ⟨closed, last, hcut⟩ := exists_cutAt_eq_append .declaration tokens
  have hkind : token.kind ≠ .declaration := by
    simp [h]
  rw [trailing_eq hcut, trailing_eq (cutAt_append_last hkind hcut), textsOf_append_mem (by simp [h])]

theorem trailing_append_declaration (h : token.kind = .declaration) :
    trailing (tokens ++ [token]) = [] := by
  simp [trailing, cutAt_append_eq h]

theorem trailing_append_other (h : token.kind ∉ [.doc, .declaration]) :
    trailing (tokens ++ [token]) = trailing tokens := by
  obtain ⟨closed, last, hcut⟩ := exists_cutAt_eq_append .declaration tokens
  simp only [List.mem_cons, List.not_mem_nil, or_false, not_or] at h
  rw [trailing_eq hcut, trailing_eq (cutAt_append_last h.2 hcut), textsOf_append_not_mem (by simp [h])]

theorem declared_append_declaration (h : token.kind = .declaration) :
    declared (tokens ++ [token]) = declared tokens ++ [⟨token.text, trailing tokens⟩] := by
  obtain ⟨closed, last, hcut⟩ := exists_cutAt_eq_append .declaration tokens
  rw [trailing_eq hcut]
  unfold declared
  rw [cutAt_append_eq h, textsOf_append_mem (by simp [h]), hcut, List.dropLast_concat,
    List.dropLast_concat, List.map_append, List.zipWith_append]
  . rfl
  . simpa using length_textsOf_eq hcut

theorem declared_append_other (h : token.kind ≠ .declaration) :
    declared (tokens ++ [token]) = declared tokens := by
  obtain ⟨closed, last, hcut⟩ := exists_cutAt_eq_append .declaration tokens
  unfold declared
  rw [cutAt_append_last h hcut, textsOf_append_not_mem (by simpa using h), hcut]
  rw [List.dropLast_concat, List.dropLast_concat]

def Progress.ofTokens (tokens : List Token) : Progress where
  functions := (FunctionDocs.ofTokens tokens).functions
  pending := trailing tokens

theorem Progress.ofTokens_append (tokens : List Token) (token : Token) :
    Progress.ofTokens (tokens ++ [token]) = (Progress.ofTokens tokens).step token := by
  cases token with
  | doc text =>
    simp only [Progress.ofTokens, FunctionDocs.ofTokens, step]
    rw [trailing_append_doc rfl, declared_append_other (by simp [kind])]
    rfl
  | declaration name =>
    simp only [Progress.ofTokens, FunctionDocs.ofTokens, step]
    rw [trailing_append_declaration rfl, declared_append_declaration rfl, List.filter_append]
    by_cases hpending : trailing tokens = []
    . simp [hpending]
    . simp [hpending, text]
  | plain | skip | scopeStart | scopeEnd | heading | blank | empty =>
    simp only [Progress.ofTokens, FunctionDocs.ofTokens, step]
    rw [trailing_append_other (by simp [kind]), declared_append_other (by simp [kind])]

theorem foldl_step_eq_ofTokens (tokens : List Token) :
    tokens.foldl Progress.step {} = Progress.ofTokens tokens := by
  induction tokens using List.reverseRecOn with
  | nil => simp [Progress.ofTokens, ofTokens, declared, trailing]
  | append_singleton tokens token ih =>
    rw [List.foldl_append, ih, Progress.ofTokens_append]
    rfl

def Progress.held (s : Progress) : List Text :=
  s.functions.flatMap FunctionDoc.doc ++ s.pending

theorem Progress.held_step (s : Progress) (token : Token) :
    (s.step token).held = s.held ++ textsOf [.doc] [token] := by
  cases token with
  | doc text => simp [step, held, textsOf, kind, Token.text]
  | declaration name =>
    simp only [step]
    split
    . next hpending => simp [held, hpending, textsOf, kind]
    . simp [held, textsOf, kind]
  | plain | skip | scopeStart | scopeEnd | heading | blank | empty => simp [step, textsOf, kind]

theorem Progress.held_foldl_step (tokens : List Token) (s : Progress) :
    (tokens.foldl step s).held = s.held ++ textsOf [.doc] tokens := by
  induction tokens generalizing s with
  | nil => simp
  | cons token tokens ih =>
    rw [List.foldl_cons, ih, held_step, List.append_assoc, ← textsOf_append]
    rfl

theorem getD_orphan_ofTokens (tokens : List Token) :
    (ofTokens tokens).orphan.getD [] = trailing tokens := by
  unfold ofTokens
  dsimp only
  split
  . next h => simp [h]
  . simp

theorem extract_eq_ofTokens (v : Vocabulary) (lines : List Text) :
    extract v lines = ofTokens (lines.map (Source.classifyFunction v)) := by
  have hfinal := foldl_step_eq_ofTokens (lines.map (Source.classifyFunction v))
  rw [List.foldl_map] at hfinal
  unfold extract
  rw [hfinal]
  rfl

/--
The extraction finds the declarations that have documentation, each with the documentation since the
declaration before it, and the documentation that no declaration follows. Every line of documentation
is in exactly one of these places, in the order of the source.
-/
theorem extract_describes_all_docs (v : Vocabulary) (lines : List Text) :
    extract v lines = ofTokens (lines.map (Source.classifyFunction v))
      ∧ (declared (lines.map (Source.classifyFunction v))).map FunctionDoc.name =
          textsOf [.declaration] (lines.map (Source.classifyFunction v))
      ∧ ((extract v lines).orphan = none
          ↔ trailing (lines.map (Source.classifyFunction v)) = [])
      ∧ (extract v lines).functions.flatMap FunctionDoc.doc ++ (extract v lines).orphan.getD [] =
          textsOf [.doc] (lines.map (Source.classifyFunction v))
      ∧ [] ∉ (extract v lines).functions.map FunctionDoc.doc := by
  have hheld := Progress.held_foldl_step (lines.map (Source.classifyFunction v)) {}
  rw [foldl_step_eq_ofTokens] at hheld
  rw [extract_eq_ofTokens, getD_orphan_ofTokens]
  refine ⟨rfl, map_name_declared _, ?_, ?_, ?_⟩
  . simp [ofTokens]
  . simpa [Progress.held, Progress.ofTokens] using hheld
  . simp [ofTokens]

end FunctionDocs

end Commentary
