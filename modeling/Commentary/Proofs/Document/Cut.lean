import Commentary.Document.Basic
import Commentary.Source.Token
import Mathlib.Data.List.Induction

/-!
This module contains the words in which a document is described without saying how it is extracted:
the texts of the tokens of some kinds, and the stretches of tokens between those of one kind. Tokens
arrive at the end of a list, so both are related to the list without its last token.
-/

namespace Commentary

theorem mapLast_append_singleton (f : α → α) (as : List α) (a : α) :
    mapLast f (as ++ [a]) = as ++ [f a] := by
  induction as with
  | nil => rfl
  | cons b bs ih =>
    cases bs with
    | nil => rfl
    | cons c cs =>
      simp only [List.cons_append, mapLast] at ih ⊢
      rw [ih]

theorem mapLast_id (as : List α) : mapLast id as = as := by
  cases as using List.reverseRecOn with
  | nil => rfl
  | append_singleton as a => rw [mapLast_append_singleton, id]

theorem map_zipWith_eq_left {f : α → β → γ} {g : γ → α} (hg : ∀ a b, g (f a b) = a) {as : List α}
    {bs : List β} (h : as.length ≤ bs.length) : (List.zipWith f as bs).map g = as := by
  rw [List.map_zipWith]
  apply List.ext_getElem
  . simp [h]
  . simp [hg]

namespace Token

def textsOf (kinds : List Kind) (tokens : List Token) : List Text :=
  (tokens.filter (·.kind ∈ kinds)).map Token.text

def cutAt (kind : Kind) (tokens : List Token) : List (List Token) :=
  tokens.splitOnP (·.kind = kind)

variable {kind : Kind} {kinds : List Kind} {tokens : List Token} {token : Token}

@[simp]
theorem textsOf_nil : textsOf kinds [] = [] := by
  rfl

theorem textsOf_append (before after : List Token) :
    textsOf kinds (before ++ after) = textsOf kinds before ++ textsOf kinds after := by
  simp [textsOf]

theorem textsOf_append_mem (h : token.kind ∈ kinds) :
    textsOf kinds (tokens ++ [token]) = textsOf kinds tokens ++ [token.text] := by
  simp [textsOf, h]

theorem textsOf_append_not_mem (h : token.kind ∉ kinds) :
    textsOf kinds (tokens ++ [token]) = textsOf kinds tokens := by
  simp [textsOf, h]

@[simp]
theorem cutAt_nil : cutAt kind [] = [[]] := by
  simp [cutAt]

theorem cutAt_ne_nil : cutAt kind tokens ≠ [] := by
  apply List.splitOnP_ne_nil

theorem cutAt_append_eq (h : token.kind = kind) :
    cutAt kind (tokens ++ [token]) = cutAt kind tokens ++ [[]] := by
  unfold cutAt
  rw [List.splitOnP_append_cons]
  . simp
  . simpa using h

theorem cutAt_append_ne (h : token.kind ≠ kind) :
    cutAt kind (tokens ++ [token]) = mapLast (· ++ [token]) (cutAt kind tokens) := by
  unfold cutAt
  induction tokens with
  | nil => simp [List.splitOnP_cons_eq_if_modifyHead, h, mapLast]
  | cons first rest ih =>
    simp only [List.cons_append, List.splitOnP_cons_eq_if_modifyHead]
    rw [ih]
    -- The first token joins the first stretch and the new one the last, which may be the same.
    rcases hrest : rest.splitOnP (·.kind = kind) with _ | ⟨stretch, _ | ⟨other, others⟩⟩
    . exact absurd hrest (List.splitOnP_ne_nil _ _)
    . rw [hrest]
      split <;> simp [mapLast]
    . rw [hrest]
      split <;> simp [mapLast]

theorem exists_cutAt_eq_append (kind : Kind) (tokens : List Token) :
    ∃ closed last, cutAt kind tokens = closed ++ [last] := by
  refine ⟨(cutAt kind tokens).dropLast, (cutAt kind tokens).getLast cutAt_ne_nil, ?_⟩
  rw [List.dropLast_concat_getLast]

theorem cutAt_append_last {closed : List (List Token)} {last : List Token} (h : token.kind ≠ kind)
    (hcut : cutAt kind tokens = closed ++ [last]) :
    cutAt kind (tokens ++ [token]) = closed ++ [last ++ [token]] := by
  rw [cutAt_append_ne h, hcut, mapLast_append_singleton]

theorem length_cutAt (kind : Kind) (tokens : List Token) :
    (cutAt kind tokens).length = (textsOf [kind] tokens).length + 1 := by
  induction tokens using List.reverseRecOn with
  | nil => simp
  | append_singleton tokens token ih =>
    obtain ⟨closed, last, hcut⟩ := exists_cutAt_eq_append kind tokens
    by_cases h : token.kind = kind
    . rw [cutAt_append_eq h, textsOf_append_mem (by simp [h])]
      simp [ih]
    . rw [cutAt_append_last h hcut, textsOf_append_not_mem (by simp [h]), ← ih, hcut]
      simp

theorem length_textsOf_eq {closed : List (List Token)} {last : List Token}
    (hcut : cutAt kind tokens = closed ++ [last]) :
    (textsOf [kind] tokens).length = closed.length := by
  have hlength := length_cutAt kind tokens
  rw [hcut, List.length_append, List.length_singleton] at hlength
  omega

end Token

end Commentary
