import Commentary.Proofs.Text.Split
import Commentary.Text.Dedent

/-!
This module contains the lines of a text that was put together from lines. Both kinds of line end are
read back, and a last line end that is missing makes no difference unless the last line is empty.
-/

namespace Commentary

namespace Text

variable {t last : Text} {ls closed : List Text}

theorem join_append_singleton (separator : Text) (ts : List Text) (t : Text) :
    join separator (ts ++ [t]) = ts.flatMap (· ++ separator) ++ t := by
  induction ts with
  | nil => rfl
  | cons first ts ih =>
    rw [List.flatMap_cons, List.append_assoc, ← ih]
    cases ts with
    | nil => rfl
    | cons second ts => rfl

theorem join_append_separator (separator : Text) (hne : ls ≠ []) :
    join separator ls ++ separator = join separator (ls ++ [[]]) := by
  cases ls using List.reverseRecOn with
  | nil => exact absurd rfl hne
  | append_singleton ls last =>
    rw [join_append_singleton, join_append_singleton]
    simp

theorem join_split (b : UInt8) (t : Text) : join [b] (split b t) = t := by
  rw [split_eq_splitOn, join_eq_intercalate, List.intercalate_splitOn]

theorem joinCRLF_append_singleton (ls : List Text) (last : Text) :
    joinCRLF (ls ++ [last]) = joinLF (ls.map (· ++ [cr]) ++ [last]) := by
  unfold joinCRLF joinLF
  rw [join_append_singleton, join_append_singleton, List.flatMap_map]
  simp

def withCRLF (t : Text) : Text :=
  t.flatMap fun b => if b = lf then [cr, lf] else [b]

theorem withCRLF_append (s t : Text) : withCRLF (s ++ t) = withCRLF s ++ withCRLF t := by
  apply List.flatMap_append

theorem withCRLF_eq_self (h : lf ∉ t) : withCRLF t = t := by
  induction t with
  | nil => rfl
  | cons b t ih =>
    rw [List.mem_cons, not_or] at h
    unfold withCRLF at ih ⊢
    rw [List.flatMap_cons, if_neg (Ne.symm h.1), ih h.2]
    rfl

theorem withCRLF_joinLF (h : ∀ l ∈ ls, lf ∉ l) : withCRLF (joinLF ls) = joinCRLF ls := by
  induction ls with
  | nil => rfl
  | cons first ls ih =>
    rw [List.forall_mem_cons] at h
    cases ls with
    | nil => exact withCRLF_eq_self h.1
    | cons second ls =>
      change withCRLF (first ++ [lf] ++ joinLF (second :: ls)) =
        first ++ [cr, lf] ++ joinCRLF (second :: ls)
      rw [withCRLF_append, withCRLF_append, ih h.2, withCRLF_eq_self h.1]
      rfl

theorem chop_append_singleton (b : UInt8) (t : Text) : chop b (t ++ [b]) = t := by
  unfold chop
  simp

theorem map_chop_eq_self {b : UInt8} (h : ∀ l ∈ ls, l.getLast? ≠ some b) : ls.map (chop b) = ls := by
  have hchop : ∀ l ∈ ls, chop b l = id l := by
    intro l hl
    exact if_neg (h l hl)
  rw [List.map_congr_left hchop, List.map_id]

theorem lines_eq (h : split lf t = closed ++ [last]) :
    lines t = (closed ++ if last = [] then [] else [last]).map (chop cr) := by
  unfold lines
  rw [h]
  by_cases hlast : last = []
  . simp [hlast]
  . simp [hlast]

theorem lines_joinLF (h : ∀ l ∈ closed ++ [last], lf ∉ l ∧ l.getLast? ≠ some cr) :
    lines (joinLF (closed ++ [last])) = closed ++ if last = [] then [] else [last] := by
  unfold joinLF
  rw [lines_eq (split_join (fun l hl => (h l hl).1) (by simp)), map_chop_eq_self]
  intro l hl
  apply (h l ?_).2
  split at hl
  . simp_all
  . exact hl

theorem lines_joinCRLF (h : ∀ l ∈ closed ++ [last], lf ∉ l ∧ l.getLast? ≠ some cr) :
    lines (joinCRLF (closed ++ [last])) = closed ++ if last = [] then [] else [last] := by
  have hpieces : ∀ l ∈ closed.map (· ++ [cr]) ++ [last], lf ∉ l := by
    simp only [List.forall_mem_append, List.forall_mem_map, List.forall_mem_singleton] at h ⊢
    refine ⟨?_, h.2.1⟩
    intro l hl hlf
    rcases List.mem_append.mp hlf with hlf | hlf
    . exact (h.1 l hl).1 hlf
    . exact absurd hlf (by decide)
  have hlast : (if last = [] then [] else [last]).map (chop cr) = if last = [] then [] else [last] := by
    apply map_chop_eq_self
    intro l hl
    apply (h l ?_).2
    split at hl
    . cases hl
    . simp_all
  rw [joinCRLF_append_singleton, joinLF, lines_eq (split_join hpieces (by simp)), List.map_append,
    hlast, List.map_map]
  congr 1
  simp [Function.comp_def, chop_append_singleton]

theorem lines_terminated (h : ∀ l ∈ ls, lf ∉ l ∧ l.getLast? ≠ some cr) (hne : ls ≠ []) :
    lines (joinLF ls ++ [lf]) = ls ∧ lines (joinCRLF ls ++ [cr, lf]) = ls := by
  have hterminated : ∀ l ∈ ls ++ [[]], lf ∉ l ∧ l.getLast? ≠ some cr := by
    simp only [List.forall_mem_append, List.forall_mem_singleton]
    exact ⟨h, by simp⟩
  constructor
  . rw [joinLF, join_append_separator [lf] hne, ← joinLF, lines_joinLF hterminated]
    simp
  . rw [joinCRLF, join_append_separator [cr, lf] hne, ← joinCRLF, lines_joinCRLF hterminated]
    simp

theorem lines_unterminated (h : ∀ l ∈ ls, lf ∉ l ∧ l.getLast? ≠ some cr) (hlast : ls.getLast? ≠ some [])
    (hne : ls ≠ []) : lines (joinLF ls) = ls ∧ lines (joinCRLF ls) = ls := by
  cases ls using List.reverseRecOn with
  | nil => exact absurd rfl hne
  | append_singleton closed last =>
    rw [List.getLast?_concat, ne_eq, Option.some.injEq] at hlast
    rw [lines_joinLF h, lines_joinCRLF h, if_neg hlast]
    exact ⟨rfl, rfl⟩

theorem mem_join_of_mem {b : UInt8} {piece separator : Text} (hpiece : piece ∈ ls) (h : b ∈ piece) :
    b ∈ join separator ls := by
  cases ls using List.reverseRecOn with
  | nil => cases hpiece
  | append_singleton ls last =>
    rw [join_append_singleton, List.mem_append, List.mem_flatMap]
    rcases List.mem_append.mp hpiece with hpiece | hpiece
    . exact .inl ⟨piece, hpiece, List.mem_append_left _ h⟩
    . rw [List.mem_singleton] at hpiece
      exact .inr (hpiece ▸ h)

theorem forall_mem_split (hcr : cr ∉ t) : ∀ l ∈ split lf t, lf ∉ l ∧ l.getLast? ≠ some cr := by
  intro l hl
  refine ⟨not_mem_of_mem_split hl, ?_⟩
  intro hlast
  apply hcr
  rw [← join_split lf t]
  exact mem_join_of_mem hl (List.mem_of_getLast? hlast)

theorem lines_withCRLF (hcr : cr ∉ t) : lines (withCRLF t) = lines t := by
  have hpieces := forall_mem_split hcr
  have ht : t = joinLF (split lf t) := (join_split lf t).symm
  cases hsplit : split lf t using List.reverseRecOn with
  | nil => exact absurd hsplit (split_ne_nil lf t)
  | append_singleton closed last =>
    rw [hsplit] at hpieces ht
    rw [ht, withCRLF_joinLF (fun l hl => (hpieces l hl).1), lines_joinCRLF hpieces,
      lines_joinLF hpieces]

theorem lines_append_lf (hcr : cr ∉ t) (hne : t ≠ []) (hlast : t.getLast? ≠ some lf) :
    lines (t ++ [lf]) = lines t := by
  have hpieces := forall_mem_split hcr
  have ht : t = joinLF (split lf t) := (join_split lf t).symm
  have hlastPiece : (split lf t).getLast? ≠ some [] := by
    intro hempty
    obtain ⟨closed, hsplit⟩ := List.getLast?_eq_some_iff.mp hempty
    rw [hsplit] at ht
    cases closed with
    | nil => exact hne ht
    | cons first closed =>
      rw [joinLF, ← join_append_separator [lf] (by simp)] at ht
      rw [ht, List.getLast?_concat] at hlast
      exact hlast rfl
  have hunterminated := (lines_unterminated hpieces hlastPiece (split_ne_nil lf t)).1
  have hterminated := (lines_terminated hpieces (split_ne_nil lf t)).1
  rw [← ht] at hunterminated hterminated
  rw [hterminated, hunterminated]

end Text

end Commentary
