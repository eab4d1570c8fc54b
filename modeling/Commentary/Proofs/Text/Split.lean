import Commentary.Text.Basic
import Mathlib.Data.List.Induction

/-!
This module contains the relation between cutting a text and joining its pieces: pieces that do not
hold the separator are found again, and no line of a text holds a line feed. It also contains what is
left of a text without its end.
-/

namespace Commentary

namespace Text

variable {b : UInt8} {t piece : Text} {pieces : List Text}

theorem split_eq_splitOn (b : UInt8) (t : Text) : split b t = t.splitOn b := by
  rw [List.splitOn_eq_splitOnP]
  induction t with
  | nil => rfl
  | cons a t ih =>
    rw [List.splitOnP_cons_eq_if_modifyHead, split, ih]
    split
    . next h => simp [h]
    . next h =>
      rcases hrest : t.splitOnP (· == b) with _ | ⟨first, others⟩
      . exact absurd hrest (List.splitOnP_ne_nil _ _)
      . simp [h]

theorem join_eq_intercalate (separator : Text) (ts : List Text) :
    join separator ts = separator.intercalate ts := by
  induction ts with
  | nil => rfl
  | cons t ts ih =>
    cases ts with
    | nil => simp [join]
    | cons u us =>
      rw [List.intercalate_cons_cons, ← ih]
      rfl

theorem split_ne_nil (b : UInt8) (t : Text) : split b t ≠ [] := by
  rw [split_eq_splitOn, List.splitOn_eq_splitOnP]
  apply List.splitOnP_ne_nil

theorem split_append_cons (b : UInt8) (before after : Text) :
    split b (before ++ b :: after) = split b before ++ split b after := by
  simp only [split_eq_splitOn, List.splitOn_eq_splitOnP]
  rw [List.splitOnP_append_cons]
  simp

theorem split_join (h : ∀ piece ∈ pieces, b ∉ piece) (hne : pieces ≠ []) :
    split b (join [b] pieces) = pieces := by
  rw [split_eq_splitOn, join_eq_intercalate, List.splitOn_intercalate b h hne]

theorem split_of_not_mem (h : b ∉ t) : split b t = [t] := by
  change split b (join [b] [t]) = [t]
  apply split_join
  . simpa using h
  . simp

theorem not_mem_of_mem_split (h : piece ∈ split b t) : b ∉ piece := by
  induction t generalizing piece with
  | nil =>
    rw [split, List.mem_singleton] at h
    simp [h]
  | cons a t ih =>
    rw [split] at h
    split at h
    . rcases List.mem_cons.mp h with rfl | hrest
      . simp
      . exact ih hrest
    . next hne =>
      rcases hsplit : split b t with _ | ⟨first, others⟩
      . exact absurd hsplit (split_ne_nil b t)
      . rw [hsplit] at h
        rcases List.mem_cons.mp h with rfl | hrest
        . have hfirst : b ∉ first := by
            apply ih
            simp [hsplit]
          simp [hfirst, Ne.symm hne]
        . apply ih
          simp [hsplit, hrest]

theorem dropEndWhile_append_pos {p : UInt8 → Bool} (h : p b = true) :
    dropEndWhile p (t ++ [b]) = dropEndWhile p t := by
  unfold dropEndWhile
  rw [List.reverse_append, List.reverse_singleton, List.singleton_append,
    List.dropWhile_cons_of_pos h]

theorem dropEndWhile_append_neg {p : UInt8 → Bool} (h : p b = false) :
    dropEndWhile p (t ++ [b]) = t ++ [b] := by
  unfold dropEndWhile
  rw [List.reverse_append, List.reverse_singleton, List.singleton_append,
    List.dropWhile_cons_of_neg (by simp [h]), List.reverse_cons, List.reverse_reverse]

theorem dropEndWhile_eq_self {p : UInt8 → Bool} (h : ∀ b, t.getLast? = some b → p b = false) :
    dropEndWhile p t = t := by
  cases t using List.reverseRecOn with
  | nil => rfl
  | append_singleton t b => exact dropEndWhile_append_neg (h b List.getLast?_concat)

theorem exists_eq_dropEndWhile_append (p : UInt8 → Bool) (t : Text) :
    ∃ rest, t = dropEndWhile p t ++ rest ∧ (∀ b ∈ rest, p b = true)
      ∧ (dropEndWhile p t = [] ∨ ∃ start b, dropEndWhile p t = start ++ [b] ∧ p b = false) := by
  induction t using List.reverseRecOn with
  | nil => exact ⟨[], rfl, by simp, .inl rfl⟩
  | append_singleton t b ih =>
    cases h : p b with
    | true =>
      obtain ⟨rest, ht, hrest, hstop⟩ := ih
      rw [dropEndWhile_append_pos h]
      refine ⟨rest ++ [b], ?_, ?_, hstop⟩
      . rw [← List.append_assoc, ← ht]
      . simp only [List.forall_mem_append, List.forall_mem_singleton]
        exact ⟨hrest, h⟩
    | false =>
      rw [dropEndWhile_append_neg h]
      exact ⟨[], by simp, by simp, .inr ⟨t, b, rfl, h⟩⟩

theorem chop_isPrefix (b : UInt8) (t : Text) : chop b t <+: t := by
  unfold chop
  split
  . apply List.dropLast_prefix
  . apply List.prefix_rfl

theorem lf_not_mem_of_mem_lines {line : Text} (h : line ∈ lines t) : lf ∉ line := by
  unfold lines at h
  obtain ⟨piece, hpiece, rfl⟩ := List.mem_map.mp h
  have hmem : piece ∈ split lf t := by
    split at hpiece
    . exact List.dropLast_subset _ hpiece
    . exact hpiece
  intro hlf
  exact not_mem_of_mem_split hmem ((chop_isPrefix cr piece).subset hlf)

end Text

end Commentary
