import Commentary.FileSystem
import Commentary.Proofs.Text.Split
import Mathlib.Data.List.Induction

/-!
This module contains where a path leads, read off the path alone. Following a path through a file system
either ends there or fails, and the shortest way to write a path leads through no other places.
-/

namespace Commentary

namespace FileSystem

def walk (l : Location) (part : Text) : Location :=
  if part = [] ∨ part = Path.here then
    l
  else if part = Path.above then
    l.dropLast
  else
    l ++ [part]

def trail (l : Location) : List Text → List Location
  | [] => [l]
  | part :: parts => l :: trail (walk l part) parts

def origin (workingDirectory : Location) (p : Text) : Location :=
  if Path.isAbsolute p then [] else workingDirectory

def destination (workingDirectory : Location) (p : Text) : Location :=
  (Text.split Path.separator p).foldl walk (origin workingDirectory p)

def onTheWay (workingDirectory : Location) (p : Text) : List Location :=
  trail (origin workingDirectory p) (Text.split Path.separator p).dropLast

variable {fs : FileSystem} {l place : Location} {part : Text} {parts : List Text} {p : Text}

theorem follow_cons_eq_ok_iff :
    fs.follow l (part :: parts) = .ok place
      ↔ fs.get? l = some .directory ∧ fs.follow (walk l part) parts = .ok place := by
  rw [follow]
  cases fs.get? l with
  | none => simp
  | some entry =>
    cases entry with
    | file => simp
    | directory =>
      unfold walk
      dsimp only
      split
      . simp
      . split
        . simp
        . simp

theorem follow_eq_ok_iff (hne : parts ≠ []) :
    fs.follow l parts = .ok place
      ↔ place = parts.foldl walk l ∧ ∀ d ∈ trail l parts.dropLast, fs.get? d = some .directory := by
  induction parts generalizing l with
  | nil => exact absurd rfl hne
  | cons part parts ih =>
    rw [follow_cons_eq_ok_iff]
    cases parts with
    | nil =>
      rw [follow, Except.ok.injEq, List.dropLast_singleton, trail, List.forall_mem_singleton, and_comm,
        eq_comm]
      rfl
    | cons next parts =>
      have htrail : trail l (part :: next :: parts).dropLast =
          l :: trail (walk l part) (next :: parts).dropLast := rfl
      rw [ih (by simp), htrail, List.forall_mem_cons, and_left_comm]
      rfl

theorem locate_eq_ok_iff :
    fs.locate p = .ok place
      ↔ p ≠ [] ∧ place = destination fs.workingDirectory p
        ∧ ∀ d ∈ onTheWay fs.workingDirectory p, fs.get? d = some .directory := by
  unfold locate
  split
  . next h => simp [h]
  . next h =>
    rw [follow_eq_ok_iff (Text.split_ne_nil _ _)]
    simp [h, destination, onTheWay, origin]

theorem mem_trail_self (l : Location) (parts : List Text) : l ∈ trail l parts := by
  cases parts with
  | nil => simp [trail]
  | cons => simp [trail]

theorem trail_append (l : Location) (before after : List Text) :
    trail l (before ++ after) = (trail l before).dropLast ++ trail (before.foldl walk l) after := by
  induction before generalizing l with
  | nil => rfl
  | cons part before ih =>
    rw [List.cons_append, trail, ih, trail, List.dropLast_cons_of_ne_nil]
    . rfl
    . exact List.ne_nil_of_mem (mem_trail_self _ _)

theorem trail_concat (l : Location) (parts : List Text) (part : Text) :
    trail l (parts ++ [part]) = trail l parts ++ [(parts ++ [part]).foldl walk l] := by
  induction parts generalizing l with
  | nil => rfl
  | cons first parts ih =>
    rw [List.cons_append, trail, ih]
    rfl

theorem mem_trail_of_isPrefix {before : List Text} (h : before <+: parts) :
    before.foldl walk l ∈ trail l parts := by
  obtain ⟨after, rfl⟩ := h
  rw [trail_append]
  apply List.mem_append_right
  apply mem_trail_self

theorem walk_of_idle (h : part = [] ∨ part = Path.here) : walk l part = l := by
  unfold walk
  rw [if_pos h]

theorem walk_walk_above (hidle : part ≠ [] ∧ part ≠ Path.here) (habove : part ≠ Path.above) :
    walk (walk l part) Path.above = l := by
  have hpart : walk l part = l ++ [part] := by
    unfold walk
    rw [if_neg (not_or.mpr hidle), if_neg habove]
  rw [hpart]
  unfold walk
  rw [if_neg (by decide), if_pos rfl, List.dropLast_concat]

theorem mem_trail_parts (l : Location) (p : Text) :
    place ∈ trail l (Path.parts p) ↔ place ∈ trail l (Text.split Path.separator p) := by
  unfold Path.parts
  generalize Text.split Path.separator p = pieces
  induction pieces generalizing l with
  | nil => rfl
  | cons part pieces ih =>
    by_cases h : part ≠ [] ∧ part ≠ Path.here
    . rw [List.filter_cons_of_pos (by simpa using h), trail, trail, List.mem_cons, List.mem_cons, ih]
    -- A part that leads nowhere only repeats the place where it stands.
    . rw [List.filter_cons_of_neg (by simpa using h), trail, walk_of_idle (by tauto), List.mem_cons, ih]
      constructor
      . exact .inr
      . rintro (rfl | hplace)
        . apply mem_trail_self
        . exact hplace

/--
A stack of parts, last one first, leads where the given parts lead, by a way that is part of theirs.
-/
structure Shortens (start : Location) (parts stack : List Text) : Prop where
  busy : ∀ part ∈ stack, part ≠ [] ∧ part ≠ Path.here
  apart : ∀ part ∈ stack, Path.separator ∉ part
  ends : stack.reverse.foldl walk start = parts.foldl walk start
  way : ∀ d ∈ trail start stack.reverse, d ∈ trail start parts

namespace Shortens

variable {start : Location} {stack : List Text}

theorem cons (h : Shortens start parts stack) (hbusy : part ≠ [] ∧ part ≠ Path.here)
    (hapart : Path.separator ∉ part) : Shortens start (parts ++ [part]) (part :: stack) where
  busy := by
    rw [List.forall_mem_cons]
    exact ⟨hbusy, h.busy⟩
  apart := by
    rw [List.forall_mem_cons]
    exact ⟨hapart, h.apart⟩
  ends := by
    rw [List.reverse_cons, List.foldl_append, List.foldl_append, h.ends]
  way := by
    rw [List.reverse_cons, trail_concat, trail_concat, List.foldl_append, List.foldl_append, h.ends]
    intro d hd
    rcases List.mem_append.mp hd with hd | hd
    . exact List.mem_append_left _ (h.way d hd)
    . exact List.mem_append_right _ hd

theorem tail {last : Text} (h : Shortens start parts (last :: stack)) (habove : last ≠ Path.above) :
    Shortens start (parts ++ [Path.above]) stack := by
  have hbusy := h.busy
  have hends := h.ends
  have hway := h.way
  rw [List.forall_mem_cons] at hbusy
  rw [List.reverse_cons] at hends hway
  rw [trail_concat] at hway
  constructor
  . exact hbusy.2
  . exact fun part hpart => h.apart part (List.mem_cons_of_mem last hpart)
  . rw [List.foldl_append, ← hends, List.foldl_append]
    simp only [List.foldl_cons, List.foldl_nil]
    rw [walk_walk_above hbusy.1 habove]
  . intro d hd
    rw [trail_concat]
    apply List.mem_append_left
    exact hway d (List.mem_append_left _ hd)

theorem push {absolute : Bool} (habsolute : absolute = true → start = [])
    (h : Shortens start parts stack) (hbusy : part ≠ [] ∧ part ≠ Path.here)
    (hapart : Path.separator ∉ part) :
    Shortens start (parts ++ [part]) (Path.push absolute stack part) := by
  unfold Path.push
  split
  . exact h.cons hbusy hapart
  . next habove =>
    rw [not_not] at habove
    subst habove
    cases stack with
    | nil =>
      dsimp only
      split
      -- There is nothing above the root.
      . next hroot =>
        have hstart := habsolute hroot
        constructor
        . exact h.busy
        . exact h.apart
        . rw [List.foldl_append, ← h.ends, hstart]
          rfl
        . intro d hd
          rw [trail_concat]
          exact List.mem_append_left _ (h.way d hd)
      . exact h.cons hbusy hapart
    | cons last rest =>
      dsimp only
      split
      . exact h.cons hbusy hapart
      . next hlast => exact h.tail hlast

theorem foldl_push {absolute : Bool} (habsolute : absolute = true → start = [])
    (hbusy : ∀ part ∈ parts, part ≠ [] ∧ part ≠ Path.here)
    (hapart : ∀ part ∈ parts, Path.separator ∉ part) :
    Shortens start parts (parts.foldl (Path.push absolute) []) := by
  induction parts using List.reverseRecOn with
  | nil =>
    constructor
    . simp
    . simp
    . rfl
    . simp
  | append_singleton parts part ih =>
    simp only [List.forall_mem_append, List.forall_mem_singleton] at hbusy hapart
    rw [List.foldl_append]
    exact (ih hbusy.1 hapart.1).push habsolute hbusy.2 hapart.2

end Shortens

end FileSystem

namespace Path

variable {part p : Text} {pieces : List Text}

theorem mem_parts (h : part ∈ parts p) : (part ≠ [] ∧ part ≠ here) ∧ separator ∉ part := by
  obtain ⟨hsplit, hbusy⟩ := List.mem_filter.mp h
  exact ⟨by simpa using hbusy, Text.not_mem_of_mem_split hsplit⟩

theorem filter_eq_self (hbusy : ∀ part ∈ pieces, part ≠ [] ∧ part ≠ here) :
    pieces.filter (fun part => part ≠ [] ∧ part ≠ here) = pieces := by
  rw [List.filter_eq_self]
  intro part hpart
  simpa using hbusy part hpart

theorem parts_ofParts (absolute : Bool) (hbusy : ∀ part ∈ pieces, part ≠ [] ∧ part ≠ here)
    (hapart : ∀ part ∈ pieces, separator ∉ part) : parts (ofParts absolute pieces) = pieces := by
  by_cases hne : pieces = []
  . cases absolute with
    | true =>
      rw [hne]
      decide
    | false =>
      rw [hne]
      decide
  . have hjoin : Text.split separator (Text.join [separator] pieces) = pieces :=
      Text.split_join hapart hne
    cases absolute with
    | true =>
      have hsplit : Text.split separator (ofParts true pieces) = [] :: pieces := by
        change Text.split separator ([] ++ separator :: Text.join [separator] pieces) = _
        rw [Text.split_append_cons, hjoin]
        rfl
      unfold parts
      rw [hsplit, List.filter_cons_of_neg (by simp), filter_eq_self hbusy]
    | false =>
      unfold parts ofParts
      rw [if_neg Bool.false_ne_true, if_neg hne, hjoin, filter_eq_self hbusy]

theorem isAbsolute_ofParts (absolute : Bool) (hbusy : ∀ part ∈ pieces, part ≠ [] ∧ part ≠ here)
    (hapart : ∀ part ∈ pieces, separator ∉ part) :
    isAbsolute (ofParts absolute pieces) = absolute := by
  cases absolute with
  | true => rfl
  | false =>
    cases pieces with
    | nil => decide
    | cons first others =>
      obtain ⟨b, rest, rfl⟩ := List.exists_cons_of_ne_nil (hbusy first List.mem_cons_self).1
      have hb : b ≠ separator := by
        rintro rfl
        exact hapart _ List.mem_cons_self List.mem_cons_self
      cases others <;> simp [ofParts, isAbsolute, Text.join, hb]

end Path

namespace FileSystem

theorem shortens_clean (workingDirectory : Location) (p : Text) :
    Shortens (origin workingDirectory p) (Path.parts p)
      ((Path.parts p).foldl (Path.push (Path.isAbsolute p)) []) := by
  apply Shortens.foldl_push
  . intro habsolute
    rw [origin, if_pos habsolute]
  . intro part hpart
    exact (Path.mem_parts hpart).1
  . intro part hpart
    exact (Path.mem_parts hpart).2

end FileSystem

namespace Path

theorem parts_clean (p : Text) :
    parts (clean p) = ((parts p).foldl (push (isAbsolute p)) []).reverse := by
  have hshort := FileSystem.shortens_clean [] p
  apply parts_ofParts
  . intro part hpart
    exact hshort.busy part (List.mem_reverse.mp hpart)
  . intro part hpart
    exact hshort.apart part (List.mem_reverse.mp hpart)

theorem isAbsolute_clean (p : Text) : isAbsolute (clean p) = isAbsolute p := by
  have hshort := FileSystem.shortens_clean [] p
  apply isAbsolute_ofParts
  . intro part hpart
    exact hshort.busy part (List.mem_reverse.mp hpart)
  . intro part hpart
    exact hshort.apart part (List.mem_reverse.mp hpart)

theorem clean_ne_nil (p : Text) : clean p ≠ [] := by
  intro hnil
  have hparts := parts_clean p
  rw [hnil] at hparts
  change [] = _ at hparts
  unfold clean at hnil
  dsimp only at hnil
  rw [← hparts] at hnil
  cases habsolute : isAbsolute p with
  | true =>
    rw [habsolute] at hnil
    cases hnil
  | false =>
    rw [habsolute] at hnil
    cases hnil

end Path

namespace FileSystem

variable {d workingDirectory : Location} {p : Text}

theorem origin_clean (workingDirectory : Location) (p : Text) :
    origin workingDirectory (Path.clean p) = origin workingDirectory p := by
  unfold origin
  rw [Path.isAbsolute_clean]

theorem mem_trail_of_mem_trail_clean
    (h : d ∈ trail (origin workingDirectory (Path.clean p)) (Text.split Path.separator (Path.clean p))) :
    d ∈ trail (origin workingDirectory p) (Text.split Path.separator p) := by
  rw [← mem_trail_parts, origin_clean, Path.parts_clean] at h
  rw [← mem_trail_parts]
  exact (shortens_clean workingDirectory p).way d h

theorem foldl_walk_parts (l : Location) (p : Text) :
    (Path.parts p).foldl walk l = (Text.split Path.separator p).foldl walk l := by
  unfold Path.parts
  generalize Text.split Path.separator p = pieces
  induction pieces generalizing l with
  | nil => rfl
  | cons part pieces ih =>
    by_cases h : part ≠ [] ∧ part ≠ Path.here
    . rw [List.filter_cons_of_pos (by simpa using h), List.foldl_cons, List.foldl_cons, ih]
    . rw [List.filter_cons_of_neg (by simpa using h), List.foldl_cons, walk_of_idle (by tauto), ih]

theorem destination_clean (workingDirectory : Location) (p : Text) :
    destination workingDirectory (Path.clean p) = destination workingDirectory p := by
  unfold destination
  rw [← foldl_walk_parts, ← foldl_walk_parts, origin_clean, Path.parts_clean]
  exact (shortens_clean workingDirectory p).ends

theorem split_dropEndWhile (p : Text) :
    Text.split Path.separator (Text.dropEndWhile (· ≠ Path.separator) p) =
      (Text.split Path.separator p).dropLast ++ [[]] := by
  obtain ⟨rest, hp, hrest, hstop⟩ := Text.exists_eq_dropEndWhile_append (· ≠ Path.separator) p
  have hseparator : Path.separator ∉ rest := by
    intro hmem
    simpa using hrest _ hmem
  rcases hstop with hnil | ⟨start, b, hstart, hb⟩
  . rw [hnil, List.nil_append] at hp
    rw [hnil, hp, Text.split_of_not_mem hseparator]
    rfl
  . have hb : b = Path.separator := by
      simpa using hb
    rw [hstart, hb] at hp ⊢
    rw [List.append_assoc] at hp
    rw [hp, Text.split_append_cons]
    change _ = (Text.split Path.separator (start ++ Path.separator :: rest)).dropLast ++ [[]]
    rw [Text.split_append_cons, Text.split_of_not_mem hseparator, List.dropLast_concat]
    rfl

theorem isAbsolute_dropEndWhile (p : Text) :
    Path.isAbsolute (Text.dropEndWhile (· ≠ Path.separator) p) = Path.isAbsolute p := by
  obtain ⟨rest, hp, hrest, hstop⟩ := Text.exists_eq_dropEndWhile_append (· ≠ Path.separator) p
  rcases hstop with hnil | ⟨start, b, hstart, -⟩
  . rw [hnil, List.nil_append] at hp
    rw [hnil, hp]
    cases rest with
    | nil => rfl
    | cons b rest =>
      have hb := hrest b List.mem_cons_self
      simpa [Path.isAbsolute] using hb
  . unfold Path.isAbsolute
    rw [hstart] at hp ⊢
    rw [hp]
    cases start <;> rfl

theorem mem_onTheWay_of_mem_trail_parent
    (h : d ∈ trail (origin workingDirectory (Path.parent p))
      (Text.split Path.separator (Path.parent p))) :
    d ∈ onTheWay workingDirectory p := by
  unfold Path.parent at h
  have h := mem_trail_of_mem_trail_clean h
  rw [split_dropEndWhile, trail_concat, origin, isAbsolute_dropEndWhile, ← origin] at h
  unfold onTheWay
  rcases List.mem_append.mp h with h | h
  . exact h
  . rw [List.mem_singleton] at h
    rw [h, List.foldl_append]
    apply mem_trail_of_isPrefix
    apply List.prefix_rfl

end FileSystem

end Commentary
