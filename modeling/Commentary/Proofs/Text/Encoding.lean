import Commentary.Proofs.Source.Excerpt
import Commentary.Proofs.Text.Blank
import Commentary.Proofs.Text.Lines
import Commentary.Proofs.Text.Symbol

/-!
This module contains the texts that are well-formed UTF-8, and where they can be cut. A character is
recognised by its first byte, so what is left after well-formed text is well-formed, and so are both
parts of a text that is cut before a byte that can be the first one of a character.
-/

namespace Commentary

namespace Text

variable {s t : Text} {b : UInt8} {c : Char} {n : Nat}

def Utf8 (t : Text) : Prop :=
  ∃ cs : List Char, t = cs.flatMap String.utf8EncodeChar

theorem utf8_nil : Utf8 [] := by
  exact ⟨[], rfl⟩

theorem utf8_ofString (s : String) : Utf8 (ofString s) := by
  exact ⟨s.toList, rfl⟩

theorem utf8_utf8EncodeChar (c : Char) : Utf8 (String.utf8EncodeChar c) := by
  exact ⟨[c], by simp⟩

theorem Utf8.append (hs : Utf8 s) (ht : Utf8 t) : Utf8 (s ++ t) := by
  obtain ⟨cs, rfl⟩ := hs
  obtain ⟨ds, rfl⟩ := ht
  exact ⟨cs ++ ds, List.flatMap_append.symm⟩

theorem utf8_flatMap {f : α → Text} {as : List α} (h : ∀ a ∈ as, Utf8 (f a)) :
    Utf8 (as.flatMap f) := by
  induction as with
  | nil => exact utf8_nil
  | cons a as ih =>
    rw [List.forall_mem_cons] at h
    rw [List.flatMap_cons]
    exact h.1.append (ih h.2)

theorem utf8_join {separator : Text} {ts : List Text} (hseparator : Utf8 separator)
    (h : ∀ t ∈ ts, Utf8 t) : Utf8 (join separator ts) := by
  cases ts using List.reverseRecOn with
  | nil => exact utf8_nil
  | append_singleton ts last =>
    rw [List.forall_mem_append, List.forall_mem_singleton] at h
    rw [join_append_singleton]
    apply Utf8.append
    . apply utf8_flatMap
      intro t ht
      exact (h.1 t ht).append hseparator
    . exact h.2

theorem utf8_of_ascii (h : ∀ b ∈ t, b.toNat < 128) : Utf8 t := by
  refine ⟨t.map fun b => Char.ofNat b.toNat, ?_⟩
  induction t with
  | nil => rfl
  | cons b t ih =>
    rw [List.forall_mem_cons] at h
    have hvalid : b.toNat.isValidChar := by
      unfold Nat.isValidChar
      omega
    rw [List.map_cons, List.flatMap_cons, ← ih h.2, utf8EncodeChar_ofNat hvalid,
      if_pos (Nat.le_of_lt_succ h.1), UInt8.ofNat_toNat]
    rfl

theorem utf8_lf : Utf8 [lf] := by
  apply utf8_of_ascii
  rw [List.forall_mem_singleton]
  decide

/-! Characters are read back from their encodings, whatever follows these. -/

theorem bind_continuation?_eq {x : Nat} (hbyte : t[n]? = some (UInt8.ofNat (x + 128))) (h : x < 64) :
    t[n]? >>= continuation? = some x := by
  rw [hbyte]
  change continuation? (UInt8.ofNat (x + 128)) = some x
  unfold continuation?
  simp only [UInt8.le_iff_toNat_le, UInt8.toNat_ofNat_of_lt' (by omega : x + 128 < 256)]
  rw [if_pos ⟨Nat.le_add_left 128 x, Nat.add_le_add_right (Nat.le_of_lt_succ h) 128⟩,
    Nat.add_sub_cancel]

theorem leading?_one (h : n < 128) (t : Text) :
    leading? (UInt8.ofNat n) t = some (Char.ofNat n, 0) := by
  unfold leading?
  simp only [UInt8.lt_iff_toNat_lt, UInt8.toNat_ofNat_of_lt' (by omega : n < 256), UInt8.reduceToNat]
  rw [if_pos h]

theorem leading?_two {x y : Nat} (hlow : 2 ≤ x) (hx : x < 32) (hy : y < 64) (t : Text) :
    leading? (UInt8.ofNat (x + 192)) (UInt8.ofNat (y + 128) :: t) =
      some (Char.ofNat (x * 64 + y), 1) := by
  have hlead : (UInt8.ofNat (x + 192)).toNat = x + 192 :=
    UInt8.toNat_ofNat_of_lt' (by omega : x + 192 < 256)
  unfold leading?
  rw [if_neg, if_neg, if_pos]
  . refine Option.bind_eq_some_iff.mpr ⟨y, bind_continuation?_eq rfl hy, ?_⟩
    rw [hlead, Nat.add_sub_cancel]
  all_goals
    simp only [UInt8.lt_iff_toNat_lt, hlead, UInt8.reduceToNat]
    omega

theorem leading?_three {x y z : Nat} (hx : x < 16) (hy : y < 64) (hz : z < 64)
    (hlow : 2048 ≤ x * 4096 + y * 64 + z)
    (hvalid : ¬ (0xD800 ≤ x * 4096 + y * 64 + z ∧ x * 4096 + y * 64 + z < 0xE000)) (t : Text) :
    leading? (UInt8.ofNat (x + 224)) (UInt8.ofNat (y + 128) :: UInt8.ofNat (z + 128) :: t) =
      some (Char.ofNat (x * 4096 + y * 64 + z), 2) := by
  have hlead : (UInt8.ofNat (x + 224)).toNat = x + 224 :=
    UInt8.toNat_ofNat_of_lt' (by omega : x + 224 < 256)
  unfold leading?
  rw [if_neg, if_neg, if_neg, if_pos]
  . refine Option.bind_eq_some_iff.mpr ⟨y, bind_continuation?_eq rfl hy, ?_⟩
    refine Option.bind_eq_some_iff.mpr ⟨z, bind_continuation?_eq rfl hz, ?_⟩
    rw [hlead, Nat.add_sub_cancel, if_neg]
    omega
  all_goals
    simp only [UInt8.lt_iff_toNat_lt, hlead, UInt8.reduceToNat]
    omega

theorem leading?_four {w x y z : Nat} (hw : w < 5) (hx : x < 64) (hy : y < 64) (hz : z < 64)
    (hlow : 65536 ≤ w * 262144 + x * 4096 + y * 64 + z)
    (hvalid : w * 262144 + x * 4096 + y * 64 + z ≤ 0x10FFFF) (t : Text) :
    leading? (UInt8.ofNat (w + 240))
        (UInt8.ofNat (x + 128) :: UInt8.ofNat (y + 128) :: UInt8.ofNat (z + 128) :: t) =
      some (Char.ofNat (w * 262144 + x * 4096 + y * 64 + z), 3) := by
  have hlead : (UInt8.ofNat (w + 240)).toNat = w + 240 :=
    UInt8.toNat_ofNat_of_lt' (by omega : w + 240 < 256)
  unfold leading?
  rw [if_neg, if_neg, if_neg, if_neg, if_pos]
  . refine Option.bind_eq_some_iff.mpr ⟨x, bind_continuation?_eq rfl hx, ?_⟩
    refine Option.bind_eq_some_iff.mpr ⟨y, bind_continuation?_eq rfl hy, ?_⟩
    refine Option.bind_eq_some_iff.mpr ⟨z, bind_continuation?_eq rfl hz, ?_⟩
    rw [hlead, Nat.add_sub_cancel, if_neg]
    omega
  all_goals
    simp only [UInt8.lt_iff_toNat_lt, hlead, UInt8.reduceToNat]
    omega

theorem exists_utf8EncodeChar_eq_cons (c : Char) :
    ∃ a rest, String.utf8EncodeChar c = a :: rest
      ∧ ∀ t, leading? a (rest ++ t) = some (c, rest.length) := by
  have hvalid : c.toNat.isValidChar := c.valid
  have hencode := utf8EncodeChar_ofNat hvalid
  rw [Char.ofNat_toNat] at hencode
  rw [hencode]
  unfold Nat.isValidChar at hvalid
  split
  . refine ⟨_, _, rfl, ?_⟩
    intro t
    rw [leading?_one (by omega), Char.ofNat_toNat]
    rfl
  split
  . refine ⟨_, _, rfl, ?_⟩
    intro t
    have hcode : c.toNat / 64 * 64 + c.toNat % 64 = c.toNat := by omega
    rw [List.singleton_append, leading?_two (by omega) (by omega) (by omega), hcode,
      Char.ofNat_toNat]
    rfl
  split
  . refine ⟨_, _, rfl, ?_⟩
    intro t
    have hcode : c.toNat / 4096 * 4096 + c.toNat / 64 % 64 * 64 + c.toNat % 64 = c.toNat := by omega
    rw [List.cons_append, List.singleton_append,
      leading?_three (by omega) (by omega) (by omega) (by omega) (by omega), hcode, Char.ofNat_toNat]
    rfl
  . refine ⟨_, _, rfl, ?_⟩
    intro t
    have hcode : c.toNat / 262144 * 262144 + c.toNat / 4096 % 64 * 4096 + c.toNat / 64 % 64 * 64
        + c.toNat % 64 = c.toNat := by omega
    rw [List.cons_append, List.cons_append, List.singleton_append,
      leading?_four (by omega) (by omega) (by omega) (by omega) (by omega) (by omega), hcode,
      Char.ofNat_toNat]
    rfl

theorem symbols.go_eq_drop (skip : Nat) (t : Text) : go skip t = symbols (t.drop skip) := by
  induction skip generalizing t with
  | zero => rfl
  | succ skip ih =>
    cases t with
    | nil => rfl
    | cons b t =>
      rw [go, ih]
      rfl

theorem symbols_utf8EncodeChar_append (c : Char) (t : Text) :
    symbols (String.utf8EncodeChar c ++ t) = .char c :: symbols t := by
  obtain ⟨a, rest, hencode, hlead⟩ := exists_utf8EncodeChar_eq_cons c
  rw [hencode, List.cons_append, symbols, symbols.go, hlead]
  dsimp only
  rw [symbols.go_eq_drop, List.drop_left]

theorem symbols_flatMap_append (cs : List Char) (t : Text) :
    symbols (cs.flatMap String.utf8EncodeChar ++ t) = cs.map .char ++ symbols t := by
  induction cs with
  | nil => rfl
  | cons c cs ih =>
    rw [List.flatMap_cons, List.append_assoc, symbols_utf8EncodeChar_append, ih]
    rfl

theorem isUtf8_append (hs : Utf8 s) (t : Text) : isUtf8 (s ++ t) = isUtf8 t := by
  obtain ⟨cs, rfl⟩ := hs
  unfold isUtf8
  rw [symbols_flatMap_append, List.all_append]
  simp [Symbol.char?]

theorem exists_eq_map_char {ss : List Symbol} (h : ss.all (fun s => s.char?.isSome) = true) :
    ∃ cs : List Char, ss = cs.map .char := by
  induction ss with
  | nil => exact ⟨[], rfl⟩
  | cons symbol ss ih =>
    rw [List.all_cons, Bool.and_eq_true] at h
    obtain ⟨cs, rfl⟩ := ih h.2
    cases symbol with
    | char c => exact ⟨c :: cs, rfl⟩
    | stray b => cases h.1

theorem isUtf8_iff : isUtf8 t = true ↔ Utf8 t := by
  constructor
  . intro h
    obtain ⟨cs, hcs⟩ := exists_eq_map_char h
    refine ⟨cs, ?_⟩
    rw [← ofSymbols_symbols t, hcs, ofSymbols, List.flatMap_map]
    rfl
  . intro h
    rw [← List.append_nil t, isUtf8_append h]
    rfl

/-! Where a text can be cut. -/

theorem Utf8.of_append_left (h : Utf8 (s ++ t)) (hs : Utf8 s) : Utf8 t := by
  rw [← isUtf8_iff] at h ⊢
  rwa [isUtf8_append hs] at h

/--
The text can follow the last byte of a character.
-/
def AtBoundary (t : Text) : Prop :=
  ∀ b ∈ t.head?, b.IsUTF8FirstByte

theorem atBoundary_nil : AtBoundary [] := by
  intro b hb
  cases hb

theorem eq_nil_of_utf8EncodeChar_eq_append (h : String.utf8EncodeChar c = s ++ t) (hs : s ≠ [])
    (ht : AtBoundary t) : t = [] := by
  cases t with
  | nil => rfl
  | cons b t =>
    have hlength : s.length < (String.utf8EncodeChar c).length := by
      simp [h]
    have hfirst : (String.utf8EncodeChar c)[s.length].IsUTF8FirstByte := by
      simpa [h] using ht b rfl
    rw [UInt8.isUTF8FirstByte_getElem_utf8EncodeChar, List.length_eq_zero_iff] at hfirst
    exact absurd hfirst hs

theorem Utf8.of_append (h : Utf8 (s ++ t)) (ht : AtBoundary t) : Utf8 s ∧ Utf8 t := by
  obtain ⟨cs, hcs⟩ := h
  induction cs generalizing s with
  | nil =>
    rw [List.flatMap_nil, List.append_eq_nil_iff] at hcs
    rw [hcs.1, hcs.2]
    exact ⟨utf8_nil, utf8_nil⟩
  | cons c cs ih =>
    rw [List.flatMap_cons, List.append_eq_append_iff] at hcs
    rcases hcs with ⟨rest, hc, rfl⟩ | ⟨rest, rfl, hrest⟩
    . -- the cut is not after the first character, and not inside it
      by_cases hs : s = []
      . subst hs
        rw [List.nil_append] at hc
        exact ⟨utf8_nil, c :: cs, by rw [← hc]; rfl⟩
      . have hboundary : AtBoundary rest := by
          intro b hb
          apply ht
          rw [List.head?_append, hb]
          rfl
        obtain rfl := eq_nil_of_utf8EncodeChar_eq_append hc hs hboundary
        rw [List.append_nil] at hc
        rw [← hc]
        exact ⟨utf8_utf8EncodeChar c, cs, rfl⟩
    . obtain ⟨hleft, hright⟩ := ih hrest.symm
      exact ⟨(utf8_utf8EncodeChar c).append hleft, hright⟩

theorem Utf8.atBoundary (h : Utf8 t) : AtBoundary t := by
  obtain ⟨cs, rfl⟩ := h
  intro b hb
  cases cs with
  | nil => cases hb
  | cons c cs =>
    rw [List.flatMap_cons, List.head?_append_of_ne_nil _ String.utf8EncodeChar_ne_nil,
      Option.mem_def, List.head?_eq_getElem?, List.getElem?_eq_some_iff] at hb
    obtain ⟨hlength, rfl⟩ := hb
    exact UInt8.isUTF8FirstByte_getElem_utf8EncodeChar.mpr rfl

theorem Utf8.of_append_right (h : Utf8 (s ++ t)) (ht : Utf8 t) : Utf8 s := by
  exact (h.of_append ht.atBoundary).1

theorem atBoundary_append (hs : Utf8 s) (hne : s ≠ []) (t : Text) : AtBoundary (s ++ t) := by
  intro b hb
  apply hs.atBoundary
  rwa [List.head?_append_of_ne_nil s hne] at hb

theorem atBoundary_cons (hb : b.toNat < 128) (t : Text) : AtBoundary (b :: t) := by
  have hascii : Utf8 [b] := by
    apply utf8_of_ascii
    simpa using hb
  exact atBoundary_append hascii (by simp) t

/-! The operations on texts cut at boundaries. -/

theorem utf8_of_mem_pieces {pieces : List Text} (h : Utf8 (join [lf] pieces)) :
    ∀ piece ∈ pieces, Utf8 piece := by
  induction pieces with
  | nil => simp
  | cons first pieces ih =>
    rw [List.forall_mem_cons]
    cases pieces with
    | nil => exact ⟨h, by simp⟩
    | cons second pieces =>
      rw [join, List.append_assoc] at h
      . obtain ⟨hfirst, hrest⟩ := h.of_append (atBoundary_append utf8_lf (by simp) _)
        exact ⟨hfirst, ih (hrest.of_append_left utf8_lf)⟩
      . simp

theorem utf8_chop (h : Utf8 t) : Utf8 (chop cr t) := by
  unfold chop
  split
  . next hlast =>
    obtain ⟨start, rfl⟩ := List.getLast?_eq_some_iff.mp hlast
    rw [List.dropLast_concat]
    exact (h.of_append (atBoundary_cons (by decide) [])).1
  . exact h

theorem utf8_of_mem_lines (h : Utf8 t) : ∀ line ∈ lines t, Utf8 line := by
  rw [← join_split lf t] at h
  have hpieces := utf8_of_mem_pieces h
  unfold lines
  rw [List.forall_mem_map]
  intro piece hpiece
  apply utf8_chop
  apply hpieces
  split at hpiece
  . exact List.dropLast_subset _ hpiece
  . exact hpiece

theorem utf8_flatten_blankForms {fs : List Text} (h : ∀ f ∈ fs, f ∈ blankForms) :
    Utf8 fs.flatten := by
  rw [← List.flatMap_id]
  apply utf8_flatMap
  intro f hf
  obtain ⟨c, -, rfl⟩ := List.mem_map.mp (h f hf)
  apply utf8_utf8EncodeChar

theorem utf8_trimLeft (h : Utf8 t) : Utf8 (trimLeft t) := by
  obtain ⟨fs, hfs, ht⟩ := exists_eq_flatten_append_dropForms prefixFree_blankForms t
  rw [ht] at h
  exact h.of_append_left (utf8_flatten_blankForms hfs)

theorem utf8_trimRight (h : Utf8 t) : Utf8 (trimRight t) := by
  obtain ⟨fs, hfs, ht⟩ :=
    exists_eq_flatten_append_dropForms prefixFree_reversedBlankForms t.reverse
  rw [List.reverse_eq_iff, List.reverse_append, List.reverse_flatten] at ht
  have hforms : ∀ f ∈ (fs.map List.reverse).reverse, f ∈ blankForms := by
    simp only [List.mem_reverse, List.forall_mem_map]
    intro f hf
    obtain ⟨form, hform, rfl⟩ := List.mem_map.mp (hfs f hf)
    rwa [List.reverse_reverse]
  rw [ht] at h
  exact h.of_append_right (utf8_flatten_blankForms hforms)

theorem utf8_trim (h : Utf8 t) : Utf8 (trim t) := by
  exact utf8_trimRight (utf8_trimLeft h)

theorem utf8_dropWhile {p : UInt8 → Bool} (hp : ∀ b, p b = true → b.toNat < 128) (h : Utf8 t) :
    Utf8 (t.dropWhile p) := by
  rw [← List.takeWhile_append_dropWhile (p := p) (l := t)] at h
  apply h.of_append_left
  apply utf8_of_ascii
  intro b hb
  exact hp b (List.all_eq_true.mp List.all_takeWhile b hb)

theorem utf8_dropEndWhile {p : UInt8 → Bool} (hp : ∀ b, p b = true → b.toNat < 128) (h : Utf8 t) :
    Utf8 (dropEndWhile p t) := by
  obtain ⟨rest, ht, hrest, -⟩ := exists_eq_dropEndWhile_append p t
  rw [ht] at h
  apply h.of_append_right
  apply utf8_of_ascii
  intro b hb
  exact hp b (hrest b hb)

theorem utf8_takeWhile {p : UInt8 → Bool} (hp : ∀ b, p b = false → b.toNat < 128) (h : Utf8 t) :
    Utf8 (t.takeWhile p) := by
  rw [← List.takeWhile_append_dropWhile (p := p) (l := t)] at h
  refine (h.of_append ?_).1
  cases hrest : t.dropWhile p with
  | nil => exact atBoundary_nil
  | cons b rest =>
    apply atBoundary_cons
    apply hp
    have hhead := List.head?_dropWhile_not p t
    rw [hrest] at hhead
    simpa using hhead

theorem exists_eq_untilBlank_append (t : Text) : ∃ rest, t = untilBlank t ++ rest ∧ AtBoundary rest := by
  -- The first white space of a text stands at a boundary, although it is looked for at every byte.
  fun_induction untilBlank t with
  | case1 => exact ⟨[], rfl, atBoundary_nil⟩
  | case2 a t hlead ih =>
    obtain ⟨rest, ht, hrest⟩ := ih
    exact ⟨rest, by rw [List.cons_append, ← ht], hrest⟩
  | case3 a t n hlead =>
    refine ⟨a :: t, rfl, ?_⟩
    have hne : leadingForm blankForms (a :: t) ≠ 0 := by
      rw [hlead]
      exact Nat.succ_ne_zero n
    rw [ne_eq, leadingForm_eq_zero_iff prefixFree_blankForms] at hne
    push Not at hne
    obtain ⟨form, hform, rest, hrest⟩ := hne
    obtain ⟨c, -, rfl⟩ := List.mem_map.mp hform
    rw [← hrest]
    exact atBoundary_append (utf8_utf8EncodeChar c) String.utf8EncodeChar_ne_nil rest

theorem utf8_firstWord? {word : Text} (h : Utf8 t) (hword : firstWord? t = some word) : Utf8 word := by
  have htrim := utf8_trimLeft h
  unfold firstWord? at hword
  split at hword
  . cases hword
  . next a rest heq =>
    cases hword
    rw [heq] at htrim
    obtain ⟨after, hafter, hboundary⟩ := exists_eq_untilBlank_append (a :: rest)
    rw [hafter] at htrim
    exact (htrim.of_append hboundary).1

theorem utf8_after? {start rest : Text} (hstart : Utf8 start) (h : Utf8 t)
    (hafter : after? start t = some rest) : Utf8 rest := by
  rw [after?_eq_some_iff] at hafter
  rw [hafter] at h
  exact h.of_append_left hstart

theorem dropSymbol_utf8EncodeChar_append (c : Char) (t : Text) :
    dropSymbol (String.utf8EncodeChar c ++ t) = t := by
  obtain ⟨a, rest, hencode, hlead⟩ := exists_utf8EncodeChar_eq_cons c
  rw [hencode, List.cons_append, dropSymbol, hlead]
  dsimp only
  rw [List.drop_left]

theorem utf8_dropSymbol (h : Utf8 t) : Utf8 (dropSymbol t) := by
  obtain ⟨cs, rfl⟩ := h
  cases cs with
  | nil => exact utf8_nil
  | cons c cs =>
    rw [List.flatMap_cons, dropSymbol_utf8EncodeChar_append]
    exact ⟨cs, rfl⟩

end Text

end Commentary
