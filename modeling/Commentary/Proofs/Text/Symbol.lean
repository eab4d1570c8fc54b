import Commentary.Text.Symbol
import Mathlib.Data.List.Basic

/-!
This module contains the bytes of the characters that a text is read as: they are the bytes of the
text, and a byte of ASCII is part of no other character than its own.
-/

namespace Commentary

theorem toNat_ofNat_of_isValidChar {n : Nat} (h : n.isValidChar) : (Char.ofNat n).toNat = n := by
  unfold Char.ofNat
  rw [dif_pos h]
  rfl

theorem toNat_eq_of_mem_utf8EncodeChar {b : UInt8} {c : Char} (h : b ∈ String.utf8EncodeChar c)
    (hb : b.toNat < 128) : c.toNat = b.toNat := by
  have hbig : ∀ n : Nat, 128 ≤ n → n < 256 → b = UInt8.ofNat n → c.toNat = b.toNat := by
    rintro n hlow hhigh rfl
    rw [UInt8.toNat_ofNat'] at hb
    omega
  unfold String.utf8EncodeChar at h
  dsimp only at h
  split at h
  . next hsmall =>
    have hsmall : c.toNat ≤ 127 := hsmall
    rw [List.mem_singleton] at h
    rw [h, UInt8.toNat_ofNat']
    change c.toNat = c.toNat % 256
    omega
  . split at h
    . simp only [List.mem_cons, List.not_mem_nil, or_false] at h
      rcases h with h | h
      all_goals exact hbig _ (by omega) (by omega) h
    . split at h
      . simp only [List.mem_cons, List.not_mem_nil, or_false] at h
        rcases h with h | h | h
        all_goals exact hbig _ (by omega) (by omega) h
      . simp only [List.mem_cons, List.not_mem_nil, or_false] at h
        rcases h with h | h | h | h
        all_goals exact hbig _ (by omega) (by omega) h

namespace Text

variable {a b : UInt8} {t : Text} {c : Char} {n : Nat}

theorem exists_of_continuation? {x : Nat} (h : t[n]? >>= continuation? = some x) :
    x < 64 ∧ t.take (n + 1) = t.take n ++ [UInt8.ofNat (x + 128)] := by
  obtain ⟨b, hbyte, h⟩ := Option.bind_eq_some_iff.mp h
  unfold continuation? at h
  split at h
  . next hrange =>
    have hlow : 128 ≤ b.toNat := hrange.1
    have hhigh : b.toNat ≤ 191 := hrange.2
    rw [Option.some.injEq] at h
    constructor
    . omega
    . rw [List.take_add_one, hbyte, ← h, Nat.sub_add_cancel hlow, UInt8.ofNat_toNat]
      rfl
  . cases h

theorem utf8EncodeChar_ofNat (hvalid : n.isValidChar) :
    String.utf8EncodeChar (Char.ofNat n) =
      if n ≤ 127 then
        [UInt8.ofNat n]
      else if n ≤ 2047 then
        [UInt8.ofNat (n / 64 + 192), UInt8.ofNat (n % 64 + 128)]
      else if n ≤ 65535 then
        [UInt8.ofNat (n / 4096 + 224), UInt8.ofNat (n / 64 % 64 + 128), UInt8.ofNat (n % 64 + 128)]
      else
        [UInt8.ofNat (n / 262144 + 240), UInt8.ofNat (n / 4096 % 64 + 128),
          UInt8.ofNat (n / 64 % 64 + 128), UInt8.ofNat (n % 64 + 128)] := by
  have hcode : (Char.ofNat n).val.toNat = n := toNat_ofNat_of_isValidChar hvalid
  unfold Nat.isValidChar at hvalid
  unfold String.utf8EncodeChar
  dsimp only
  rw [hcode]
  split
  . rfl
  . split
    . rw [Nat.mod_eq_of_lt (by omega : n / 64 < 32)]
    . split
      . rw [Nat.mod_eq_of_lt (by omega : n / 4096 < 16)]
      . rw [Nat.mod_eq_of_lt (by omega : n / 262144 < 8)]

theorem utf8EncodeChar_of_ascii (h : c.toNat < 128) :
    String.utf8EncodeChar c = [UInt8.ofNat c.toNat] := by
  have hvalid : c.toNat.isValidChar := c.valid
  have hencode := utf8EncodeChar_ofNat hvalid
  rwa [Char.ofNat_toNat, if_pos (Nat.le_of_lt_succ h)] at hencode

theorem utf8EncodeChar_two {x : Nat} (hlow : 194 ≤ a.toNat) (hhigh : a.toNat < 224) (hx : x < 64) :
    String.utf8EncodeChar (Char.ofNat ((a.toNat - 192) * 64 + x)) = [a, UInt8.ofNat (x + 128)] := by
  have hlead : ((a.toNat - 192) * 64 + x) / 64 + 192 = a.toNat := by
    omega
  have hlast : ((a.toNat - 192) * 64 + x) % 64 = x := by
    omega
  rw [utf8EncodeChar_ofNat]
  . rw [if_neg (by omega), if_pos (by omega), hlead, hlast, UInt8.ofNat_toNat]
  . unfold Nat.isValidChar
    omega

theorem utf8EncodeChar_three {x y : Nat} (hlow : 224 ≤ a.toNat) (hhigh : a.toNat < 240) (hx : x < 64)
    (hy : y < 64) (hn : n = (a.toNat - 224) * 4096 + x * 64 + y) (hbig : 2048 ≤ n)
    (hvalid : ¬ (0xD800 ≤ n ∧ n < 0xE000)) :
    String.utf8EncodeChar (Char.ofNat n) = [a, UInt8.ofNat (x + 128), UInt8.ofNat (y + 128)] := by
  have hlead : n / 4096 + 224 = a.toNat := by
    omega
  have hmiddle : n / 64 % 64 = x := by
    omega
  have hlast : n % 64 = y := by
    omega
  rw [utf8EncodeChar_ofNat]
  . rw [if_neg (by omega), if_neg (by omega), if_pos (by omega), hlead, hmiddle, hlast,
      UInt8.ofNat_toNat]
  . unfold Nat.isValidChar
    omega

theorem utf8EncodeChar_four {x y z : Nat} (hlow : 240 ≤ a.toNat) (hx : x < 64) (hy : y < 64)
    (hz : z < 64) (hn : n = (a.toNat - 240) * 262144 + x * 4096 + y * 64 + z) (hbig : 65536 ≤ n)
    (hvalid : n ≤ 0x10FFFF) :
    String.utf8EncodeChar (Char.ofNat n) =
      [a, UInt8.ofNat (x + 128), UInt8.ofNat (y + 128), UInt8.ofNat (z + 128)] := by
  have hlead : n / 262144 + 240 = a.toNat := by
    omega
  have hsecond : n / 4096 % 64 = x := by
    omega
  have hthird : n / 64 % 64 = y := by
    omega
  have hlast : n % 64 = z := by
    omega
  rw [utf8EncodeChar_ofNat]
  . rw [if_neg (by omega), if_neg (by omega), if_neg (by omega), hlead, hsecond, hthird, hlast,
      UInt8.ofNat_toNat]
  . unfold Nat.isValidChar
    omega

theorem utf8EncodeChar_of_leading? (h : leading? a t = some (c, n)) :
    String.utf8EncodeChar c = a :: t.take n := by
  unfold leading? at h
  simp only [UInt8.lt_iff_toNat_lt] at h
  split at h
  . next hsmall =>
    have hsmall : a.toNat < 128 := hsmall
    cases h
    rw [utf8EncodeChar_ofNat]
    . rw [if_pos (by omega), UInt8.ofNat_toNat]
      rfl
    . unfold Nat.isValidChar
      omega
  split at h
  . cases h
  next hlow =>
  have hlow : 194 ≤ a.toNat := Nat.le_of_not_lt hlow
  split at h
  . next hhigh =>
    obtain ⟨x, hx, h⟩ := Option.bind_eq_some_iff.mp h
    obtain ⟨hx, htake⟩ := exists_of_continuation? hx
    simp only [Option.some.injEq, Prod.mk.injEq] at h
    rw [← h.1, ← h.2, utf8EncodeChar_two hlow hhigh hx, htake]
    rfl
  next hlow =>
  have hlow : 224 ≤ a.toNat := Nat.le_of_not_lt hlow
  split at h
  . next hhigh =>
    obtain ⟨x, hx, h⟩ := Option.bind_eq_some_iff.mp h
    obtain ⟨y, hy, h⟩ := Option.bind_eq_some_iff.mp h
    obtain ⟨hx, htakex⟩ := exists_of_continuation? hx
    obtain ⟨hy, htakey⟩ := exists_of_continuation? hy
    split at h
    . cases h
    . next hvalid =>
      simp only [not_or, Nat.not_lt] at hvalid
      simp only [Option.some.injEq, Prod.mk.injEq] at h
      rw [← h.1, ← h.2, utf8EncodeChar_three hlow hhigh hx hy rfl hvalid.1 hvalid.2, htakey, htakex]
      rfl
  next hlow =>
  have hlow : 240 ≤ a.toNat := Nat.le_of_not_lt hlow
  split at h
  . obtain ⟨x, hx, h⟩ := Option.bind_eq_some_iff.mp h
    obtain ⟨y, hy, h⟩ := Option.bind_eq_some_iff.mp h
    obtain ⟨z, hz, h⟩ := Option.bind_eq_some_iff.mp h
    obtain ⟨hx, htakex⟩ := exists_of_continuation? hx
    obtain ⟨hy, htakey⟩ := exists_of_continuation? hy
    obtain ⟨hz, htakez⟩ := exists_of_continuation? hz
    split at h
    . cases h
    . next hvalid =>
      simp only [not_or, Nat.not_lt] at hvalid
      simp only [Option.some.injEq, Prod.mk.injEq] at h
      rw [← h.1, ← h.2, utf8EncodeChar_four hlow hx hy hz rfl hvalid.1 hvalid.2, htakez, htakey,
        htakex]
      rfl
  . cases h

theorem ofSymbols_symbols (t : Text) : ofSymbols (symbols t) = t := by
  have hgo : ∀ (skip : Nat) (t : Text), ofSymbols (symbols.go skip t) = t.drop skip := by
    intro skip t
    fun_induction symbols.go skip t with
    | case1 => simp [ofSymbols]
    | case2 skip b t ih => rw [ih, List.drop_succ_cons]
    | case3 a t c n hlead ih =>
      rw [ofSymbols, List.flatMap_cons, ← ofSymbols, ih, Symbol.bytes, utf8EncodeChar_of_leading? hlead]
      simp
    | case4 a t _ ih =>
      rw [ofSymbols, List.flatMap_cons, ← ofSymbols, ih, Symbol.bytes]
      rfl
  apply hgo

theorem mem_of_mem_bytes {symbol : Symbol} (hsymbol : symbol ∈ symbols t) (h : b ∈ symbol.bytes) :
    b ∈ t := by
  rw [← ofSymbols_symbols t, ofSymbols, List.mem_flatMap]
  exact ⟨symbol, hsymbol, h⟩

end Text

end Commentary
