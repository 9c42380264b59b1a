import Mathlib.Data.List.Basic
import SeriesBridge.Text.Utf8

/-! # Bytes of characters

* **`Text.Utf8.Spells n bs`** — the bytes of the character with the number `n`.
* **`Text.Utf8.decode_encode`** — a text is read back from its bytes.
* **`Text.Utf8.mem_encode_iff`** — the ASCII bytes of a text are its ASCII characters. -/

namespace SeriesBridge.Text.Utf8

/-! ## Characters -/

/-- **The bytes of a character,** of which there are one to four: the first one tells how many, and
each of the others holds six bits. -/
inductive Spells (n : Nat) : List UInt8 → Prop where
  | one {a : UInt8} (ha : a.toNat = n) (hn : n < 0x80) : Spells n [a]
  | two {a b : UInt8} (ha : a.toNat = 0xC0 + n / 64) (hb : b.toNat = 0x80 + n % 64)
      (hn : 0x80 ≤ n ∧ n < 0x800) : Spells n [a, b]
  | three {a b c : UInt8} (ha : a.toNat = 0xE0 + n / 4096) (hb : b.toNat = 0x80 + n / 64 % 64)
      (hc : c.toNat = 0x80 + n % 64) (hn : 0x800 ≤ n ∧ n < 0x10000) : Spells n [a, b, c]
  | four {a b c d : UInt8} (ha : a.toNat = 0xF0 + n / 262144) (hb : b.toNat = 0x80 + n / 4096 % 64)
      (hc : c.toNat = 0x80 + n / 64 % 64) (hd : d.toNat = 0x80 + n % 64)
      (hn : 0x10000 ≤ n ∧ n < 0x110000) : Spells n [a, b, c, d]

/-- The number of a character is that of a scalar value. -/
theorem toNat_scalar (c : Char) : c.toNat < 0xD800 ∨ 0xDFFF < c.toNat ∧ c.toNat < 0x110000 := c.valid

/-- **A character is written so.** -/
theorem spells_utf8EncodeChar (c : Char) : Spells c.toNat (String.utf8EncodeChar c) := by
  have hscalar := toNat_scalar c
  have hbyte (m : Nat) (hm : m < 256) : (UInt8.ofNat m).toNat = m := by
    rw [UInt8.toNat_ofNat']
    exact Nat.mod_eq_of_lt hm
  have hval : c.val.toNat = c.toNat := rfl
  unfold String.utf8EncodeChar
  dsimp only
  rw [hval]
  generalize c.toNat = n at hscalar
  by_cases h₁ : n ≤ 127
  · rw [if_pos h₁]
    exact .one (hbyte _ (by omega)) (by omega)
  rw [if_neg h₁]
  by_cases h₂ : n ≤ 2047
  · rw [if_pos h₂]
    refine .two ?_ ?_ (by omega)
    · rw [hbyte _ (by omega)]; omega
    · rw [hbyte _ (by omega)]; omega
  rw [if_neg h₂]
  by_cases h₃ : n ≤ 65535
  · rw [if_pos h₃]
    refine .three ?_ ?_ ?_ (by omega)
    · rw [hbyte _ (by omega)]; omega
    · rw [hbyte _ (by omega)]; omega
    · rw [hbyte _ (by omega)]; omega
  · rw [if_neg h₃]
    refine .four ?_ ?_ ?_ ?_ (by omega)
    · rw [hbyte _ (by omega)]; omega
    · rw [hbyte _ (by omega)]; omega
    · rw [hbyte _ (by omega)]; omega
    · rw [hbyte _ (by omega)]; omega

/-- A byte with six bits continues a character, and holds them. -/
theorem isTail_of_toNat {b : UInt8} {m : Nat} (h : b.toNat = 0x80 + m % 64) :
    isTail b = true ∧ tailBits b = m % 64 := by
  refine ⟨?_, by unfold tailBits; omega⟩
  simp only [isTail, Bool.and_eq_true, decide_eq_true_eq, UInt8.le_iff_toNat_le, UInt8.reduceToNat]
  omega

/-- **The second byte of a longer character** is in the range that its first byte gives. -/
theorem isSecond_of_toNat {a b : UInt8} {m : Nat} (hb : b.toNat = 0x80 + m % 64)
    (hoverlong : a.toNat = 0xE0 → 32 ≤ m % 64) (hsurrogate : a.toNat = 0xED → m % 64 < 32)
    (hlonger : a.toNat = 0xF0 → 16 ≤ m % 64) (hbeyond : a.toNat = 0xF4 → m % 64 < 16) :
    isSecond a b = true := by
  simp only [isSecond, isTail, beq_iff_eq, ← UInt8.toNat_inj, UInt8.le_iff_toNat_le, hb,
    UInt8.reduceToNat]
  split_ifs <;> simp only [Bool.and_eq_true, decide_eq_true_eq] <;> omega

/-- **The bytes of a character are read as it.** -/
theorem head_of_spells {c : Char} {a : UInt8} {tail : List UInt8} (h : Spells c.toNat (a :: tail))
    (rest : List UInt8) : head a (tail ++ rest) = .char c (tail.length + 1) := by
  have hscalar := toNat_scalar c
  have hback : ∀ n, n = c.toNat → Char.ofNat n = c := by
    rintro _ rfl
    exact Char.ofNat_toNat c
  unfold head
  simp only [UInt8.lt_iff_toNat_lt, UInt8.le_iff_toNat_le, UInt8.reduceToNat, Bool.and_eq_true,
    decide_eq_true_eq]
  cases h with
  | one ha hn =>
      rw [if_pos (show a.toNat < 128 by omega), hback _ ha]
      rfl
  | @two _ b ha hb hn =>
      obtain ⟨htail, hbits⟩ := isTail_of_toNat hb
      rw [if_neg (show ¬ a.toNat < 128 by omega),
        if_pos (show 194 ≤ a.toNat ∧ a.toNat ≤ 223 by omega)]
      show (if isTail b then _ else _) = _
      rw [if_pos htail, hback _ (by omega)]
      rfl
  | @three _ b d ha hb hd hn =>
      have hsecond : isSecond a b = true :=
        isSecond_of_toNat hb (by omega) (by omega) (by omega) (by omega)
      obtain ⟨-, hbits⟩ := isTail_of_toNat hb
      obtain ⟨htail, hlast⟩ := isTail_of_toNat hd
      rw [if_neg (show ¬ a.toNat < 128 by omega),
        if_neg (show ¬ (194 ≤ a.toNat ∧ a.toNat ≤ 223) by omega),
        if_pos (show 224 ≤ a.toNat ∧ a.toNat ≤ 239 by omega)]
      show (if !isSecond a b then _ else if isTail d then _ else _) = _
      rw [hsecond, if_neg (by simp), if_pos htail, hback _ (by omega)]
      rfl
  | @four _ b d e ha hb hd he hn =>
      have hsecond : isSecond a b = true :=
        isSecond_of_toNat hb (by omega) (by omega) (by omega) (by omega)
      obtain ⟨-, hbits⟩ := isTail_of_toNat hb
      obtain ⟨hthird, hmiddle⟩ := isTail_of_toNat hd
      obtain ⟨htail, hlast⟩ := isTail_of_toNat he
      rw [if_neg (show ¬ a.toNat < 128 by omega),
        if_neg (show ¬ (194 ≤ a.toNat ∧ a.toNat ≤ 223) by omega),
        if_neg (show ¬ (224 ≤ a.toNat ∧ a.toNat ≤ 239) by omega),
        if_pos (show 240 ≤ a.toNat ∧ a.toNat ≤ 244 by omega)]
      show (if !isSecond a b then _ else if !isTail d then _ else if isTail e then _ else _) = _
      rw [hsecond, if_neg (by simp), hthird, if_neg (by simp), if_pos htail, hback _ (by omega)]
      rfl

/-! ## Texts -/

/-- The bytes of two texts in a row. -/
@[simp] theorem encode_append (s t : List Char) : encode (s ++ t) = encode s ++ encode t :=
  List.flatMap_append

/-- A text is read back wherever it stands. -/
theorem decodeFrom_encode (at_ : Nat) (s : List Char) : decodeFrom at_ (encode s) = .ok s := by
  induction s generalizing at_ with
  | nil => simp [decodeFrom]
  | cons c s ih =>
      have hspells := spells_utf8EncodeChar c
      rw [encode_cons]
      cases hbytes : String.utf8EncodeChar c with
      | nil =>
          rw [hbytes] at hspells
          cases hspells
      | cons a tail =>
          rw [hbytes] at hspells
          rw [List.cons_append, decodeFrom, head_of_spells hspells]
          dsimp only
          rw [Nat.add_sub_cancel, List.drop_left, ih]
          rfl

/-- **A text is read back from its bytes.** -/
theorem decode_encode (s : List Char) : decode (encode s) = .ok s := decodeFrom_encode 0 s

/-! ## ASCII -/

/-- An ASCII byte stands for itself alone. -/
theorem Spells.eq_of_mem {n : Nat} {bs : List UInt8} {b : UInt8} (h : Spells n bs) (hb : b ∈ bs)
    (hascii : b.toNat < 0x80) : n = b.toNat := by
  cases h with
  | one ha hn =>
      obtain rfl := List.mem_singleton.1 hb
      exact ha.symm
  | _ =>
      -- Every byte of a longer character is above the others.
      simp only [List.mem_cons, List.not_mem_nil, or_false, ← UInt8.toNat_inj] at hb
      omega

/-- **The ASCII bytes of a text are its ASCII characters.** -/
theorem mem_encode_iff {b : UInt8} (hascii : b.toNat < 0x80) {s : List Char} :
    b ∈ encode s ↔ ∃ c ∈ s, c.toNat = b.toNat := by
  unfold encode
  rw [List.mem_flatMap]
  constructor
  · rintro ⟨c, hc, hb⟩
    exact ⟨c, hc, (spells_utf8EncodeChar c).eq_of_mem hb hascii⟩
  · rintro ⟨c, hc, heq⟩
    refine ⟨c, hc, ?_⟩
    have hspells := spells_utf8EncodeChar c
    generalize String.utf8EncodeChar c = bs at hspells
    cases hspells with
    | one ha hn => exact List.mem_singleton.2 (UInt8.toNat_inj.1 (heq.symm.trans ha.symm))
    | _ => omega

/-- **The last byte of a text** is its last character, or is no ASCII. -/
theorem exists_encode_concat (s : List Char) (c : Char) :
    ∃ bs b, encode (s ++ [c]) = bs ++ [b] ∧ (b.toNat = c.toNat ∨ 0x80 ≤ b.toNat) := by
  rw [encode_append, encode_cons, encode_nil, List.append_nil]
  have hspells := spells_utf8EncodeChar c
  generalize String.utf8EncodeChar c = bs at hspells
  cases hspells with
  | @one a ha hn => exact ⟨encode s, a, rfl, .inl ha⟩
  | @two a b ha hb hn => exact ⟨encode s ++ [a], b, by simp, .inr (by omega)⟩
  | @three a b d ha hb hd hn => exact ⟨encode s ++ [a, b], d, by simp, .inr (by omega)⟩
  | @four a b d e ha hb hd he hn => exact ⟨encode s ++ [a, b, d], e, by simp, .inr (by omega)⟩

end SeriesBridge.Text.Utf8
