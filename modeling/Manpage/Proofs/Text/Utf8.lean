import Manpage.Text.Utf8

/-!
# Texts and their bytes

A character is encoded by its code point, six bits to each byte but the first.  The decoder puts the code point together
again, and none of its guards refuses what was encoded.

* `decodeFrom_one`, `decodeFrom_two`, `decodeFrom_three`, `decodeFrom_four` — the four forms of a character, read back
  in front of any further bytes;
* `decode_encode` — so the bytes of a text decode to the text;
* `exists_mem_of_mem_encode` — a byte below 128 stands for the character of that number.
-/

namespace Manpage.Utf8

/-! ### Bytes -/

theorem toNat_ofNat {x : Nat} (h : x < 256) : (UInt8.ofNat x).toNat = x := UInt8.toNat_ofNat_of_lt' h

theorem isTail_ofNat {x : Nat} (h : x < 64) : isTail (UInt8.ofNat (x + 128)) = true := by
  have hx := toNat_ofNat (x := x + 128) (by omega)
  generalize UInt8.ofNat (x + 128) = b at hx
  simp only [isTail, UInt8.le_iff_toNat_le, hx, UInt8.reduceToNat, Bool.and_eq_true, decide_eq_true_eq]
  omega

theorem low6_ofNat {x : Nat} (h : x < 64) : low6 (UInt8.ofNat (x + 128)) = x := by
  rw [low6, toNat_ofNat (by omega)]
  omega

/-- A first byte from 0xc2 to 0xf4 is neither a character by itself nor out of place. -/
theorem isLeading_of_toNat {a : UInt8} (hlow : 0xc2 ≤ a.toNat) (hhigh : a.toNat ≤ 0xf4) :
    ¬ a ≤ 0x7f ∧ (a < 0xc2 || 0xf4 < a) = false := by
  simp only [UInt8.le_iff_toNat_le, UInt8.lt_iff_toNat_lt, UInt8.reduceToNat, Bool.or_eq_false_iff,
    decide_eq_false_iff_not]
  omega

/-! ### Forms of a character -/

variable {v : Nat}

theorem decodeFrom_one (h : v ≤ 0x7f) (n : Nat) (bs : Bytes) :
    decodeFrom n (UInt8.ofNat v :: bs) = (decodeFrom (n + 1) bs).map (Char.ofNat v :: ·) := by
  have ha := toNat_ofNat (x := v) (by omega)
  generalize UInt8.ofNat v = a at ha
  have hascii : a ≤ 0x7f := by
    rw [UInt8.le_iff_toNat_le, ha]
    exact h
  rw [decodeFrom.eq_def n (a :: bs)]
  simp only [if_pos hascii, ha]

theorem decodeFrom_two (hlow : 0x80 ≤ v) (hhigh : v ≤ 0x7ff) (n : Nat) (bs : Bytes) :
    decodeFrom n (UInt8.ofNat (v / 64 % 32 + 192) :: UInt8.ofNat (v % 64 + 128) :: bs) =
      (decodeFrom (n + 2) bs).map (Char.ofNat v :: ·) := by
  have ha := toNat_ofNat (x := v / 64 % 32 + 192) (by omega)
  have htail := isTail_ofNat (x := v % 64) (by omega)
  have hb := low6_ofNat (x := v % 64) (by omega)
  generalize UInt8.ofNat (v / 64 % 32 + 192) = a at ha
  generalize UInt8.ofNat (v % 64 + 128) = b at htail hb
  obtain ⟨hascii, hstart⟩ := isLeading_of_toNat (a := a) (by omega) (by omega)
  have htwo : a ≤ 0xdf := by
    simp only [UInt8.le_iff_toNat_le, UInt8.reduceToNat]
    omega
  have hcode : a.toNat % 32 * 64 + low6 b = v := by omega
  rw [decodeFrom.eq_def n (a :: b :: bs)]
  simp only [if_neg hascii, hstart, Bool.false_eq_true, if_false, if_pos htwo, htail, if_true, hcode]

/-- In the three-byte form, the guard on the second byte keeps out overlong forms and surrogates. -/
theorem decodeFrom_three (hlow : 0x800 ≤ v) (hhigh : v ≤ 0xffff) (hvalid : v < 0xd800 ∨ 0xdfff < v) (n : Nat)
    (bs : Bytes) :
    decodeFrom n (UInt8.ofNat (v / 4096 % 16 + 224) :: UInt8.ofNat (v / 64 % 64 + 128) ::
        UInt8.ofNat (v % 64 + 128) :: bs) =
      (decodeFrom (n + 3) bs).map (Char.ofNat v :: ·) := by
  have ha := toNat_ofNat (x := v / 4096 % 16 + 224) (by omega)
  have hsecond := toNat_ofNat (x := v / 64 % 64 + 128) (by omega)
  have hsecondTail := isTail_ofNat (x := v / 64 % 64) (by omega)
  have hb := low6_ofNat (x := v / 64 % 64) (by omega)
  have htail := isTail_ofNat (x := v % 64) (by omega)
  have hc := low6_ofNat (x := v % 64) (by omega)
  generalize UInt8.ofNat (v / 4096 % 16 + 224) = a at ha
  generalize UInt8.ofNat (v / 64 % 64 + 128) = b at hsecond hsecondTail hb
  generalize UInt8.ofNat (v % 64 + 128) = c at htail hc
  obtain ⟨hascii, hstart⟩ := isLeading_of_toNat (a := a) (by omega) (by omega)
  have hthree : ¬ a ≤ 0xdf ∧ a ≤ 0xef := by
    simp only [UInt8.le_iff_toNat_le, UInt8.reduceToNat]
    omega
  have hguard : isSecondOfThree a b = true := by
    simp only [isSecondOfThree, hsecondTail, UInt8.le_iff_toNat_le, bne_iff_ne, ne_eq, ← UInt8.toNat_inj,
      UInt8.reduceToNat, Bool.true_and, Bool.and_eq_true, Bool.or_eq_true, decide_eq_true_eq]
    omega
  have hcode : (a.toNat % 16 * 64 + low6 b) * 64 + low6 c = v := by omega
  rw [decodeFrom.eq_def n (a :: b :: c :: bs)]
  simp only [if_neg hascii, hstart, Bool.false_eq_true, if_false, if_neg hthree.1, if_pos hthree.2, hguard,
    Bool.not_true, htail, if_true, hcode]

/-- In the four-byte form, it keeps out overlong forms and what lies beyond the last code point. -/
theorem decodeFrom_four (hlow : 0x10000 ≤ v) (hhigh : v ≤ 0x10ffff) (n : Nat) (bs : Bytes) :
    decodeFrom n (UInt8.ofNat (v / 262144 % 8 + 240) :: UInt8.ofNat (v / 4096 % 64 + 128) ::
        UInt8.ofNat (v / 64 % 64 + 128) :: UInt8.ofNat (v % 64 + 128) :: bs) =
      (decodeFrom (n + 4) bs).map (Char.ofNat v :: ·) := by
  have ha := toNat_ofNat (x := v / 262144 % 8 + 240) (by omega)
  have hsecond := toNat_ofNat (x := v / 4096 % 64 + 128) (by omega)
  have hsecondTail := isTail_ofNat (x := v / 4096 % 64) (by omega)
  have hb := low6_ofNat (x := v / 4096 % 64) (by omega)
  have hthirdTail := isTail_ofNat (x := v / 64 % 64) (by omega)
  have hc := low6_ofNat (x := v / 64 % 64) (by omega)
  have htail := isTail_ofNat (x := v % 64) (by omega)
  have hd := low6_ofNat (x := v % 64) (by omega)
  generalize UInt8.ofNat (v / 262144 % 8 + 240) = a at ha
  generalize UInt8.ofNat (v / 4096 % 64 + 128) = b at hsecond hsecondTail hb
  generalize UInt8.ofNat (v / 64 % 64 + 128) = c at hthirdTail hc
  generalize UInt8.ofNat (v % 64 + 128) = d at htail hd
  obtain ⟨hascii, hstart⟩ := isLeading_of_toNat (a := a) (by omega) (by omega)
  have hfour : ¬ a ≤ 0xdf ∧ ¬ a ≤ 0xef := by
    simp only [UInt8.le_iff_toNat_le, UInt8.reduceToNat]
    omega
  have hguard : isSecondOfFour a b = true := by
    simp only [isSecondOfFour, hsecondTail, UInt8.le_iff_toNat_le, bne_iff_ne, ne_eq, ← UInt8.toNat_inj,
      UInt8.reduceToNat, Bool.true_and, Bool.and_eq_true, Bool.or_eq_true, decide_eq_true_eq]
    omega
  have hcode : ((a.toNat % 8 * 64 + low6 b) * 64 + low6 c) * 64 + low6 d = v := by omega
  rw [decodeFrom.eq_def n (a :: b :: c :: d :: bs)]
  simp only [if_neg hascii, hstart, Bool.false_eq_true, if_false, if_neg hfour.1, if_neg hfour.2, hguard,
    Bool.not_true, hthirdTail, htail, if_true, hcode]

/-! ### Texts -/

theorem encode_cons (c : Char) (t : Text) : encode (c :: t) = String.utf8EncodeChar c ++ encode t := rfl

theorem length_encode_append (t u : Text) : (encode (t ++ u)).length = (encode t).length + (encode u).length := by
  rw [encode, List.flatMap_append, List.length_append]
  rfl

/-- The bytes of a character are read back as the character, whatever follows. -/
theorem exists_decodeFrom_append (c : Char) (n : Nat) (bs : Bytes) :
    ∃ m, decodeFrom n (String.utf8EncodeChar c ++ bs) = (decodeFrom m bs).map (c :: ·) := by
  have hc : Char.ofNat c.val.toNat = c := Char.ofNat_toNat c
  have hvalid : c.val.toNat < 0xd800 ∨ 0xdfff < c.val.toNat ∧ c.val.toNat < 0x110000 := c.valid
  unfold String.utf8EncodeChar
  generalize c.val.toNat = v at hc hvalid
  dsimp only
  rw [← hc]
  split
  · next hone => exact ⟨n + 1, decodeFrom_one hone n bs⟩
  · split
    · next hone htwo => exact ⟨n + 2, decodeFrom_two (by omega) htwo n bs⟩
    · split
      · next hone htwo hthree => exact ⟨n + 3, decodeFrom_three (by omega) hthree (by omega) n bs⟩
      · next hone htwo hthree => exact ⟨n + 4, decodeFrom_four (by omega) (by omega) n bs⟩

theorem decodeFrom_encode (t : Text) (n : Nat) : decodeFrom n (encode t) = .ok t := by
  induction t generalizing n with
  | nil => rfl
  | cons c t ih =>
    obtain ⟨m, hm⟩ := exists_decodeFrom_append c n (encode t)
    rw [encode_cons, hm, ih]
    rfl

/-- The bytes of a text decode to the text. -/
theorem decode_encode (t : Text) : decode (encode t) = .ok t := decodeFrom_encode t 0

theorem eq_of_mem_utf8EncodeChar {b : UInt8} (hb : b.toNat ≤ 0x7f) {c : Char} (h : b ∈ String.utf8EncodeChar c) :
    c.toNat = b.toNat := by
  have hlater {x : Nat} (hlow : 128 ≤ x) (hx : x < 256) : b ≠ UInt8.ofNat x := by
    rintro rfl
    rw [toNat_ofNat hx] at hb
    omega
  have hvalid : c.val.toNat < 0xd800 ∨ 0xdfff < c.val.toNat ∧ c.val.toNat < 0x110000 := c.valid
  show c.val.toNat = b.toNat
  unfold String.utf8EncodeChar at h
  generalize c.val.toNat = v at h hvalid
  dsimp only at h
  split at h
  · next hone =>
    rw [List.mem_singleton.1 h, toNat_ofNat (by omega)]
  · split at h
    · simp only [List.mem_cons, List.not_mem_nil, or_false] at h
      rcases h with h | h <;> exact absurd h (hlater (by omega) (by omega))
    · split at h
      · simp only [List.mem_cons, List.not_mem_nil, or_false] at h
        rcases h with h | h | h <;> exact absurd h (hlater (by omega) (by omega))
      · simp only [List.mem_cons, List.not_mem_nil, or_false] at h
        rcases h with h | h | h | h <;> exact absurd h (hlater (by omega) (by omega))

/-- A byte below 128 stands for the character of that number. -/
theorem exists_mem_of_mem_encode {b : UInt8} (hb : b.toNat ≤ 0x7f) {t : Text} (h : b ∈ encode t) :
    ∃ c ∈ t, c.toNat = b.toNat := by
  obtain ⟨c, hc, h⟩ := List.mem_flatMap.1 h
  exact ⟨c, hc, eq_of_mem_utf8EncodeChar hb h⟩

end Manpage.Utf8
