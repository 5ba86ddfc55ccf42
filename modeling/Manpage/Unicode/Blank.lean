import Manpage.Unicode.Boundaries

/-!
# White space

* `isBlank` — white space as the Unicode property and the separators of control (U+001C to U+001F) have it.
-/

namespace Manpage.Unicode

/-- The boundaries of white space beyond ASCII. -/
def blankBoundaries : List Nat := [
    0x85, 0x86, 0xa0, 0xa1, 0x1680, 0x1681, 0x2000, 0x200b, 0x2028, 0x202a, 0x202f, 0x2030,
    0x205f, 0x2060, 0x3000, 0x3001]

/-- White space: the horizontal tab to the carriage return, the four separators of control, the space, and the white
space beyond ASCII. -/
def isBlank (c : Char) : Bool :=
  if c.toNat < 0x80 then
    (0x09 ≤ c.toNat && c.toNat ≤ 0x0d) || (0x1c ≤ c.toNat && c.toNat ≤ 0x20)
  else within blankBoundaries c.toNat

theorem isBlank_space : isBlank ' ' = true := by decide

theorem isBlank_lineFeed : isBlank '\n' = true := by decide

theorem isBlank_of_isAlphanum {c : Char} (h : c.isAlphanum = true) : isBlank c = false := by
  have h : (decide (c.val ≥ 'A'.val ∧ c.val ≤ 'Z'.val) || (decide (c.val ≥ 'a'.val) && decide (c.val ≤ 'z'.val))
      || (decide (c.val ≥ '0'.val) && decide (c.val ≤ '9'.val))) = true := h
  simp only [Bool.or_eq_true, Bool.and_eq_true, decide_eq_true_eq, ge_iff_le, UInt32.le_iff_toNat_le] at h
  have hrange : 0x30 ≤ c.toNat ∧ c.toNat ≤ 0x7a := by
    have e : c.toNat = c.val.toNat := rfl
    have hA : 'A'.val.toNat = 65 := rfl
    have hZ : 'Z'.val.toNat = 90 := rfl
    have ha : 'a'.val.toNat = 97 := rfl
    have hz : 'z'.val.toNat = 122 := rfl
    have h0 : '0'.val.toNat = 48 := rfl
    have h9 : '9'.val.toNat = 57 := rfl
    omega
  have hascii : c.toNat < 0x80 := by omega
  rw [isBlank, if_pos hascii]
  simp only [Bool.or_eq_false_iff, Bool.and_eq_false_iff, decide_eq_false_iff_not]
  omega

end Manpage.Unicode
