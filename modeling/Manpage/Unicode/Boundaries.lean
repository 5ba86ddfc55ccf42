/-!
# Sets of code points by their boundaries

A set of code points is kept as the ascending list of the points at which membership changes: the first boundary
opens a stretch, the second closes it (and is outside), the third opens the next one, and so on.

* `within` — membership;
* `within_of_lt` — nothing below the first boundary belongs to the set.
-/

namespace Manpage.Unicode

/-- Whether a code point belongs to the set with the given ascending boundaries. -/
def within : (boundaries : List Nat) → (code : Nat) → Bool
  | [], _ => false
  | b :: bs, n => if n < b then false else !within bs n

theorem within_of_lt {b n : Nat} (bs : List Nat) (h : n < b) : within (b :: bs) n = false := by
  simp [within, h]

end Manpage.Unicode
