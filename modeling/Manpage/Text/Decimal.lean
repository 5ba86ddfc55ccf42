import Manpage.Text.Basic

/-!
# Numbers in decimal digits

* `Text.ofNat` — the digits of a natural number, without leading zeros;
* `Text.ofInt` — the same with a minus sign in front of a negative number.
-/

namespace Manpage.Text

/-- A number in decimal digits. -/
def ofNat (n : Nat) : Text := Nat.toDigits 10 n

/-- A number in decimal digits, with a minus sign if it is negative. -/
def ofInt (n : Int) : Text := if n < 0 then '-' :: ofNat n.natAbs else ofNat n.natAbs

theorem lineFeed_not_mem_ofNat (n : Nat) : '\n' ∉ ofNat n := by
  intro h
  have hdigit := Nat.isDigit_of_mem_toDigits (by decide) (by decide) h
  exact absurd hdigit (by decide)

end Manpage.Text
