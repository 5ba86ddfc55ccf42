import Manpage.Unicode.Digit
import Manpage.Unicode.Letter
import Manpage.Unicode.LetterCase

/-!
# Classes of characters

How the classes of characters and their lower-case forms lie to each other.

* `Unicode.apart` — no stretch of one set reaches into another, which one walk along their boundaries shows;
* `Unicode.isLetter_eq_false_of_isDigit` — a digit is no letter, in ASCII and beyond;
* `Unicode.forall_ascii` — what holds of the first 128 code points holds of ASCII;
* `Unicode.eq_of_toLower_eq` — a character of ASCII is its lower-case form and its case.
-/

namespace Manpage.Unicode

/-! ### Sets that lie apart -/

/-- The boundaries of a set without the stretches that lie before a point. -/
def past (a : Nat) : List Nat → List Nat
  | c :: d :: cs => if c ≤ a ∧ d ≤ a then past a cs else c :: d :: cs
  | cs => cs

/-- From the point on, the set is the same. -/
theorem within_past {a n : Nat} (h : a ≤ n) (cs : List Nat) : within (past a cs) n = within cs n := by
  fun_induction past a cs with
  | case1 c d cs hbefore ih =>
    have hc : ¬n < c := by omega
    have hd : ¬n < d := by omega
    simp [within, hc, hd, ih]
  | case2 => rfl
  | case3 => rfl

/-- Whether no stretch of the first set reaches into the second: with the stretches of the second before it passed,
the next one begins at its end or later. -/
def apart : (bs cs : List Nat) → Bool
  | a :: b :: bs, cs => (past a cs).head?.all (fun c => b ≤ c) && apart bs (past a cs)
  | [_], _ => false
  | [], _ => true

/-- What belongs to the first of two sets that lie apart does not belong to the second. -/
theorem within_eq_false_of_apart {bs cs : List Nat} (h : apart bs cs = true) {n : Nat}
    (hn : within bs n = true) : within cs n = false := by
  fun_induction apart bs cs with
  | case1 a b bs cs ih =>
    obtain ⟨hhead, hrest⟩ := (Bool.and_eq_true _ _).mp h
    have ha : ¬n < a := fun ha => by simp [within, ha] at hn
    rw [← within_past (Nat.not_lt.1 ha) cs]
    by_cases hb : n < b
    · -- inside the stretch: the second set has not begun again
      cases hpast : past a cs with
      | nil => rfl
      | cons c cs' =>
        have hc : b ≤ c := by simpa [hpast] using hhead
        exact within_of_lt cs' (Nat.lt_of_lt_of_le hb hc)
    · exact ih hrest (by simpa [within, ha, hb] using hn)
  | case2 => cases h
  | case3 => cases hn

/-! ### ASCII -/

/-- Whether a character is one of ASCII. -/
def isAscii (c : Char) : Bool := c.toNat < 0x80

/-- What holds of the first 128 code points holds of ASCII. -/
theorem forall_ascii {P : Char → Prop} (h : ∀ n < 0x80, P (Char.ofNat n)) {c : Char} (hc : isAscii c = true) :
    P c := by
  have hcode := h c.toNat (of_decide_eq_true hc)
  rwa [Char.ofNat_toNat] at hcode

theorem isAscii_toLower {c : Char} (hc : isAscii c = true) : isAscii (toLower c) = true :=
  forall_ascii (P := fun c => isAscii (toLower c) = true) (by decide +kernel) hc

theorem all_isAscii_map_toLower {a : List Char} (ha : a.all isAscii = true) :
    (a.map toLower).all isAscii = true := by
  rw [List.all_map, List.all_eq_true]
  exact fun c hc => isAscii_toLower (List.all_eq_true.1 ha c hc)

/-- In ASCII only letters have a lower-case form of their own. -/
theorem toLower_of_not_isLetter {c : Char} (hc : isAscii c = true) (hletter : ¬isLetter c = true) : toLower c = c :=
  forall_ascii (P := fun c => ¬isLetter c = true → toLower c = c) (by decide +kernel) hc hletter

/-- The lower-case form of a letter of ASCII is a letter in lower case. -/
theorem isLetter_toLower {c : Char} (hc : isAscii c = true) (hletter : isLetter c = true) :
    isLetter (toLower c) = true ∧ toLower (toLower c) = toLower c :=
  forall_ascii (P := fun c => isLetter c = true → isLetter (toLower c) = true ∧ toLower (toLower c) = toLower c)
    (by decide +kernel) hc hletter

/-- A character of ASCII by its lower-case form and its case. -/
theorem eq_toUpper_or_eq_toLower {c : Char} (hc : isAscii c = true) :
    c = if isUpper c then (toLower c).toUpper else toLower c :=
  forall_ascii (P := fun c => c = if isUpper c then (toLower c).toUpper else toLower c) (by decide +kernel) hc

/-- Characters of ASCII with one lower-case form and one case are the same. -/
theorem eq_of_toLower_eq {c d : Char} (hc : isAscii c = true) (hd : isAscii d = true)
    (hlower : toLower c = toLower d) (hupper : isUpper c = isUpper d) : c = d := by
  rw [eq_toUpper_or_eq_toLower hc, eq_toUpper_or_eq_toLower hd, hlower, hupper]

/-! ### Digits and letters -/

theorem apart_digit_letter : apart digitBoundaries letterBoundaries = true := by decide +kernel

/-- A digit is no letter. -/
theorem isLetter_eq_false_of_isDigit {c : Char} (h : isDigit c = true) : isLetter c = false := by
  by_cases hc : isAscii c = true
  · exact forall_ascii (P := fun c => isDigit c = true → isLetter c = false) (by decide +kernel) hc h
  · have hcode : ¬c.toNat < 0x80 := by simpa [isAscii] using hc
    have hdigit : within digitBoundaries c.toNat = true := by simpa [isDigit, hcode] using h
    simpa [isLetter, hcode] using within_eq_false_of_apart apart_digit_letter hdigit

end Manpage.Unicode
