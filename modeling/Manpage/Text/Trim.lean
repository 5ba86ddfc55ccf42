import Manpage.Text.Basic
import Manpage.Unicode.Blank

/-!
# Trimming

* `Text.trim` — a text without the white space at its two ends.
-/

namespace Manpage.Text

open Unicode

/-- A text without the white space in front. -/
def trimStart (t : Text) : Text := t.dropWhile isBlank

/-- A text without the white space at the end. -/
def trimEnd (t : Text) : Text := (t.reverse.dropWhile isBlank).reverse

/-- A text without the white space at either end. -/
def trim (t : Text) : Text := trimEnd (trimStart t)

theorem trimEnd_append_of_not_blank (t : Text) {c : Char} (h : isBlank c = false) :
    trimEnd (t ++ [c]) = t ++ [c] := by
  simp [trimEnd, h]

theorem trimStart_cons_of_not_blank {c : Char} (h : isBlank c = false) (t : Text) :
    trimStart (c :: t) = c :: t := by
  rw [trimStart, List.dropWhile_cons_of_neg (by simp [h])]

/-- Only what follows the last character that is not white space can be trimmed off the end. -/
theorem trimEnd_append_cons (t : Text) {c : Char} (h : isBlank c = false) (u : Text) :
    trimEnd (t ++ c :: u) = t ++ c :: trimEnd u := by
  rw [trimEnd, trimEnd, List.reverse_append, List.reverse_cons, List.append_assoc, List.dropWhile_append]
  split
  · next hu =>
    rw [List.isEmpty_iff.1 hu]
    simp [h]
  · simp

/-- What follows a character that is not white space is not trimmed off the front. -/
theorem trimStart_append {t : Text} (h : ∃ c ∈ t, isBlank c = false) (u : Text) :
    trimStart (t ++ u) = trimStart t ++ u := by
  induction t with
  | nil =>
    obtain ⟨c, hc, -⟩ := h
    exact absurd hc List.not_mem_nil
  | cons c t ih =>
    cases hblank : isBlank c with
    | false => rw [List.cons_append, trimStart_cons_of_not_blank hblank, trimStart_cons_of_not_blank hblank,
        List.cons_append]
    | true =>
      have hrest : ∃ d ∈ t, isBlank d = false := by
        obtain ⟨d, hd, hdblank⟩ := h
        rcases List.mem_cons.1 hd with rfl | hd
        · exact absurd (hblank.symm.trans hdblank) (by decide)
        · exact ⟨d, hd, hdblank⟩
      have hstep (v : Text) : trimStart (c :: v) = trimStart v := List.dropWhile_cons_of_pos hblank
      rw [List.cons_append, hstep, hstep, ih hrest]

theorem isPrefix_trimEnd (t : Text) : trimEnd t <+: t := by
  rw [trimEnd, ← List.reverse_suffix, List.reverse_reverse]
  exact List.dropWhile_suffix isBlank

/-- A text that was trimmed does not end in white space. -/
theorem isBlank_of_getLast?_trimEnd {t : Text} {c : Char} (h : (trimEnd t).getLast? = some c) : isBlank c = false := by
  have hfirst := List.head?_dropWhile_not isBlank t.reverse
  rw [trimEnd, List.getLast?_reverse] at h
  rwa [h] at hfirst

/-- Trimming adds no characters. -/
theorem mem_of_mem_trim {t : Text} {c : Char} (h : c ∈ trim t) : c ∈ t :=
  (List.dropWhile_sublist isBlank).subset ((isPrefix_trimEnd _).subset h)

/-- Trimming leaves a text alone whose first and last characters are not white space. -/
theorem trim_eq_self {c d : Char} {t u : Text} (hc : isBlank c = false) (hd : isBlank d = false)
    (h : c :: t = u ++ [d]) : trim (c :: t) = c :: t := by
  rw [trim, trimStart_cons_of_not_blank hc, h, trimEnd_append_of_not_blank u hd]

/-- Trimming keeps the last character of a text, if that is not white space. -/
theorem getLast?_trim {t : Text} {c : Char} (h : t.getLast? = some c) (hc : isBlank c = false) :
    (trim t).getLast? = some c := by
  obtain ⟨u, rfl⟩ := List.getLast?_eq_some_iff.1 h
  have hstart : ∃ v, trimStart (u ++ [c]) = v ++ [c] := by
    rw [trimStart, List.dropWhile_append]
    split
    · exact ⟨[], by simp [hc]⟩
    · exact ⟨u.dropWhile isBlank, rfl⟩
  obtain ⟨v, hv⟩ := hstart
  rw [trim, hv, trimEnd_append_of_not_blank v hc, List.getLast?_concat]

end Manpage.Text
