import Manpage.Text.Newline
import Manpage.Proofs.Text.Utf8

/-!
# Line ends as they are written

A text without carriage returns can be stored with any line end in place of its line feeds; reading it back gives the
text.

* `LineEnd`, `LineEnd.written` — the ways to end a line, and a text in which all lines end so;
* `normalised_written` — normalising undoes the writing, also where empty lines follow one another;
* `LineEnd.stored` — the bytes of the written text.
-/

namespace Manpage

/-- How the lines of a file end. -/
inductive LineEnd where
  | lineFeed
  | carriageReturn
  | both
  deriving DecidableEq, Repr

/-- The characters of a line end. -/
def LineEnd.mark : LineEnd → Text
  | .lineFeed => ['\n']
  | .carriageReturn => ['\r']
  | .both => ['\r', '\n']

/-- A text with line ends of one kind in place of its line feeds. -/
def LineEnd.written (e : LineEnd) (t : Text) : Text := t.flatMap fun c => if c = '\n' then e.mark else [c]

/-- The bytes of a text that is stored with line ends of one kind. -/
def LineEnd.stored (e : LineEnd) (t : Text) : Bytes := Utf8.encode (e.written t)

namespace Text

theorem normalised_cons_of_ne {c : Char} (h : c ≠ '\r') (t : Text) : normalised (c :: t) = c :: normalised t := by
  rw [normalised]
  · rintro u rfl -
    exact h rfl
  · exact h

theorem normalised_carriageReturn {t : Text} (h : t.head? ≠ some '\n') :
    normalised ('\r' :: t) = '\n' :: normalised t := by
  rw [normalised]
  rintro u rfl
  exact h rfl

/-- In a text whose lines end in carriage returns alone, no line feed follows one. -/
theorem head?_written_carriageReturn (t : Text) : (LineEnd.carriageReturn.written t).head? ≠ some '\n' := by
  cases t with
  | nil => simp [LineEnd.written]
  | cons c t =>
    by_cases hc : c = '\n'
    · simp [LineEnd.written, LineEnd.mark, hc]
    · simp [LineEnd.written, hc]

/-- Normalising gives a text back, however its line ends were written. -/
theorem normalised_written (e : LineEnd) {t : Text} (h : '\r' ∉ t) : normalised (e.written t) = t := by
  induction t with
  | nil => rfl
  | cons c t ih =>
    rw [List.mem_cons, not_or] at h
    have hrest := ih h.2
    have hwritten : e.written (c :: t) = (if c = '\n' then e.mark else [c]) ++ e.written t := rfl
    rw [hwritten]
    by_cases hc : c = '\n'
    · rw [if_pos hc, hc]
      cases e with
      | lineFeed => exact (normalised_cons_of_ne (by decide) _).trans (congrArg _ hrest)
      | carriageReturn =>
        exact (normalised_carriageReturn (head?_written_carriageReturn t)).trans (congrArg _ hrest)
      | both => exact congrArg ('\n' :: ·) hrest
    · rw [if_neg hc]
      exact (normalised_cons_of_ne (Ne.symm h.1) _).trans (congrArg _ hrest)

end Text

end Manpage
