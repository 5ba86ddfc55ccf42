import Manpage.Text.Basic

/-!
# Line ends

* `Text.normalised` — a text with a line feed for each of its line ends, whether they were written as a carriage
  return with a line feed, as a lone carriage return, or as a line feed.
-/

namespace Manpage.Text

/-- A text whose line ends are all single line feeds. -/
def normalised : Text → Text
  | '\r' :: '\n' :: t => '\n' :: normalised t
  | '\r' :: t => '\n' :: normalised t
  | c :: t => c :: normalised t
  | [] => []

theorem carriageReturn_not_mem_normalised (t : Text) : '\r' ∉ normalised t := by
  fun_induction normalised t with
  | case1 t ih => simpa using ih
  | case2 t _ ih => simpa using ih
  | case3 c t _ h ih => simpa [Ne.symm, eq_comm] using ⟨h, ih⟩
  | case4 => simp

end Manpage.Text
