import Manpage.Text.Trim

/-!
# Option lists

A list of option spellings is kept as a text with one spelling on each line, where white space around a spelling
does not count and a line whose first mark is `#` is a comment.

* `readOptionList` — the spellings of such a text.
-/

namespace Manpage

/-- Whether a trimmed line gives a spelling: it is neither empty nor a comment. -/
def isSpelling : Text → Bool
  | [] => false
  | c :: _ => c ≠ '#'

/-- The spellings of an option list, in order. -/
def readOptionList (t : Text) : List Text := ((Text.lines t).map Text.trim).filter isSpelling

end Manpage
