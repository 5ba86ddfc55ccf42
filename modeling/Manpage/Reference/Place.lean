import Manpage.Text.Basic

/-!
# Places in a document

A place is a line of a document together with its number and the lines below it.

* `Place.all` — the places of a document, numbered on from a first number;
* `Place.tape` — the places that are met from a given number on.  A negative number counts back from the end of the
  document, and from there the places run on through the end of the document and into its beginning;
* `linesFrom` — the lines from a number on, where a number beyond either end means that end.
-/

namespace Manpage

/-- A line of a document with its number, which may count back from the end, and the lines below it. -/
structure Place where
  line : Int
  text : Text
  below : List Text
  deriving DecidableEq, Repr

namespace Place

/-- The places of a document whose first line has the given number. -/
def all : (first : Int) → List Text → List Place
  | _, [] => []
  | n, l :: ls => ⟨n, l, ls⟩ :: all (n + 1) ls

theorem map_text_all (n : Int) (ls : List Text) : (all n ls).map text = ls := by
  induction ls generalizing n with
  | nil => rfl
  | cons l ls ih => simp [all, ih]

/-- The places that are met from a number on; none, if the document has no line of that number. -/
def tape (ls : List Text) (n : Int) : List Place :=
  if 0 ≤ n then (all 0 ls).drop n.toNat
  else if 0 ≤ ls.length + n then all n (ls.drop (ls.length + n).toNat) ++ all 0 ls
  else []

end Place

/-- The lines of a document from a number on. -/
def linesFrom (ls : List Text) (n : Int) : List Text :=
  if 0 ≤ n then ls.drop n.toNat else ls.drop (ls.length + n).toNat

end Manpage
