import Manpage.Text.Basic

/-!
# Paths

A path is a sequence of names, read from the place where the program runs or from the root.  Empty names and names
that are a single period lead nowhere and are left out; a name of two periods leads to the directory above and is
kept.

* `Anchor` — where a path starts, as it is written;
* `Path.ofText`, `Path.text` — reading and writing;
* `Path.holdsNul` — whether a path cannot name anything;
* `Path.parent`, `Path.append` — the directory of a path, and a path below another.
-/

namespace Manpage

/-- Where a path starts: at the place where the program runs, or at the root.  Two slashes stand for the root as well,
and are kept; more of them are as good as one. -/
inductive Anchor where
  | here
  | root
  | twoSlashes
  deriving DecidableEq, Repr

namespace Anchor

/-- The start of the path that a text gives. -/
def ofText (t : Text) : Anchor :=
  if Text.opensWith "///".toList t then .root
  else if Text.opensWith "//".toList t then .twoSlashes
  else if Text.opensWith "/".toList t then .root
  else .here

/-- The text in front of the names of a path. -/
def text : Anchor → Text
  | .here => []
  | .root => "/".toList
  | .twoSlashes => "//".toList

end Anchor

/-- A path: where it starts, and the names along it. -/
structure Path where
  anchor : Anchor
  names : List Text
  deriving DecidableEq, Repr

namespace Path

/-- Whether a name leads anywhere. -/
def leads (name : Text) : Bool := name ≠ [] && name ≠ ['.']

/-- The path that a text gives. -/
def ofText (t : Text) : Path := ⟨.ofText t, (Text.pieces '/' t).filter leads⟩

/-- The text of a path.  The place itself is a single period. -/
def text (p : Path) : Text :=
  if p.anchor = .here ∧ p.names = [] then ['.'] else p.anchor.text ++ Text.joined ['/'] p.names

/-- Whether a name of a path holds a NUL.  Such a path names nothing and never can. -/
def holdsNul (p : Path) : Bool := p.names.any (·.contains '\x00')

/-- The directory that holds what a path names; the start of a path is its own parent. -/
def parent (p : Path) : Path := { p with names := p.names.dropLast }

/-- The path that leads on along another, unless that one starts from the root. -/
def append (p q : Path) : Path := if q.anchor = .here then { p with names := p.names ++ q.names } else q

instance : Append Path := ⟨append⟩

end Path

end Manpage
