import Manpage.Page.Blocks
import Manpage.Page.Items
import Manpage.Reference.Tables

/-!
# The page

A manual page is the two generated lists between three fixed blocks.

* `Frame` — the fixed blocks, and `standardFrame`, those of the node(1) page;
* `assemble` — blocks and lists put together;
* `Page.ofTables`, `Page.ofText` — the page of two tables, and of a whole reference.
-/

namespace Manpage.Page

/-- The blocks around the two lists of a page. -/
structure Frame where
  header : Text
  variableHeader : Text
  footer : Text
  deriving DecidableEq, Repr

/-- The blocks of the node(1) page. -/
def standardFrame : Frame := ⟨Page.header, Page.variableHeader, Page.footer⟩

/-- A page from its blocks and list bodies, closed by a line feed. -/
def assemble (frame : Frame) (flagBody variableBody : Text) : Text :=
  frame.header ++ flagBody ++ frame.variableHeader ++ variableBody ++ frame.footer ++ ['\n']

/-- The page of two tables. -/
def ofTables (frame : Frame) (t : Tables) : Text :=
  assemble frame (flagItems t.flags) (variableItems t.environment)

/-- The page of a reference. -/
def ofText (frame : Frame) (source : Text) : Except Failure Text :=
  (extract .other (Text.lines source)).map (ofTables frame)

end Manpage.Page
