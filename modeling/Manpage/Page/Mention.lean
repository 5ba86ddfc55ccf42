import Manpage.Page.Flag
import Manpage.Unicode.Blank

/-!
# Documented options

An option counts as documented if a list item of the page names it: on a line that starts with `.It `, the word `Fl`
and the spelling less one dash stand at the start of the item or after white space, and white space or the end of
the page follows.  Mentions elsewhere do not count.

* `mentions` — whether a page documents the name of an option;
* `undocumented` — the options of a list that a page does not document, each once.
-/

namespace Manpage.Page

open Unicode

/-- Whether white space or nothing stands at the front of a text. -/
def atWordEnd : Text → Bool
  | [] => true
  | c :: _ => isBlank c

/-- Whether a text opens with a whole mention of a name. -/
def opensWithMention (name text : Text) : Bool :=
  match Text.after? ("Fl ".toList ++ name) text with
  | none => false
  | some rest => atWordEnd rest

/-- Whether a mention follows some white space on the line that a text opens with; the line feed at its end counts. -/
def mentionsLater (name : Text) : Text → Bool
  | [] => false
  | c :: t => (isBlank c && opensWithMention name t) || (c ≠ '\n' && mentionsLater name t)

/-- Whether the line that a text opens with is an item with a mention of a name. -/
def opensWithItem (name text : Text) : Bool :=
  match Text.after? ".It ".toList text with
  | none => false
  | some head => opensWithMention name head || mentionsLater name head

/-- What follows each line feed of a text. -/
def afterLineFeeds : Text → List Text
  | [] => []
  | c :: t => if c = '\n' then t :: afterLineFeeds t else afterLineFeeds t

/-- Whether some list item of a page mentions a name. -/
def mentions (name page : Text) : Bool := (page :: afterLineFeeds page).any (opensWithItem name)

/-- The options that no list item of a page mentions, each once and in the order of the list. -/
def undocumented (options : List Text) (page : Text) : List Text :=
  (options.filter fun o => !mentions (Flag.dropDash o) page).eraseDups

end Manpage.Page
