import Manpage.Malformed
import Manpage.Prose.Markup
import Manpage.Prose.Sentence
import Manpage.Reference.Place

/-!
# Entries of a reference

An entry is introduced by a line that starts with `### ` and gives its name, with or without backticks.  Below it
may stand a comment from `<!--` to `-->` and lines of a block quotation; the first sentence of the prose after them
is the description.

* `Entry` — a name with its description;
* `Reading` — how a line reads as the heading of an entry, and `Reading.entry?`, the entry that it gives;
* `readHeading` — the reading of a place, with the places ahead of it, or the defect found there;
* `firstSentenceFrom` — the first sentence from a line on, or the defect that there is none.
-/

namespace Manpage

/-- A documented option or environment variable. -/
structure Entry where
  name : Text
  description : Text
  deriving DecidableEq, Repr

namespace Entry

/-! ### Headings -/

/-- What the heading of an entry starts with. -/
def marker : Text := ['#', '#', '#', ' ']

/-- The name that a heading gives, less its backticks; a heading without a name is none. -/
def nameOf? (line : Text) : Option Text :=
  match Text.after? marker line with
  | none => none
  | some t =>
    let name := t.filter (· ≠ '\x60')
    if name = [] then none else some name

/-- Whether a name marks the end of the options instead of being one. -/
def isSentinel (name : Text) : Bool := name = ['-'] || name = ['-', '-']

/-- The description of an entry that has none of its own. -/
def placeholder : Text := "This option has no description.".toList

/-- Whether a description starts like prose: with an ASCII letter, a digit or a quotation mark. -/
def startsLikeProse : Text → Bool
  | [] => false
  | c :: _ => c.isAlphanum || Prose.isQuotationMark c

end Entry

/-- How a line reads as the heading of an entry. -/
inductive Reading where
  /-- The line is not the heading of an entry. -/
  | none
  /-- The heading marks the end of the options. -/
  | sentinel (name : Text)
  /-- The next heading follows at once. -/
  | undescribed (name : Text)
  /-- The first sentence below the heading, with its markup converted. -/
  | described (name sentence : Text)
  deriving DecidableEq, Repr

/-- The entry that a reading gives.  A sentence that does not start like prose is leaked markup and is discarded. -/
def Reading.entry? : Reading → Option Entry
  | .none => Option.none
  | .sentinel _ => Option.none
  | .undescribed name => some ⟨name, Entry.placeholder⟩
  | .described name sentence =>
    some ⟨name, if Entry.startsLikeProse sentence then sentence else Entry.placeholder⟩

/-! ### Descriptions -/

/-- The first sentence of the lines, the first of which has the given number. -/
def firstSentenceFrom (line : Int) (ls : List Text) : Except Malformed Text :=
  match Prose.firstSentenceOfLines? ls with
  | some s => .ok s
  | none => .error ⟨.noSentence, line⟩

/-- A place with prose: neither empty nor part of a block quotation. -/
def Place.isProse (p : Place) : Bool :=
  match p.text with
  | [] => false
  | c :: _ => c ≠ '>'

/-- The description in the places ahead of a line: the first sentence from the first prose on. -/
def descriptionAfter (line : Int) (ahead : List Place) : Except Malformed Text :=
  match ahead.find? Place.isProse with
  | none => .error ⟨.missingDescription, line⟩
  | some p => (firstSentenceFrom p.line (p.text :: p.below)).map Prose.convert

/-- The line that closes a comment, with the places ahead of it. -/
def commentClose? : List Place → Option (Place × List Place)
  | [] => none
  | p :: ps => if p.text = ['-', '-', '>'] then some (p, ps) else commentClose? ps

/-! ### Reading a heading -/

/-- What stands in the second line below a heading. -/
inductive Lookahead where
  | comment
  | heading
  | prose
  deriving DecidableEq, Repr

/-- The kind of the second line below a heading, for the places ahead of that heading. -/
def Lookahead.of (ahead : List Place) : Lookahead :=
  match ahead[1]? with
  | none => .prose
  | some p =>
    if Text.opensWith ['<', '!', '-', '-'] p.text then .comment
    else if Text.opensWith Entry.marker p.text then .heading
    else .prose

/-- The reading of the line at a place, with the places ahead of it. -/
def readHeading (here : Place) (ahead : List Place) : Except Malformed Reading :=
  match Entry.nameOf? here.text with
  | none => .ok .none
  | some name =>
    if Entry.isSentinel name then .ok (.sentinel name)
    else match Lookahead.of ahead with
      | .heading => .ok (.undescribed name)
      | .prose => (descriptionAfter here.line ahead).map (.described name)
      | .comment =>
        match commentClose? ahead with
        | none => .error ⟨.unterminatedComment, here.line⟩
        | some (close, rest) => (descriptionAfter close.line rest).map (.described name)

/-- The reading of the line of a number, if the document has such a line. -/
def readHeadingAt? (ls : List Text) (n : Int) : Option (Except Malformed Reading) :=
  match Place.tape ls n with
  | [] => none
  | here :: ahead => some (readHeading here ahead)

end Manpage
