import Manpage.Text.Basic

/-!
# Sections of a reference

A line that starts with `## ` opens a section.  Three titles open a section whose headings are recorded; any other
title opens one that is passed over.

* `Section` — the four kinds of section;
* `Section.name` and `Section.ofName?` — the name under which a section is known;
* `Section.ofHeader?` — the section that a line opens, if it opens one.
-/

namespace Manpage

/-- The part of a reference to which a heading belongs. -/
inductive Section where
  | options
  | v8Options
  | environment
  | other
  deriving DecidableEq, Repr

namespace Section

/-- The name of a section in messages and requests. -/
def name : Section → Text
  | .options => "Options".toList
  | .v8Options => "V8Options".toList
  | .environment => "EnvironmentVariables".toList
  | .other => "Other".toList

/-- All sections. -/
def all : List Section := [.options, .v8Options, .environment, .other]

/-- The section of a name. -/
def ofName? (t : Text) : Option Section := all.find? (·.name == t)

/-- The section that a title opens. -/
def ofTitle (title : Text) : Section :=
  if title = "Options".toList then .options
  else if title = "Useful V8 options".toList then .v8Options
  else if title = "Environment variables".toList then .environment
  else .other

/-- What a line that opens a section starts with. -/
def marker : Text := ['#', '#', ' ']

/-- The section that a line opens; any other line opens none. -/
def ofHeader? (line : Text) : Option Section := (Text.after? marker line).map ofTitle

/-- Whether the headings of a section record flags. -/
def holdsFlags : Section → Bool
  | .options | .v8Options => true
  | .environment | .other => false

end Section

end Manpage
