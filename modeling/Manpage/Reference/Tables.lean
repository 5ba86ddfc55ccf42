import Manpage.Collation
import Manpage.Reference.Entry
import Manpage.Reference.Section
import Manpage.Text.Quoted

/-!
# The tables of a reference

A walk through the lines of a reference keeps the section it is in and reads every heading of a recorded section.
The entries it finds make two tables: the flags, where a later entry of the same name takes the place of an earlier
one, in the order of collation; and the environment variables, in the order of the document.

* `Walk` — what was found up to the first defect, and that defect; `Walk.through` is the walk;
* `Note` — what the walk reports on the way, and `Note.message`;
* `Tables` — the two tables, and `Walk.tables`;
* `extract` — the tables of a document, or why there are none.
-/

namespace Manpage

/-! ### Findings -/

/-- The reading of a heading in its section. -/
structure Finding where
  source : Section
  reading : Reading
  deriving DecidableEq, Repr

/-- The entry of a finding, with its section. -/
def Finding.recorded? (f : Finding) : Option (Section × Entry) := f.reading.entry?.map (f.source, ·)

/-- Findings up to the first defect, and that defect. -/
structure Walk where
  findings : List Finding
  failure? : Option Malformed
  deriving DecidableEq, Repr

/-- The walk through the places of a document, in a section at its start. -/
def Walk.through (s : Section) : List Place → Walk
  | [] => ⟨[], none⟩
  | here :: ahead =>
    match Section.ofHeader? here.text with
    | some t => through t ahead
    | none =>
      if s = .other then through s ahead
      else match readHeading here ahead with
        | .error e => ⟨[], some e⟩
        | .ok r =>
          let w := through s ahead
          { w with findings := ⟨s, r⟩ :: w.findings }

/-- The walk through a document, in a section at its start. -/
def Walk.of (s : Section) (ls : List Text) : Walk := through s (Place.all 0 ls)

/-- The entries found, each with its section, in the order of the document. -/
def Walk.recorded (w : Walk) : List (Section × Entry) := w.findings.filterMap Finding.recorded?

/-! ### Notes -/

/-- What a walk reports on its way. -/
inductive Note where
  | sentinelSkipped (name : Text)
  | undescribed (name : Text)
  | discarded (name sentence : Text)
  | recorded (source : Section) (name : Text)
  deriving DecidableEq, Repr

/-- The wording of a note; of a discarded sentence, the first forty characters are shown. -/
def Note.message : Note → Text
  | .sentinelSkipped name => "Skipping sentinel heading ".toList ++ Text.quoted name
  | .undescribed name => "No description for ".toList ++ name
  | .discarded name sentence =>
    "Discarding description of ".toList ++ name ++ ": ".toList ++ Text.quoted (sentence.take 40)
  | .recorded source name => source.name ++ ": ".toList ++ name

/-- What is reported of one finding. -/
def Finding.notes (f : Finding) : List Note :=
  match f.reading with
  | .none => []
  | .sentinel name => [.sentinelSkipped name]
  | .undescribed name => [.undescribed name, .recorded f.source name]
  | .described name sentence =>
    (if Entry.startsLikeProse sentence then [] else [.discarded name sentence]) ++ [.recorded f.source name]

/-- All that a walk reports, in order. -/
def Walk.notes (w : Walk) : List Note := w.findings.flatMap Finding.notes

/-! ### Tables -/

/-- The entries of a reference. -/
structure Tables where
  flags : List Entry
  environment : List Entry
  deriving DecidableEq, Repr

/-- Puts an entry into a table: in the place of the entry of its name, or else at the end. -/
def upsert (e : Entry) : List Entry → List Entry
  | [] => [e]
  | d :: table => if d.name = e.name then e :: table else d :: upsert e table

/-- The flags among recorded entries, one of each name, before sorting. -/
def flagTable (recorded : List (Section × Entry)) : List Entry :=
  recorded.foldl (fun table (s, e) => if s.holdsFlags then upsert e table else table) []

/-- The environment variables among recorded entries. -/
def variableTable (recorded : List (Section × Entry)) : List Entry :=
  recorded.filterMap fun (s, e) => if s.holdsFlags then none else some e

/-- Why a document has no tables. -/
inductive Failure where
  /-- The document has a defect. -/
  | malformed (m : Malformed)
  /-- The name of a flag has no place in the order. -/
  | uncollatable (name : Text)
  deriving DecidableEq, Repr

/-- The tables of a walk that met no defect, provided that its flags can be put in order. -/
def Walk.tables (w : Walk) : Except Failure Tables :=
  match w.failure? with
  | some m => .error (.malformed m)
  | none =>
    match Collation.sortOn? Entry.name (flagTable w.recorded) with
    | .error name => .error (.uncollatable name)
    | .ok flags => .ok ⟨flags, variableTable w.recorded⟩

/-- The tables of a document, read from the given section on. -/
def extract (s : Section) (ls : List Text) : Except Failure Tables := (Walk.of s ls).tables

end Manpage
