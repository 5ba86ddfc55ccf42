import Manpage.Text.Decimal

/-!
# Malformed documents

A reference is malformed in three ways only, each found at one line.

* `Defect` — what is wrong, with its wording `Defect.message`;
* `Malformed` — a defect with its line, counted from zero; a line before the first has a negative number;
* `Diagnostic` — a message with a line or without one, and the form in which it is shown, `Diagnostic.render`.
-/

namespace Manpage

/-- What can be wrong with a reference. -/
inductive Defect where
  /-- The prose of an entry has no end of a sentence outside quotation. -/
  | noSentence
  /-- The comment below a heading is not closed. -/
  | unterminatedComment
  /-- No line of prose follows a heading. -/
  | missingDescription
  deriving DecidableEq, Repr

/-- The wording of a defect. -/
def Defect.message : Defect → Text
  | .noSentence => "Could not find sentence.".toList
  | .unterminatedComment => "Unterminated comment after heading.".toList
  | .missingDescription => "Document ended before description.".toList

/-- A defect and the line at which it was found, counted from zero. -/
structure Malformed where
  defect : Defect
  line : Int
  deriving DecidableEq, Repr

/-- A message, at a line or at none. -/
structure Diagnostic where
  message : Text
  line? : Option Int
  deriving DecidableEq, Repr

/-- A diagnostic as it is shown: the message, then the line counted from one. -/
def Diagnostic.render (d : Diagnostic) : Text :=
  match d.line? with
  | none => d.message
  | some n => d.message ++ " (line ".toList ++ Text.ofInt (n + 1) ++ [')']

/-- The diagnostic for a malformed document. -/
def Malformed.diagnostic (m : Malformed) : Diagnostic := ⟨m.defect.message, some m.line⟩

end Manpage
