import Manpage.Text.Basic

/-!
# Switches of the command

* `Switch` — the options that the command knows;
* `Switch.spellings` — how they are written, in the order in which messages list them;
* `Switch.label` — how a message names one.
-/

namespace Manpage.Command

/-- An option of the command. -/
inductive Switch where
  | help
  | output
  | check
  | list
  | require
  | verbose
  deriving DecidableEq, Repr

namespace Switch

/-- Every spelling with its switch. -/
def spellings : List (Text × Switch) := [
  ("-h".toList, help), ("--help".toList, help), ("-o".toList, output), ("--output".toList, output),
  ("--check".toList, check), ("--list".toList, list), ("--require".toList, require),
  ("-v".toList, verbose), ("--verbose".toList, verbose)]

/-- The spellings of one switch. -/
def spellingsOf (s : Switch) : List Text := (spellings.filter (·.2 = s)).map (·.1)

/-- The name of a switch in messages: its spellings with slashes between them. -/
def label (s : Switch) : Text := Text.joined ['/'] s.spellingsOf

/-- The switch that a text spells. -/
def ofSpelling? (t : Text) : Option Switch := spellings.lookup t

/-- Whether a switch takes a value. -/
def takesValue : Switch → Bool
  | output | require => true
  | help | check | list | verbose => false

/-- What stands for the value of a switch in the help. -/
def valueName? : Switch → Option Text
  | output => some "OUTPUT".toList
  | require => some "FILE".toList
  | help | check | list | verbose => none

end Switch

end Manpage.Command
