import Manpage.Command.Arguments
import Manpage.Text.Template
import Manpage.Text.Wrap

/-!
# The help of the command

The meanings of the source and of the output show the paths taken by default.  They are templates, so a percent sign in
such a path opens a directive, and the help can fail.

* `usage` — the line that shows how the command is called;
* `meaningFields` — what the directives of a meaning may name;
* `help` — the usage, then what every argument means, in two columns.
-/

namespace Manpage.Command

/-- The name of the command. -/
def programName : Text := "mdman".toList

/-- How the command is called. -/
def usage : Text :=
  "usage: ".toList ++ programName
    ++ " [-h] [-o OUTPUT] [--check | --list] [--require FILE] [-v] [input]\n".toList

/-- What is printed for arguments that make no sense. -/
def usageFailure (e : UsageError) : Text :=
  usage ++ programName ++ ": error: ".toList ++ e.message ++ ['\n']

/-! ### Columns -/

/-- The column at which meanings begin. -/
def meaningColumn : Nat := 24

/-- The width of a meaning. -/
def meaningWidth : Nat := 54

/-- An argument and its meaning: side by side if the argument leaves two blanks between them, else the meaning
below. -/
def helpItem (argument meaning : Text) : Text :=
  let indent : Text := List.replicate meaningColumn ' '
  let lines := Text.wrap meaningWidth (by decide) (Text.trim (Text.squeezed meaning))
  let head : Text := ' ' :: ' ' :: argument
  let rows :=
    if head.length + 2 ≤ meaningColumn then
      match lines with
      | [] => [head]
      | l :: ls => (Text.padRight meaningColumn head ++ l) :: ls.map (indent ++ ·)
    else head :: lines.map (indent ++ ·)
  rows.flatMap (· ++ ['\n'])

/-- How a switch is written in the help: each spelling, with what stands for its value. -/
def invocationText (s : Switch) : Text :=
  Text.joined ", ".toList (s.spellingsOf.map fun t =>
    match s.valueName? with
    | none => t
    | some v => t ++ ' ' :: v)

/-! ### Meanings -/

/-- The fields of the meaning of an argument: what is known about the argument, and the meaning itself, not filled. -/
def meaningFields (spellings : List Text) (name : Text) (count : Template.Value) (path : Path) (meaning : Text) :
    List (Text × Template.Value) := [
  ("option_strings".toList, .texts spellings), ("dest".toList, .text name), ("nargs".toList, count),
  ("const".toList, .nothing), ("default".toList, .path path.text), ("type".toList, .text "Path".toList),
  ("choices".toList, .nothing), ("required".toList, .no), ("help".toList, .text meaning),
  ("metavar".toList, .nothing), ("container".toList, .thing "argparse".toList "_ArgumentGroup".toList),
  ("prog".toList, .text programName)]

/-- A meaning filled with fields.  Its blanks are squeezed before it is printed (`Text.squeezed`), so that one of them is
as good as many. -/
def filledMeaning (fields : List (Text × Template.Value)) (meaning : Text) : Except Template.Fault Text :=
  Template.fill ⟨fields, fun n => List.replicate (min n 1) ' '⟩ meaning

/-- The meaning of the operand. -/
def sourceMeaning (d : Defaults) : Except Template.Fault Text :=
  let meaning := "Markdown source (default: ".toList ++ d.source.text ++ [')']
  filledMeaning (meaningFields [] "input".toList (.text ['?']) d.source meaning) meaning

/-- The meaning of the switch for the output. -/
def outputMeaning (d : Defaults) : Except Template.Fault Text :=
  let meaning := "Manual page to write (default: ".toList ++ d.output.text ++ [')']
  filledMeaning (meaningFields Switch.output.spellingsOf "output".toList .nothing d.output meaning) meaning

/-- The meaning of a switch, given that of the one for the output. -/
def switchMeaning (output : Text) : Switch → Text
  | .help => "show this help message and exit".toList
  | .output => output
  | .check => "Fail if the output file differs from the generated page instead of writing it".toList
  | .list => "Print the extracted options and environment variables instead of writing the page".toList
  | .require => "File listing option spellings that must appear in the page".toList
  | .verbose => "Increase log verbosity (-v, -vv)".toList

/-- The whole help. -/
def help (d : Defaults) : Except Template.Fault Text := do
  let source ← sourceMeaning d
  let output ← outputMeaning d
  return usage
    ++ "\nGenerate an mdoc(7) manual page from a Markdown CLI reference.\n".toList
    ++ "\npositional arguments:\n".toList
    ++ helpItem "input".toList source
    ++ "\noptions:\n".toList
    ++ [Switch.help, .output, .check, .list, .require, .verbose].flatMap
        (fun s => helpItem (invocationText s) (switchMeaning output s))
    ++ "\nExample: ".toList ++ programName ++ " doc/api/cli.md -o doc/node.1\n".toList

end Manpage.Command
