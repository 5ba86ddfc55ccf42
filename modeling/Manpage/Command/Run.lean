import Manpage.Command.Help
import Manpage.Files.Access
import Manpage.Page.Assembly
import Manpage.Page.Mention
import Manpage.Page.OptionList
import Manpage.Text.Newline

/-!
# A run of the command

* `Transcript` — what a run prints, and `Outcome`, how it ends as well;
* `LogRecord` — a report of progress, printed if the run is verbose enough;
* `listing` — the two tables as they are printed;
* `Obstacle` — what keeps a run from going on, and `Obstacle.outcome`;
* `readText` — the text of a file, with line feeds for its line ends;
* `written`, `compared`, `checkOptions` — writing the page, comparing it with the file, and checking it against an
  option list;
* `publish`, `Request.perform`, `run` — making and delivering the page, and the whole run.
-/

namespace Manpage.Command

/-! ### What a run prints -/

/-- Text for the two outputs of a run. -/
structure Transcript where
  stdout : Text
  stderr : Text
  deriving DecidableEq, Repr

namespace Transcript

/-- Nothing printed. -/
def empty : Transcript := ⟨[], []⟩

/-- What one transcript prints and then another. -/
def append (a b : Transcript) : Transcript := ⟨a.stdout ++ b.stdout, a.stderr ++ b.stderr⟩

instance : Append Transcript := ⟨append⟩

/-- Text on the standard output. -/
def printed (t : Text) : Transcript := ⟨t, []⟩

/-- Text on the error output. -/
def reported (t : Text) : Transcript := ⟨[], t⟩

end Transcript

/-- What a run needs of a target. -/
inductive Need where
  /-- The directory that holds it. -/
  | directory
  /-- Whether anything stands there. -/
  | presence
  /-- The text of the file there. -/
  | content
  deriving DecidableEq, Repr

/-- A condition that ends a run without an exit status. -/
inductive Abort where
  /-- A file that should be text is not UTF-8. -/
  | undecodable (fault : Utf8.Fault)
  /-- A name has no place in the order of the table. -/
  | uncollatable (name : Text)
  /-- A path holds a NUL. -/
  | nulInPath
  /-- Too many directories above the page are missing. -/
  | tooDeep
  /-- A path is needed and the target is nowhere. -/
  | nowhere (need : Need)
  /-- A text of the help cannot be filled. -/
  | unfillable (fault : Template.Fault)
  deriving DecidableEq, Repr

/-- How a run ends. -/
inductive Ending where
  | exit (status : Nat)
  | abort (reason : Abort)
  deriving DecidableEq, Repr

/-- What a run prints and how it ends. -/
structure Outcome where
  transcript : Transcript
  ending : Ending
  deriving DecidableEq, Repr

namespace Outcome

/-- An outcome after something else was printed. -/
def after (t : Transcript) (o : Outcome) : Outcome := { o with transcript := t ++ o.transcript }

/-- The run ends because of an error that it reports. -/
def failed (message : Text) : Outcome := ⟨.reported ("error: ".toList ++ message ++ ['\n']), .exit 1⟩

end Outcome

/-! ### Reports of progress -/

/-- How much a run has to be asked for to print a report. -/
inductive Level where
  | info
  | debug
  deriving DecidableEq, Repr

/-- The word for a level in a report. -/
def Level.name : Level → Text
  | .info => "INFO".toList
  | .debug => "DEBUG".toList

/-- The verbosity from which on a level is printed. -/
def Level.threshold : Level → Nat
  | .info => 1
  | .debug => 2

/-- A report of progress: the part of the work that makes it, and what it says. -/
structure LogRecord where
  level : Level
  part : Text
  message : Text
  deriving DecidableEq, Repr

/-- A report, if the verbosity asks for it. -/
def LogRecord.print (verbosity : Nat) (r : LogRecord) : Transcript :=
  if r.level.threshold ≤ verbosity then
    .reported (r.level.name ++ ' ' :: r.part ++ ": ".toList ++ r.message ++ ['\n'])
  else .empty

/-- The report of a note of the walk. -/
def noteRecord (n : Note) : LogRecord := ⟨.debug, "mdman.markdown.records".toList, n.message⟩

/-- The reports of a walk. -/
def printNotes (verbosity : Nat) (w : Walk) : Transcript :=
  (w.notes.map fun n => (noteRecord n).print verbosity).foldr Transcript.append .empty

/-- The report of the size of the tables. -/
def tablesRecord (t : Tables) : LogRecord :=
  ⟨.info, "mdman.compiler".toList,
    "Extracted ".toList ++ Text.ofNat t.flags.length ++ " options and ".toList
      ++ Text.ofNat t.environment.length ++ " environment variables".toList⟩

/-- The report of a check against an option list. -/
def requireRecord (options missing : List Text) : LogRecord :=
  ⟨.info, "mdman.cli".toList,
    "Checked ".toList ++ Text.ofNat options.length ++ " options, ".toList
      ++ Text.ofNat missing.length ++ " missing".toList⟩

/-! ### Listing -/

/-- A table as it is printed: a title with the number of entries, then a line for each of them. -/
def tableListing (title : Text) (entries : List Entry) : Text :=
  title ++ " (".toList ++ Text.ofNat entries.length ++ "):\n".toList
    ++ entries.flatMap fun e => ' ' :: ' ' :: Text.padRight 40 e.name ++ ' ' :: e.description ++ ['\n']

/-- The two tables as they are printed. -/
def listing (t : Tables) : Text :=
  tableListing "Options".toList t.flags ++ tableListing "Environment variables".toList t.environment

/-! ### Obstacles -/

/-- What keeps a run from going on. -/
inductive Obstacle where
  /-- An access to a file failed. -/
  | access (fault : Fault)
  /-- A file that should be text is not UTF-8. -/
  | undecodable (fault : Utf8.Fault)
  /-- A path is needed and the target is nowhere. -/
  | nowhere (need : Need)
  deriving DecidableEq, Repr

/-- The outcome of a run that an obstacle ends.  Only an access that is refused or breaks off is reported. -/
def Obstacle.outcome : Obstacle → Outcome
  | .access (.refused cause path) => .failed (Fault.refused cause path).message
  | .access (.cut cause) => .failed (Fault.cut cause).message
  | .access .nul => ⟨.empty, .abort .nulInPath⟩
  | .access .tooDeep => ⟨.empty, .abort .tooDeep⟩
  | .undecodable f => ⟨.empty, .abort (.undecodable f)⟩
  | .nowhere need => ⟨.empty, .abort (.nowhere need)⟩

/-- The outcome of a run on a document that has no tables. -/
def failureOutcome (source : Path) : Failure → Outcome
  | .malformed m => .failed (source.text ++ ": ".toList ++ m.diagnostic.render)
  | .uncollatable name => ⟨.empty, .abort (.uncollatable name)⟩

/-! ### Files -/

/-- The text of the bytes of a file, with line feeds for its line ends. -/
def textOfBytes (bs : Bytes) : Except Utf8.Fault Text := (Utf8.decode bs).map Text.normalised

section
variable {m : Type → Type} [Monad m] [FileAccess m]

/-- The text of the file at a path. -/
def readText (p : Path) : m (Except Obstacle Text) := do
  match ← readFile p with
  | .error f => return .error (.access f)
  | .ok bs => return (textOfBytes bs).mapError .undecodable

/-- Whether the file at a path holds the page. -/
def isUpToDate (page : Text) (output : Path) : m (Except Fault Bool) := do
  match ← kindAt? output with
  | .error f => return .error f
  | .ok none => return .ok false
  | .ok (some _) => return (← readFile output).map (· == Utf8.encode page)

/-- Writes the page, with the directories above it. -/
def writePage (page : Text) (output : Path) : m (Except Fault Unit) := do
  match ← makeDirectories output.parent with
  | .error f => return .error f
  | .ok () => writeFile output (Utf8.encode page)

/-- What was done with the page: the path it was done at, the line that tells so, and the exit status. -/
structure Delivery where
  output : Path
  line : Text
  status : Nat
  deriving DecidableEq, Repr

/-- Writes the page. -/
def written (page : Text) : Target → m (Except Obstacle Delivery)
  | .nowhere => return .error (.nowhere .directory)
  | .path output => do
    match ← writePage page output with
    | .error f => return .error (.access f)
    | .ok () => return .ok ⟨output, "Wrote ".toList ++ output.text ++ ['\n'], 0⟩

/-- Compares the page with what is there. -/
def compared (page : Text) : Target → m (Except Obstacle Delivery)
  | .nowhere => return .error (.nowhere .presence)
  | .path output => do
    match ← isUpToDate page output with
    | .error f => return .error (.access f)
    | .ok true => return .ok ⟨output, output.text ++ " is up to date\n".toList, 0⟩
    | .ok false => return .ok ⟨output, output.text ++ " is out of date\n".toList, 1⟩

/-- What is printed for an option that the page does not document. -/
def missingLine (output : Path) (option : Text) : Text :=
  "Missing option ".toList ++ option ++ " in ".toList ++ output.text ++ ['\n']

/-- Checks the delivered page against an option list; the status is 1 if an option is missing, else that of the
delivery. -/
def checkOptions (verbosity : Nat) (page : Text) (d : Delivery) : Target → m Outcome
  | .nowhere => return (Obstacle.nowhere .content).outcome
  | .path list => do
    match ← readText list with
    | .error o => return o.outcome
    | .ok text =>
      let options := readOptionList text
      let missing := Page.undocumented options page
      return ⟨(requireRecord options missing).print verbosity
          ++ .printed (missing.flatMap (missingLine d.output)),
        .exit (if missing = [] then d.status else 1)⟩

/-- What remains to be done with a delivered page: telling so, and the check against the option list, if there is
one. -/
def afterDelivery (r : Request) (page : Text) : Except Obstacle Delivery → m Outcome
  | .error o => return o.outcome
  | .ok d =>
    match r.require? with
    | none => return ⟨.printed d.line, .exit d.status⟩
    | some list => return (← checkOptions r.verbosity page d list).after (.printed d.line)

/-- Makes the page of two tables, delivers it in the given way, and does what remains to be done. -/
def publish (r : Request) (tables : Tables) (deliver : Text → Target → m (Except Obstacle Delivery)) :
    m Outcome := do
  let page := Page.ofTables Page.standardFrame tables
  let delivered ← deliver page r.output
  return (← afterDelivery r page delivered).after ((tablesRecord tables).print r.verbosity)

/-- Does what a request asks for. -/
def Request.perform (r : Request) : m Outcome := do
  match ← readText r.source with
  | .error o => return o.outcome
  | .ok text =>
    let walk := Walk.of .other (Text.lines text)
    let notes := printNotes r.verbosity walk
    match walk.tables with
    | .error f => return (failureOutcome r.source f).after notes
    | .ok tables =>
      match r.mode with
      | .list => return ⟨notes ++ .printed (listing tables), .exit 0⟩
      | .write => return (← publish r tables written).after notes
      | .check => return (← publish r tables compared).after notes

/-- A run of the command with arguments and default paths. -/
def run (d : Defaults) (arguments : List Text) : m Outcome :=
  match Invocation.ofArguments d arguments with
  | .error e => return ⟨.reported (usageFailure e), .exit 2⟩
  | .ok .help =>
    match help d with
    | .error f => return ⟨.empty, .abort (.unfillable f)⟩
    | .ok text => return ⟨.printed text, .exit 0⟩
  | .ok (.run r) => r.perform

end

end Manpage.Command
