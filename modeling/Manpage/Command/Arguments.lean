import Manpage.Command.Switch
import Manpage.Files.Path
import Manpage.Text.Quoted
import Manpage.Unicode.Digit

/-!
# Arguments of the command

Arguments are sorted into words first, each on its own; then the words are taken from left to right.  A long switch
may be shortened as long as one switch is meant, and its value may follow an equals sign.  Short switches may be
bundled, and a value may be attached to the last of them.  After `--` every argument is an operand.

* `UsageError` — why arguments make no sense, and `UsageError.message`;
* `Word`, `Word.ofArgument` — what an argument is;
* `Bundle` — the switches in one word;
* `Settings` — what the arguments have set so far;
* `Target`, `Request` — where a run reads and writes, and what it is asked to do;
* `Invocation.ofArguments` — what the arguments ask for.
-/

namespace Manpage.Command

open Unicode

/-! ### Errors -/

/-- Why arguments make no sense. -/
inductive UsageError where
  /-- A shortened switch may stand for several. -/
  | ambiguous (argument : Text) (matching : List Text)
  /-- A switch does not go with an earlier one. -/
  | conflict (later earlier : Switch)
  /-- The value of a switch is missing. -/
  | valueMissing (switch : Switch)
  /-- A value is given to a switch that takes none. -/
  | valueIgnored (switch : Switch) (value : Text)
  /-- Some arguments have no meaning. -/
  | unrecognized (arguments : List Text)
  /-- An option list cannot be checked while the tables are only listed. -/
  | requireWithList
  deriving DecidableEq, Repr

/-- The wording of an error. -/
def UsageError.message : UsageError → Text
  | .ambiguous argument matching =>
    "ambiguous option: ".toList ++ argument ++ " could match ".toList ++ Text.joined ", ".toList matching
  | .conflict later earlier =>
    "argument ".toList ++ later.label ++ ": not allowed with argument ".toList ++ earlier.label
  | .valueMissing switch => "argument ".toList ++ switch.label ++ ": expected one argument".toList
  | .valueIgnored switch value =>
    "argument ".toList ++ switch.label ++ ": ignored explicit argument ".toList ++ Text.quoted value
  | .unrecognized arguments => "unrecognized arguments: ".toList ++ Text.joined [' '] arguments
  | .requireWithList => "--require cannot be combined with --list".toList

/-! ### Words -/

/-- What an argument is. -/
inductive Word where
  /-- An argument that is not a switch. -/
  | operand (text : Text)
  /-- The argument `--`. -/
  | divider
  /-- A switch in a long or a short spelling, with what is attached to it, after an equals sign or directly. -/
  | switch (switch : Switch) (long : Bool) (attached? : Option Text)
  /-- An argument that looks like a switch and is none. -/
  | unknown (text : Text)
  deriving DecidableEq, Repr

/-- Whether an argument is a negative number, which is not taken for a switch.  A line feed may follow it. -/
def isNegativeNumber : Text → Bool
  | '-' :: t =>
    let number := if t.getLast? = some '\n' then t.dropLast else t
    match number.dropWhile isDecimal with
    | [] => number ≠ []
    | '.' :: fraction => fraction ≠ [] && fraction.all isDecimal
    | _ => false
  | _ => false

/-- An argument cut at its first equals sign. -/
def cutAtEquals (t : Text) : Text × Option Text :=
  match t.dropWhile (· ≠ '=') with
  | [] => (t, none)
  | _ :: value => (t.takeWhile (· ≠ '='), some value)

/-- Whether a spelling is a long one. -/
def isLong : Text → Bool
  | '-' :: '-' :: _ => true
  | _ => false

/-- The word for an argument that starts with a dash and is no spelling, nor one with a value after an equals sign:
a shortened long switch, a short switch with something attached, or no switch at all. -/
def Word.ofRest (t : Text) : Except UsageError Word :=
  let other := if isNegativeNumber t || t.contains ' ' then Word.operand t else Word.unknown t
  match t with
  | '-' :: '-' :: _ =>
    let (front, attached?) := cutAtEquals t
    match Switch.spellings.filter fun s => Text.opensWith front s.1 with
    | [] => .ok other
    | [(_, s)] => .ok (.switch s true attached?)
    | several => .error (.ambiguous t (several.map (·.1)))
  | '-' :: c :: attached =>
    match Switch.ofSpelling? ['-', c] with
    | some s => .ok (.switch s false (some attached))
    | none => .ok other
  | _ => .ok other

/-- The word for one argument other than `--`. -/
def Word.ofArgument (t : Text) : Except UsageError Word :=
  if !Text.opensWith ['-'] t then .ok (.operand t)
  else match Switch.ofSpelling? t with
  | some s => .ok (.switch s (isLong t) none)
  | none =>
    if t = ['-'] then .ok (.operand t)
    else
      let (front, attached?) := cutAtEquals t
      match attached?, Switch.ofSpelling? front with
      | some attached, some s => .ok (.switch s (isLong front) (some attached))
      | _, _ => Word.ofRest t

/-- The words for arguments; after `--` all are operands. -/
def Word.ofArguments : List Text → Except UsageError (List Word)
  | [] => .ok []
  | t :: ts =>
    if t = ['-', '-'] then .ok (.divider :: ts.map .operand)
    else do
      let w ← Word.ofArgument t
      return w :: (← Word.ofArguments ts)

/-! ### Bundles -/

/-- The switches in one word, each with its value if it has one, and a last switch that takes its value from the next
word. -/
structure Bundle where
  switches : List (Switch × Option Text)
  awaiting? : Option Switch
  deriving DecidableEq, Repr

/-- A switch with nothing attached. -/
def Bundle.alone (s : Switch) : Bundle := if s.takesValue then ⟨[], some s⟩ else ⟨[(s, none)], none⟩

/-- A switch with its value. -/
def Bundle.valued (s : Switch) (value : Text) : Bundle := ⟨[(s, some value)], none⟩

/-- A bundle with one more switch in front. -/
def Bundle.push (s : Switch) (b : Bundle) : Bundle := { b with switches := (s, none) :: b.switches }

/-- A short switch with something attached: its value, or further short switches without their dashes. -/
def Bundle.ofShort (s : Switch) : (attached : Text) → Except UsageError Bundle
  | [] => if s.takesValue then .ok (Bundle.valued s []) else .error (.valueIgnored s [])
  | c :: rest =>
    if s.takesValue then .ok (Bundle.valued s (c :: rest))
    else match Switch.ofSpelling? ['-', c] with
    | none => .error (.valueIgnored s (c :: rest))
    | some next =>
      if rest = [] then .ok ((Bundle.alone next).push s) else (Bundle.ofShort next rest).map (·.push s)

/-- The bundle of a switch with what is attached to it. -/
def Bundle.of (s : Switch) (long : Bool) (attached? : Option Text) : Except UsageError Bundle :=
  match attached? with
  | none => .ok (Bundle.alone s)
  | some attached =>
    if !long then Bundle.ofShort s attached
    else if s.takesValue then .ok (Bundle.valued s attached)
    else .error (.valueIgnored s attached)

/-! ### Settings -/

/-- What a run does with the page, or instead of making it. -/
inductive Mode where
  | write
  | check
  | list
  deriving DecidableEq, Repr

/-- What arguments have set. -/
structure Settings where
  source? : Option Text
  output? : Option Text
  require? : Option Text
  mode : Mode
  verbosity : Nat
  /-- Arguments without a meaning, in order. -/
  extras : List Text
  deriving DecidableEq, Repr

namespace Settings

/-- Nothing set. -/
def initial : Settings := ⟨none, none, none, .write, 0, []⟩

/-- What the switches of a bundle set, in their order; nothing if one of them asks for help. -/
def apply (s : Settings) : List (Switch × Option Text) → Except UsageError (Option Settings)
  | [] => .ok (some s)
  | (.help, _) :: _ => .ok none
  | (.output, value?) :: rest => apply { s with output? := value? } rest
  | (.require, value?) :: rest => apply { s with require? := value? } rest
  | (.verbose, _) :: rest => apply { s with verbosity := s.verbosity + 1 } rest
  | (.check, _) :: rest =>
    if s.mode = .list then .error (.conflict .check .list) else apply { s with mode := .check } rest
  | (.list, _) :: rest =>
    if s.mode = .check then .error (.conflict .list .check) else apply { s with mode := .list } rest

/-- Adds an argument without a meaning. -/
def addExtra (s : Settings) (t : Text) : Settings := { s with extras := s.extras ++ [t] }

/-- The settings after the words, taken from left to right; nothing if one of them asks for help.  The first operand
is the source; a divider right after it, or before any source, is passed over. -/
def ofWords (s : Settings) : List Word → Except UsageError (Option Settings)
  | [] => .ok (some s)
  | .divider :: ws => if s.source? = none then ofWords s ws else ofWords (s.addExtra ['-', '-']) ws
  | .unknown t :: ws => ofWords (s.addExtra t) ws
  | .operand t :: ws =>
    if s.source? ≠ none then ofWords (s.addExtra t) ws
    else match ws with
    | .divider :: rest => ofWords { s with source? := some t } rest
    | ws => ofWords { s with source? := some t } ws
  | .switch switch long attached? :: ws =>
    match Bundle.of switch long attached? with
    | .error e => .error e
    | .ok b =>
      match b.awaiting?, ws with
      | some last, .operand t :: rest =>
        match s.apply (b.switches ++ [(last, some t)]) with
        | .error e => .error e
        | .ok none => .ok none
        | .ok (some s) => ofWords s rest
      | some last, _ => .error (.valueMissing last)
      | none, ws =>
        match s.apply b.switches with
        | .error e => .error e
        | .ok none => .ok none
        | .ok (some s) => ofWords s ws

end Settings

/-! ### Invocations -/

/-- Where a run reads or writes: at a path, or nowhere. -/
inductive Target where
  | path (path : Path)
  | nowhere
  deriving DecidableEq, Repr

/-- The target that the value of a switch names; the divider `--` names none. -/
def Target.ofValue (value : Text) : Target :=
  if value = ['-', '-'] then .nowhere else .path (Path.ofText value)

/-- What a run of the command is asked to do. -/
structure Request where
  source : Path
  output : Target
  require? : Option Target
  mode : Mode
  verbosity : Nat
  deriving DecidableEq, Repr

/-- The paths taken where no argument gives one. -/
structure Defaults where
  source : Path
  output : Path
  deriving DecidableEq, Repr

/-- The default paths below a root. -/
def Defaults.below (root : Path) : Defaults :=
  ⟨root ++ Path.ofText "doc/api/cli.md".toList, root ++ Path.ofText "doc/node.1".toList⟩

/-- What arguments ask for. -/
inductive Invocation where
  | help
  | run (request : Request)
  deriving DecidableEq, Repr

/-- The request that settings make. -/
def Settings.request (d : Defaults) (s : Settings) : Request where
  source := (s.source?.map Path.ofText).getD d.source
  output := (s.output?.map Target.ofValue).getD (.path d.output)
  require? := s.require?.map Target.ofValue
  mode := s.mode
  verbosity := s.verbosity

/-- What the arguments ask for. -/
def Invocation.ofArguments (d : Defaults) (ts : List Text) : Except UsageError Invocation := do
  match ← Settings.initial.ofWords (← Word.ofArguments ts) with
  | none => return .help
  | some s =>
    if s.extras ≠ [] then throw (.unrecognized s.extras)
    else if s.mode = .list ∧ s.require? ≠ none then throw .requireWithList
    else return .run (s.request d)

end Manpage.Command
