import Manpage.Command.Run

/-!
# The command

The outer layer: the files of the machine, the arguments, the environment and the two outputs.  What is done with
them is `Command.run`.
-/

namespace Manpage.Main

open Command

/-- The cause that the machine gives by a number, sometimes with a minus sign, and in words. -/
def causeOfCode (code : UInt32) (details : String) : Cause :=
  match code.toInt32.toInt.natAbs with
  | 2 => .missing
  | 17 => .exists
  | 20 => .notDirectory
  | 21 => .isDirectory
  | 36 => .nameTooLong
  | 40 => .tooManyLinks
  | n => .other n details.toList

/-- The cause of a failed access to the files of the machine. -/
def causeOf (e : IO.Error) : Cause :=
  match e with
  | .noFileOrDirectory .. => .missing
  | .alreadyExists .. => .exists
  | .inappropriateType _ code details => causeOfCode code details
  | .noSuchThing _ code details => causeOfCode code details
  | .invalidArgument _ code details => causeOfCode code details
  | .permissionDenied _ code details => causeOfCode code details
  | .resourceExhausted _ code details => causeOfCode code details
  | .resourceBusy code details => causeOfCode code details
  | .otherError code details => causeOfCode code details
  | e => .other 0 (toString e).toList

/-- The result of an access to the files of the machine, or the cause of its failure. -/
def attempt {α : Type} (x : IO α) : IO (Except Cause α) := do
  match ← x.toBaseIO with
  | .ok a => return .ok a
  | .error e => return .error (causeOf e)

/-- A path as the machine takes it. -/
def native (p : Path) : String := String.ofList p.text

/-- Opens the file at a path and does something with it.  A directory is found out only then, but counts as not
opened. -/
def withFile {α : Type} (p : Path) (mode : IO.FS.Mode) (use : IO.FS.Handle → IO α) : IO (Except Mishap α) := do
  match ← attempt (IO.FS.Handle.mk (native p) mode) with
  | .error cause => return .error (.refused cause)
  | .ok handle =>
    match ← attempt (use handle) with
    | .error .isDirectory => return .error (.refused .isDirectory)
    | .error cause => return .error (.cut cause)
    | .ok a => return .ok a

/-- The number of directories that may be missing above one that is made: so far the command goes when nothing else is on
its stack. -/
def headroom : Nat := 991

instance : FileAccess IO where
  read p := withFile p .read fun handle => return (← handle.readBinToEnd).toList
  write p bytes := withFile p .write fun handle => do
    handle.write (ByteArray.mk bytes.toArray)
    handle.flush
  makeDirectory p := attempt (IO.FS.createDir (native p))
  kind p := attempt do
    let data ← (System.mkFilePath [native p]).metadata
    return if data.type == .dir then .directory else .file
  headroom := return headroom

/-- What is said about a run that stops without an exit status. -/
def complaint : Abort → Text
  | .undecodable fault => fault.message
  | .uncollatable name => "no place in the order for ".toList ++ Text.quoted name
  | .nulInPath => Fault.nul.message
  | .tooDeep => Fault.tooDeep.message
  | .nowhere _ => "no path given".toList
  | .unfillable fault => fault.message

/-- The exit status of a run; a run that stops without one says why. -/
def statusOf (ending : Ending) : IO UInt32 := do
  match ending with
  | .exit status => return status.toUInt32
  | .abort reason =>
    IO.eprintln (String.ofList (complaint reason))
    return 1

end Manpage.Main

open Manpage in
/-- Runs the command; the default paths lie below the directory that the environment names. -/
def main (arguments : List String) : IO UInt32 := do
  let root := (← IO.getEnv "MDMAN_ROOT").getD "."
  let defaults := Command.Defaults.below (Path.ofText root.toList)
  let outcome ← Command.run defaults (arguments.map String.toList)
  IO.print (String.ofList outcome.transcript.stdout)
  IO.eprint (String.ofList outcome.transcript.stderr)
  Main.statusOf outcome.ending
