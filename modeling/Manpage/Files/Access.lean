import Manpage.Files.Path
import Manpage.Text.Decimal
import Manpage.Text.Quoted
import Manpage.Text.Utf8

/-!
# Access to files

What the command asks of the files around it, so that it can run on the files of a machine and on files held in
memory alike.

* `Cause` — why an access failed, with its wording and number;
* `Mishap`, `Fault` — what goes wrong with a file: it is not opened, or it breaks off once it is open; and that as it is
  told, with the path where that is known;
* `FileAccess` — reading, writing and making directories in a monad;
* `readFile`, `writeFile`, `kindAt?`, `makeDirectories` — accesses to a path; making a directory first makes those above
  it that are missing, as far as the headroom of the program goes.
-/

namespace Manpage

/-! ### Faults -/

/-- Why an access to a path was refused. -/
inductive Cause where
  | missing
  | exists
  | notDirectory
  | isDirectory
  | nameTooLong
  | tooManyLinks
  | other (code : Nat) (message : Text)
  deriving DecidableEq, Repr

/-- The number of a cause. -/
def Cause.code : Cause → Nat
  | .missing => 2
  | .exists => 17
  | .notDirectory => 20
  | .isDirectory => 21
  | .nameTooLong => 36
  | .tooManyLinks => 40
  | .other code _ => code

/-- The wording of a cause. -/
def Cause.message : Cause → Text
  | .missing => "No such file or directory".toList
  | .exists => "File exists".toList
  | .notDirectory => "Not a directory".toList
  | .isDirectory => "Is a directory".toList
  | .nameTooLong => "File name too long".toList
  | .tooManyLinks => "Too many levels of symbolic links".toList
  | .other _ message => message

/-- The causes that tell that nothing stands at a path, by their numbers: a name is missing or lies below a file, a
descriptor is bad, or links lead around in a circle. -/
def Cause.isAbsence (cause : Cause) : Bool := [2, 20, 9, 40].contains cause.code

/-- What goes wrong with a file that is to be read or written. -/
inductive Mishap where
  /-- It is not opened. -/
  | refused (cause : Cause)
  /-- Reading or writing breaks off once it is open. -/
  | cut (cause : Cause)
  deriving DecidableEq, Repr

/-- A failed access. -/
inductive Fault where
  /-- The access to a path was refused. -/
  | refused (cause : Cause) (path : Path)
  /-- Reading or writing an open file broke off. -/
  | cut (cause : Cause)
  /-- There is nothing to access, because the path holds a NUL. -/
  | nul
  /-- Too many directories above one another are missing. -/
  | tooDeep
  deriving DecidableEq, Repr

/-- What a refusal at a path is told as. -/
def Cause.at (path : Path) (cause : Cause) : Fault := .refused cause path

/-- What a mishap at a path is told as.  The path of an open file is no longer known. -/
def Mishap.at (path : Path) : Mishap → Fault
  | .refused cause => .refused cause path
  | .cut cause => .cut cause

/-- Number and wording of a cause. -/
def Cause.report (cause : Cause) : Text := "[Errno ".toList ++ Text.ofNat cause.code ++ "] ".toList ++ cause.message

/-- The wording of a fault: its cause, then the path between quotes. -/
def Fault.message : Fault → Text
  | .refused cause path => cause.report ++ ": ".toList ++ Text.quoted path.text
  | .cut cause => cause.report
  | .nul => "embedded null byte".toList
  | .tooDeep => "too many missing directories".toList

/-! ### Accesses -/

/-- What stands at a path. -/
inductive Kind where
  | file
  | directory
  deriving DecidableEq, Repr

/-- Files that a monad gives access to. -/
class FileAccess (m : Type → Type) where
  /-- The bytes of a file. -/
  read : Path → m (Except Mishap Bytes)
  /-- Makes a file or empties the one that is there, and writes to it. -/
  write : Path → Bytes → m (Except Mishap Unit)
  /-- Makes one directory. -/
  makeDirectory : Path → m (Except Cause Unit)
  /-- What stands at a path. -/
  kind : Path → m (Except Cause Kind)
  /-- The greatest number of directories that may be missing above the one that is made. -/
  headroom : m Nat

section
variable {m : Type → Type} [Monad m] [FileAccess m]

/-- The outcome of an access to a path, told in the given way where it fails; a path that holds a NUL is refused without
one. -/
def accessing {ε α : Type} (tell : Path → ε → Fault) (p : Path) (access : m (Except ε α)) : m (Except Fault α) := do
  if p.holdsNul then return .error .nul
  else return (← access).mapError (tell p)

/-- The bytes of the file at a path. -/
def readFile (p : Path) : m (Except Fault Bytes) := accessing Mishap.at p (FileAccess.read p)

/-- Writes the file at a path. -/
def writeFile (p : Path) (bs : Bytes) : m (Except Fault Unit) := accessing Mishap.at p (FileAccess.write p bs)

/-- What stands at a path, if anything does. -/
def kindAt? (p : Path) : m (Except Fault (Option Kind)) := do
  match ← accessing Cause.at p (FileAccess.kind p) with
  | .ok kind => return .ok (some kind)
  | .error .nul => return .ok none
  | .error (.refused cause path) => return if cause.isAbsence then .ok none else .error (.refused cause path)
  | .error fault => return .error fault

/-- Makes the directory at a path, unless it is there already. -/
def ensureDirectory (p : Path) : m (Except Fault Unit) := do
  match ← accessing Cause.at p (FileAccess.makeDirectory p) with
  | .ok () => return .ok ()
  | .error .nul => return .error .nul
  | .error (.refused .missing _) => return .error (.refused .missing p)
  | .error fault =>
    match ← kindAt? p with
    | .ok (some .directory) => return .ok ()
    | .ok _ => return .error fault
    | .error other => return .error other

/-- Makes the directory whose names are given back to front; where the directory above is missing, makes that one
first, and no more than so many. -/
def makeDirectoriesUp (anchor : Anchor) : (depth : Nat) → (namesUp : List Text) → m (Except Fault Unit)
  | 0, _ => return .error .tooDeep
  | _ + 1, [] => ensureDirectory ⟨anchor, []⟩
  | depth + 1, name :: above => do
    let p : Path := ⟨anchor, (name :: above).reverse⟩
    match ← ensureDirectory p with
    | .error (.refused .missing _) =>
      match ← makeDirectoriesUp anchor depth above with
      | .ok () => ensureDirectory p
      | .error fault => return .error fault
    | result => return result

/-- Makes the directory at a path and all directories above it that are missing. -/
def makeDirectories (p : Path) : m (Except Fault Unit) := do
  makeDirectoriesUp p.anchor ((← FileAccess.headroom) + 1) p.names.reverse

end

end Manpage
