import Manpage.Files.Access

/-!
# Files in memory

A tree of files, directories and links, and a program that runs in one directory of it.  A file is known by a number, so
that several names may lead to one file.

* `Location` — a place in the tree, down from the root;
* `Rules` — which accesses are refused where, and what a file keeps of what is written to it;
* `NameTree` — what stands at which location; `NameTree.follow` goes along the names of a path, through links, and finds
  out whether all directories on the way exist and may be searched; `locate` follows a path to its end;
* `FileTree` — the names and the bytes of the files;
* the instance of `FileAccess` for programs that keep a tree as their state;
* `FileTree.changes` — the regular files in which two trees differ;
* `FileTree.empty` — a machine on which a program runs in an empty directory, and `addDirectory`, `addFile`, which put
  something there.
-/

namespace Manpage

/-! ### Places -/

/-- A place in the tree: the names that lead there from the root. -/
structure Location where
  names : Array Text
  deriving DecidableEq, Repr

namespace Location

/-- The root. -/
def root : Location := ⟨#[]⟩

/-- The location of a name in the directory at a location.  Nothing lies above the root. -/
def child (l : Location) (name : Text) : Location :=
  if name = ['.', '.'] then ⟨l.names.pop⟩ else ⟨l.names.push name⟩

/-- Whether a location lies on the way from the root to another, or is that one. -/
def isOnWayTo (l m : Location) : Bool := l.names.toList.isPrefixOf m.names.toList

end Location

/-- The number of a file. -/
abbrev FileId := Nat

/-- What a tree holds at a location. -/
inductive Node where
  | file (id : FileId)
  | directory
  deriving DecidableEq, Repr

/-- What kind a node is of. -/
def Node.kind : Node → Kind
  | .file _ => .file
  | .directory => .directory

/-! ### Rules -/

/-- What may be done at a location: to look up a name in the directory, to read or write the file, to make a
directory. -/
inductive Permission where
  | search
  | read
  | write
  | make
  deriving DecidableEq, Repr

/-- The number and the wording of a refusal, which the causes with a name of their own do not share. -/
structure Refusal where
  code : Nat
  message : Text
  apart : code ∉ [2, 17, 20, 21, 36, 40]
  deriving DecidableEq, Repr

/-- A refusal as a cause. -/
def Refusal.cause (refusal : Refusal) : Cause := .other refusal.code refusal.message

/-- What a file keeps of the bytes that are written to it, and the refusal that breaks the writing off, if one does. -/
structure Kept where
  bytes : Bytes
  stop? : Option Refusal
  deriving DecidableEq, Repr

/-- How a machine answers to accesses. -/
structure Rules where
  /-- The refusal of an access, if it is refused. -/
  refusal? : Permission → Location → Option Refusal
  /-- The refusal that breaks off reading a file once it is open, if one does. -/
  unread? : Location → Option Refusal
  /-- What becomes of bytes that are written to the file at a location. -/
  kept : Location → Bytes → Kept

/-! ### Names -/

/-- What a program finds on a machine and does not change: the directory in which it runs, the links and where they
lead, the rules, and the number of directories that may be missing above one that it makes. -/
structure Setting where
  here : Location
  links : List (Location × Path)
  rules : Rules
  headroom : Nat

/-- The names of a tree: what stands at which location. -/
structure NameTree extends Setting where
  nodes : List (Location × Node)

namespace NameTree

/-- What stands at a location; the directory at hand and those above it are always there. -/
def node? (t : NameTree) (l : Location) : Option Node :=
  if l.isOnWayTo t.here then some .directory else t.nodes.lookup l

/-- Puts a node at a location. -/
def put (t : NameTree) (l : Location) (n : Node) : NameTree :=
  { t with nodes := (l, n) :: t.nodes.filter (·.1 ≠ l) }

/-- Takes away what stands at a location. -/
def erase (t : NameTree) (l : Location) : NameTree := { t with nodes := t.nodes.filter (·.1 ≠ l) }

/-- A number that no file has. -/
def freshId (t : NameTree) : FileId :=
  t.nodes.foldr (fun (_, n) next =>
    match n with
    | .file id => max (id + 1) next
    | .directory => next) 0

/-! ### Following a path -/

/-- The greatest number of bytes in a name. -/
def maxNameSize : Nat := 255

/-- The greatest number of bytes in the text of a path. -/
def maxPathSize : Nat := 4095

/-- The greatest number of links that are followed on the way of one path. -/
def maxLinks : Nat := 40

/-- Looks up a name in what stands at a location. -/
def enter (t : NameTree) (l : Location) (name : Text) : Except Cause Location :=
  match t.node? l with
  | none => .error .missing
  | some (.file _) => .error .notDirectory
  | some .directory =>
    match t.rules.refusal? .search l with
    | some refusal => .error refusal.cause
    | none => if maxNameSize < (Utf8.encode name).length then .error .nameTooLong else .ok (l.child name)

/-- The location from which a path is followed that is found in a directory. -/
def start (directory : Location) : Anchor → Location
  | .here => directory
  | .root => .root
  | .twoSlashes => .root

/-- Follows names from a location, and goes on in the given way where there is a link.  A link at the end may be all
that was looked for. -/
def followWith (t : NameTree) (throughLast : Bool) (jump : Location → List Text → Except Cause Location) :
    Location → List Text → Except Cause Location
  | l, [] => .ok l
  | l, name :: names =>
    match t.enter l name with
    | .error cause => .error cause
    | .ok m =>
      match t.links.lookup m with
      | none => followWith t throughLast jump m names
      | some target =>
        if names = [] ∧ throughLast = false then .ok m else jump (start l target.anchor) (target.names ++ names)

/-- Follows names from a location, through no more than so many links. -/
def follow (t : NameTree) (throughLast : Bool) : (links : Nat) → Location → List Text → Except Cause Location
  | 0 => t.followWith throughLast fun _ _ => .error .tooManyLinks
  | links + 1 => t.followWith throughLast (follow t throughLast links)

/-- The location of a path, behind a link at its end or not. -/
def resolve (t : NameTree) (throughLast : Bool) (p : Path) : Except Cause Location :=
  if maxPathSize < (Utf8.encode p.text).length then .error .nameTooLong
  else t.follow throughLast maxLinks (start t.here p.anchor) p.names

/-- The location to which a path leads. -/
def locate (t : NameTree) (p : Path) : Except Cause Location := t.resolve true p

/-- What stands at a path. -/
def at? (t : NameTree) (p : Path) : Except Cause Node := do
  match t.node? (← t.locate p) with
  | none => .error .missing
  | some n => .ok n

/-! ### Accesses to names -/

/-- Opens a file to read it: its location, and the file. -/
def openToRead (t : NameTree) (p : Path) : Except Cause (Location × FileId) := do
  let l ← t.locate p
  match t.node? l with
  | none => .error .missing
  | some n =>
    match t.rules.refusal? .read l, n with
    | some refusal, _ => .error refusal.cause
    | none, .file id => .ok (l, id)
    | none, .directory => .error .isDirectory

/-- Opens a file to write it, and makes it if it is missing: its location, the file, and the names then. -/
def openToWrite (t : NameTree) (p : Path) : Except Cause (Location × FileId × NameTree) := do
  let l ← t.locate p
  match t.node? l, t.rules.refusal? .write l with
  | some .directory, _ => .error .isDirectory
  | _, some refusal => .error refusal.cause
  | some (.file id), none => .ok (l, id, t)
  | none, none => .ok (l, t.freshId, t.put l (.file t.freshId))

/-- The names after making a directory. -/
def makeDirectory (t : NameTree) (p : Path) : Except Cause NameTree := do
  let l ← t.resolve false p
  match t.links.lookup l, t.node? l, t.rules.refusal? .make l with
  | some _, _, _ => .error .exists
  | none, some _, _ => .error .exists
  | none, none, some refusal => .error refusal.cause
  | none, none, none => .ok (t.put l .directory)

/-- The names without that of the file at a path. -/
def remove (t : NameTree) (p : Path) : Except Cause NameTree := do
  let l ← t.resolve false p
  match t.node? l with
  | none => .error .missing
  | some .directory => .error .isDirectory
  | some (.file _) => .ok (t.erase l)

/-- The kind of what stands at a path. -/
def kind (t : NameTree) (p : Path) : Except Cause Kind := (t.at? p).map Node.kind

end NameTree

/-! ### Files -/

/-- A tree of files: the names, and the bytes of the files. -/
structure FileTree extends NameTree where
  files : List (FileId × Bytes)

namespace FileTree

/-- The bytes of a file. -/
def bytes (t : FileTree) (id : FileId) : Bytes := (t.files.lookup id).getD []

/-- Gives a file other bytes. -/
def setBytes (t : FileTree) (id : FileId) (bytes : Bytes) : FileTree :=
  { t with files := (id, bytes) :: t.files.filter (·.1 ≠ id) }

/-- The bytes of the file at a location, if there is one. -/
def bytes? (t : FileTree) (l : Location) : Option Bytes :=
  match t.node? l with
  | some (.file id) => some (t.bytes id)
  | _ => none

/-- The bytes of the file at a path. -/
def read (t : FileTree) (p : Path) : Except Mishap Bytes :=
  match t.openToRead p with
  | .error cause => .error (.refused cause)
  | .ok (l, id) =>
    match t.rules.unread? l with
    | some refusal => .error (.cut refusal.cause)
    | none => .ok (t.bytes id)

/-- The tree with other names. -/
def renamed (t : FileTree) (names : NameTree) : FileTree := { t with toNameTree := names }

/-- The tree after a file was opened and written to, and the refusal that broke the writing off, if one did. -/
def write (t : FileTree) (p : Path) (bytes : Bytes) : Except Cause (Option Refusal × FileTree) := do
  let (l, id, names) ← t.openToWrite p
  let kept := t.rules.kept l bytes
  .ok (kept.stop?, (t.renamed names).setBytes id kept.bytes)

/-- The tree without the file at a path. -/
def remove (t : FileTree) (p : Path) : Except Cause FileTree := (t.toNameTree.remove p).map t.renamed

instance : FileAccess (StateM FileTree) where
  read p := fun t => (t.read p, t)
  write p bytes := fun t =>
    match t.write p bytes with
    | .error cause => (.error (.refused cause), t)
    | .ok (none, u) => (.ok (), u)
    | .ok (some refusal, u) => (.error (.cut refusal.cause), u)
  makeDirectory p := fun t =>
    match t.makeDirectory p with
    | .error cause => (.error cause, t)
    | .ok names => (.ok (), t.renamed names)
  kind p := fun t => (t.kind p, t)
  headroom := fun t => (t.headroom, t)

/-! ### Differences -/

/-- The locations below the directory at hand in which two trees hold different bytes, told from that directory, with
the bytes of the second tree there. -/
def changes (before after : FileTree) : List (Location × Option Bytes) :=
  (((before.nodes ++ after.nodes).map (·.1)).eraseDups.filter fun l =>
    before.here.isOnWayTo l && before.bytes? l ≠ after.bytes? l).map fun l =>
      (⟨l.names.extract before.here.names.size⟩, after.bytes? l)

/-! ### Machines -/

/-- The device that forgets what is written to it. -/
def nullDevice : Location := ⟨#["dev".toList, "null".toList]⟩

/-- The device that is always full. -/
def fullDevice : Location := ⟨#["dev".toList, "full".toList]⟩

/-- The file with the name of the running program, which keeps fifteen bytes and ends in a line feed. -/
def nameFile : Location := ⟨#["proc".toList, "self".toList, "comm".toList]⟩

/-- The refusal of a device that is full. -/
def noSpace : Refusal := ⟨28, "No space left on device".toList, by decide⟩

/-- The rules of a machine that refuses nothing.  But for three files, a file keeps what is written to it. -/
def openRules : Rules where
  refusal? _ _ := none
  unread? _ := none
  kept l bytes :=
    if l = nullDevice then ⟨[], none⟩
    else if l = fullDevice then ⟨[], some noSpace⟩
    else if l = nameFile then ⟨bytes.take 15 ++ [10], none⟩
    else ⟨bytes, none⟩

/-- A machine that refuses nothing.  The directory in which the program runs is empty. -/
def empty : FileTree where
  here := ⟨#["tmp".toList, "w".toList]⟩
  links := []
  rules := openRules
  headroom := 988
  nodes :=
    [(⟨#["dev".toList]⟩, .directory), (nullDevice, .file 0), (fullDevice, .file 1),
      (⟨#["proc".toList]⟩, .directory), (⟨#["proc".toList, "self".toList]⟩, .directory), (nameFile, .file 2)]
  files := []

/-- The location of a name in the directory in which the program runs on that machine. -/
def workFile (name : Text) : Location := empty.here.child name

/-- The tree with one more directory. -/
def addDirectory (t : FileTree) (l : Location) : FileTree := t.renamed (t.put l .directory)

/-- The tree with one more file. -/
def addFile (t : FileTree) (l : Location) (bytes : Bytes) : FileTree :=
  (t.renamed (t.put l (.file t.freshId))).setBytes t.freshId bytes

end FileTree

end Manpage
