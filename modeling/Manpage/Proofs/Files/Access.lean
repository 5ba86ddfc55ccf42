import Manpage.Proofs.Files.Tree

/-!
# Accesses to a tree

What the accesses of the command give on a tree, and what they leave of it.

* `FileTree.run` — a program run on a tree, with what it gives and the tree after it;
* `LeavesTree` — a program that only looks; `leavesTree_readFile`, `leavesTree_kindAt?`;
* `FileTree.standing?` — what is found at a path (`run_kindAt?`);
* `FileTree.contents` — what reading a file gives, and `contents_of_grows`, when it gives that again;
* `writeFile_cases` — a file is opened and written to, or the tree stays as it is;
* `addsDirectories_makeDirectories` — making directories, whether it comes to its end or not, only adds directories;
* `run_ensureDirectory_of_error` — what a directory that was not made comes to; `run_makeDirectories_of_directory`:
  nothing changes where the directory is there.
-/

namespace Manpage

/-- A program run on a tree: what it gives, and the tree after it. -/
def FileTree.run {α : Type} (t : FileTree) (x : StateM FileTree α) : α × FileTree := x t

namespace FileTree

variable {α β : Type} {t u : FileTree} {p : Path}

/-! ### Programs on a tree -/

theorem run_bind (x : StateM FileTree α) (f : α → StateM FileTree β) (t : FileTree) :
    t.run (x >>= f) = (t.run x).2.run (f (t.run x).1) := rfl

/-- A program that leaves every tree as it is. -/
def LeavesTree (x : StateM FileTree α) : Prop := ∀ t : FileTree, (t.run x).2 = t

theorem leavesTree_pure (a : α) : LeavesTree (pure a) := fun _ => rfl

theorem LeavesTree.bind {x : StateM FileTree α} {f : α → StateM FileTree β} (hx : LeavesTree x)
    (hf : ∀ a, LeavesTree (f a)) : LeavesTree (x >>= f) := by
  intro t
  rw [run_bind, hf, hx]

/-- A program that only adds directories to a tree. -/
def OnlyAddsDirectories (x : StateM FileTree α) : Prop := ∀ t : FileTree, t.AddsDirectories (t.run x).2

theorem LeavesTree.onlyAddsDirectories {x : StateM FileTree α} (hx : LeavesTree x) : OnlyAddsDirectories x := by
  intro t
  rw [hx t]
  exact AddsDirectories.refl t

theorem OnlyAddsDirectories.bind {x : StateM FileTree α} {f : α → StateM FileTree β} (hx : OnlyAddsDirectories x)
    (hf : ∀ a, OnlyAddsDirectories (f a)) : OnlyAddsDirectories (x >>= f) :=
  fun t => (hx t).trans (hf (t.run x).1 (t.run x).2)

/-! ### Accesses to a path -/

section
variable {ε : Type} {tell : Path → ε → Fault}

theorem run_accessing_of_holdsNul (h : p.holdsNul = true) (access : StateM FileTree (Except ε α)) (t : FileTree) :
    t.run (accessing tell p access) = (.error .nul, t) := by
  rw [accessing, if_pos h]
  rfl

theorem run_accessing (h : p.holdsNul = false) (access : StateM FileTree (Except ε α)) (t : FileTree) :
    t.run (accessing tell p access) = ((t.run access).1.mapError (tell p), (t.run access).2) := by
  rw [accessing, if_neg (Bool.eq_false_iff.1 h)]
  rfl

theorem leavesTree_accessing {access : StateM FileTree (Except ε α)} (h : LeavesTree access) (p : Path) :
    LeavesTree (accessing tell p access) := by
  intro t
  cases hnul : p.holdsNul with
  | true => rw [run_accessing_of_holdsNul hnul]
  | false =>
    rw [run_accessing hnul]
    exact h t

end

theorem leavesTree_readFile (p : Path) : LeavesTree (readFile p) := leavesTree_accessing (fun _ => rfl) p

theorem leavesTree_kindAt? (p : Path) : LeavesTree (kindAt? p) := by
  refine LeavesTree.bind (leavesTree_accessing (fun _ => rfl) p) ?_
  intro found
  split <;> exact leavesTree_pure _

/-- What is found at a path, if anything is. -/
def standing? (t : FileTree) (p : Path) : Except Fault (Option Kind) :=
  match t.at? p with
  | .ok n => .ok (some n.kind)
  | .error cause => if cause.isAbsence then .ok none else .error (.refused cause p)

theorem run_kindAt? (hnul : p.holdsNul = false) (t : FileTree) : t.run (kindAt? p) = (t.standing? p, t) := by
  have haccess : t.run (FileAccess.kind p : StateM FileTree (Except Cause Kind)) = (t.kind p, t) := rfl
  rw [kindAt?, run_bind, run_accessing hnul, haccess, NameTree.kind, standing?]
  cases t.at? p with
  | ok n => rfl
  | error cause => rfl

/-- What stands at a path is found, unless the path holds a NUL. -/
theorem run_kindAt?_of_at? (hnul : p.holdsNul = false) {n : Node} (h : t.at? p = .ok n) :
    t.run (kindAt? p) = (.ok (some n.kind), t) := by
  rw [run_kindAt? hnul, standing?, h]

/-! ### Reading -/

/-- What reading the file at a path gives. -/
def contents (t : FileTree) (p : Path) : Except Fault Bytes :=
  if p.holdsNul then .error .nul else (t.read p).mapError (Mishap.at p)

theorem run_readFile (p : Path) (t : FileTree) : t.run (readFile p) = (t.contents p, t) := by
  unfold readFile contents
  cases h : p.holdsNul with
  | true =>
    rw [run_accessing_of_holdsNul h]
    rfl
  | false =>
    rw [run_accessing h]
    rfl

/-- Naming an error in another way does not touch what was found. -/
theorem mapError_eq_ok_iff {ε δ : Type} {x : Except ε α} {f : ε → δ} {a : α} : x.mapError f = .ok a ↔ x = .ok a := by
  cases x with
  | error e =>
    constructor
    · intro h
      cases h
    · intro h
      cases h
  | ok found =>
    show Except.ok found = Except.ok a ↔ _
    rw [Except.ok.injEq, Except.ok.injEq]

theorem contents_eq_ok_iff {bytes : Bytes} :
    t.contents p = .ok bytes ↔ p.holdsNul = false ∧ t.read p = .ok bytes := by
  unfold contents
  cases h : p.holdsNul with
  | true => simp
  | false => simp [mapError_eq_ok_iff]

/-- What can be read is a file to which the path leads. -/
theorem exists_file_of_contents {bytes : Bytes} (h : t.contents p = .ok bytes) :
    ∃ l id, t.locate p = .ok l ∧ t.node? l = some (.file id) ∧ t.bytes id = bytes := by
  obtain ⟨-, hread⟩ := contents_eq_ok_iff.1 h
  obtain ⟨l, id, hopen, -, hbytes⟩ := read_eq_ok_iff.1 hread
  obtain ⟨hl, hnode, -⟩ := NameTree.openToRead_eq_ok_iff.1 hopen
  exact ⟨l, id, hl, hnode, hbytes⟩

/-- A file can be read again where it has the same bytes. -/
theorem contents_of_grows (hgrow : t.Grows u.toNameTree) (hbytes : ∀ id, t.LeadsTo p id → u.bytes id = t.bytes id)
    {bytes : Bytes} (h : t.contents p = .ok bytes) : u.contents p = .ok bytes := by
  obtain ⟨hnul, hread⟩ := contents_eq_ok_iff.1 h
  exact contents_eq_ok_iff.2 ⟨hnul, read_of_grows hgrow hbytes hread⟩

/-! ### Writing -/

/-- How writing an open file ends. -/
def writeEnd : Option Refusal → Except Fault Unit
  | none => .ok ()
  | some refusal => .error (.cut refusal.cause)

theorem run_write (p : Path) (bytes : Bytes) (t : FileTree) :
    t.run (FileAccess.write p bytes : StateM FileTree (Except Mishap Unit)) =
      match t.write p bytes with
      | .error cause => (.error (.refused cause), t)
      | .ok (none, u) => (.ok (), u)
      | .ok (some refusal, u) => (.error (.cut refusal.cause), u) := rfl

/-- A file that is opened is written to, and keeps of that what the rules say. -/
theorem run_writeFile_of_openToWrite (hnul : p.holdsNul = false) {l : Location} {id : FileId} {names : NameTree}
    (h : t.openToWrite p = .ok (l, id, names)) (bytes : Bytes) :
    t.run (writeFile p bytes) =
      (writeEnd (t.rules.kept l bytes).stop?, (t.renamed names).setBytes id (t.rules.kept l bytes).bytes) := by
  rw [writeFile, run_accessing hnul, run_write, write, h]
  simp only [bind, Except.bind]
  cases (t.rules.kept l bytes).stop? with
  | none => rfl
  | some refusal => rfl

/-- A file is opened and written to, or the tree stays as it is. -/
theorem writeFile_cases (p : Path) (bytes : Bytes) (t : FileTree) :
    (∃ fault, t.run (writeFile p bytes) = (.error fault, t)) ∨
      ∃ l id names, p.holdsNul = false ∧ t.openToWrite p = .ok (l, id, names) := by
  cases hnul : p.holdsNul with
  | true => exact Or.inl ⟨.nul, run_accessing_of_holdsNul hnul _ t⟩
  | false =>
    cases hopen : t.openToWrite p with
    | ok opened =>
      obtain ⟨l, id, names⟩ := opened
      exact Or.inr ⟨l, id, names, rfl, rfl⟩
    | error cause =>
      refine Or.inl ⟨.refused cause p, ?_⟩
      rw [writeFile, run_accessing hnul, run_write, write, hopen]
      rfl

/-! ### Making directories -/

theorem run_makeDirectory (p : Path) (t : FileTree) :
    t.run (FileAccess.makeDirectory p : StateM FileTree (Except Cause Unit)) =
      match t.makeDirectory p with
      | .error cause => (.error cause, t)
      | .ok names => (.ok (), t.renamed names) := rfl

theorem onlyAddsDirectories_makeDirectory (p : Path) :
    OnlyAddsDirectories (accessing Cause.at p (FileAccess.makeDirectory p : StateM FileTree (Except Cause Unit))) := by
  intro t
  cases hnul : p.holdsNul with
  | true =>
    rw [run_accessing_of_holdsNul hnul]
    exact AddsDirectories.refl t
  | false =>
    rw [run_accessing hnul, run_makeDirectory]
    cases hmake : t.makeDirectory p with
    | error cause => exact AddsDirectories.refl t
    | ok names => exact ⟨NameTree.addsDirectories_of_makeDirectory hmake, rfl⟩

theorem onlyAddsDirectories_ensureDirectory (p : Path) : OnlyAddsDirectories (ensureDirectory p) := by
  refine (onlyAddsDirectories_makeDirectory p).bind ?_
  intro made
  apply LeavesTree.onlyAddsDirectories
  split
  · exact leavesTree_pure _
  · exact leavesTree_pure _
  · exact leavesTree_pure _
  · refine (leavesTree_kindAt? p).bind ?_
    intro found
    split <;> exact leavesTree_pure _

theorem onlyAddsDirectories_makeDirectoriesUp (anchor : Anchor) (depth : Nat) (namesUp : List Text) :
    OnlyAddsDirectories (makeDirectoriesUp anchor depth namesUp) := by
  induction depth generalizing namesUp with
  | zero =>
    rw [makeDirectoriesUp]
    exact (leavesTree_pure _).onlyAddsDirectories
  | succ depth ih =>
    cases namesUp with
    | nil =>
      rw [makeDirectoriesUp]
      exact onlyAddsDirectories_ensureDirectory _
    | cons name above =>
      rw [makeDirectoriesUp]
      refine (onlyAddsDirectories_ensureDirectory _).bind ?_
      intro made
      split
      · refine (ih above).bind ?_
        intro result
        split
        · exact onlyAddsDirectories_ensureDirectory _
        · exact (leavesTree_pure _).onlyAddsDirectories
      · exact (leavesTree_pure _).onlyAddsDirectories

/-- All directories are made that the headroom allows for. -/
theorem run_makeDirectories (p : Path) (t : FileTree) :
    t.run (makeDirectories p) = t.run (makeDirectoriesUp p.anchor (t.headroom + 1) p.names.reverse) := rfl

/-- Making directories only adds directories, also where it fails on its way. -/
theorem addsDirectories_makeDirectories (p : Path) (t : FileTree) : t.AddsDirectories (t.run (makeDirectories p)).2 :=
  onlyAddsDirectories_makeDirectoriesUp p.anchor (t.headroom + 1) p.names.reverse t

/-- What a directory that was not made comes to, by what stands at its path. -/
def settled (fault : Fault) : Except Fault (Option Kind) → Except Fault Unit
  | .ok (some .directory) => .ok ()
  | .ok _ => .error fault
  | .error other => .error other

theorem run_ensureDirectory_of_error (hnul : p.holdsNul = false) {cause : Cause} (hcause : cause ≠ .missing)
    (h : t.makeDirectory p = .error cause) :
    t.run (ensureDirectory p) = (settled (.refused cause p) (t.standing? p), t) := by
  have hmade : t.run (accessing Cause.at p (FileAccess.makeDirectory p : StateM FileTree (Except Cause Unit))) =
      (.error (.refused cause p), t) := by
    rw [run_accessing hnul, run_makeDirectory, h]
    rfl
  rw [ensureDirectory, run_bind, hmade]
  dsimp only
  split
  · next heq => cases heq
  · next heq => cases heq
  · next heq =>
    cases heq
    exact absurd rfl hcause
  · next heq =>
    cases heq
    rw [run_bind, run_kindAt? hnul]
    unfold settled
    rcases t.standing? p with other | _ | (_ | _) <;> rfl

theorem run_ensureDirectory_of_directory (hnul : p.holdsNul = false) (h : t.at? p = .ok .directory) :
    t.run (ensureDirectory p) = (.ok (), t) := by
  rw [run_ensureDirectory_of_error hnul (by decide) (NameTree.makeDirectory_of_at? h), standing?, h]
  rfl

theorem run_makeDirectoriesUp_of_directory {anchor : Anchor} {names : List Text}
    (hnul : Path.holdsNul ⟨anchor, names⟩ = false) (h : t.at? ⟨anchor, names⟩ = .ok .directory) (depth : Nat) :
    t.run (makeDirectoriesUp anchor (depth + 1) names.reverse) = (.ok (), t) := by
  have hensure := run_ensureDirectory_of_directory hnul h
  rcases List.eq_nil_or_concat names with rfl | ⟨before, name, rfl⟩
  · exact hensure
  · have hup : (before.concat name).reverse = name :: before.reverse := by simp
    have hdown : (name :: before.reverse).reverse = before.concat name := by simp
    rw [hup, makeDirectoriesUp, run_bind, hdown, hensure]
    rfl

theorem holdsNul_parent (h : p.holdsNul = false) : p.parent.holdsNul = false := by
  rw [Path.holdsNul, List.any_eq_false] at h ⊢
  intro name hname
  exact h name ((List.dropLast_sublist p.names).subset hname)

/-- Where the directory is there, none is made. -/
theorem run_makeDirectories_of_directory (hnul : p.holdsNul = false) (h : t.at? p = .ok .directory) :
    t.run (makeDirectories p) = (.ok (), t) :=
  run_makeDirectoriesUp_of_directory hnul h t.headroom

end FileTree

end Manpage
