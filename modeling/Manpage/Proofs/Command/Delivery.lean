import Manpage.Command.Run
import Manpage.Proofs.Files.Access

/-!
# Delivering a page on a tree

The steps of a run behind the tables, each with what it gives on a tree and the tree it leaves.

* `FileTree.text` — the text read at a path; `FileTree.Compiles` — a page that the file at a path gives;
* `written_cases` — writing ends in a tree with the page, if the writing does not break off, or in one that has only
  gained directories;
* `compared_eq_ok_iff` — comparing finds the page exactly if the file holds its bytes;
* `Request.closing` — how a run goes on behind a delivery; `closing_succeeds_iff`: it ends well exactly if the delivery
  did and `Request.IsCovered` holds, which is what the option list asks of the page;
* `run_publish` — all that is done behind the tables.
-/

namespace Manpage

namespace FileTree

variable {t u : FileTree} {p output : Path} {bytes : Bytes}

/-! ### Texts -/

/-- The text that reading the file at a path gives. -/
def text (t : FileTree) (p : Path) : Except Command.Obstacle Text :=
  match t.contents p with
  | .error fault => .error (.access fault)
  | .ok bytes => (Command.textOfBytes bytes).mapError .undecodable

theorem run_readText (p : Path) (t : FileTree) : t.run (Command.readText p) = (t.text p, t) := by
  rw [Command.readText, run_bind, run_readFile, text]
  cases t.contents p with
  | error fault => rfl
  | ok bytes => rfl

/-- A text is read from the bytes of a file: they are decoded, and its line ends become line feeds. -/
theorem text_eq_ok_iff {s : Text} :
    t.text p = .ok s ↔
      ∃ bytes raw, t.contents p = .ok bytes ∧ Utf8.decode bytes = .ok raw ∧ s = Text.normalised raw := by
  unfold text Command.textOfBytes
  cases t.contents p with
  | error fault => simp
  | ok bytes =>
    simp only [mapError_eq_ok_iff]
    cases hraw : Utf8.decode bytes with
    | error fault => simp [hraw, Except.map]
    | ok raw => simp [hraw, Except.map, eq_comm]

/-- The page that the file at a path gives. -/
def Compiles (t : FileTree) (source : Path) (page : Text) : Prop :=
  ∃ s, t.text source = .ok s ∧ Page.ofText Page.standardFrame s = .ok page

theorem Compiles.unique {source : Path} {page page' : Text} (h : t.Compiles source page)
    (h' : t.Compiles source page') : page = page' := by
  obtain ⟨s, hs, hpage⟩ := h
  obtain ⟨s', hs', hpage'⟩ := h'
  obtain rfl := Except.ok.inj (hs.symm.trans hs')
  exact Except.ok.inj (hpage.symm.trans hpage')

/-- A text can be read again where its file has the same bytes. -/
theorem text_of_grows (hgrow : t.Grows u.toNameTree) (hbytes : ∀ id, t.LeadsTo p id → u.bytes id = t.bytes id)
    {s : Text} (h : t.text p = .ok s) : u.text p = .ok s := by
  obtain ⟨bytes, raw, hcontents, hraw, hs⟩ := text_eq_ok_iff.1 h
  exact text_eq_ok_iff.2 ⟨bytes, raw, contents_of_grows hgrow hbytes hcontents, hraw, hs⟩

end FileTree

namespace Command

open FileTree (LeavesTree leavesTree_pure)

variable {t : FileTree} {page : Text}

/-! ### Writing the page -/

/-- Writing a page ends with the page in its file, as far as that keeps it, or with nothing but directories added. -/
theorem writePage_cases (page : Text) (output : Path) (t : FileTree) :
    (∃ fault u, t.AddsDirectories u ∧ t.run (writePage page output) = (.error fault, u)) ∨
      ∃ u l id, t.HasPage u output (Utf8.encode page) l id ∧
        t.run (writePage page output) = (FileTree.writeEnd (t.rules.kept l (Utf8.encode page)).stop?, u) := by
  have hadd := FileTree.addsDirectories_makeDirectories output.parent t
  rw [writePage, FileTree.run_bind]
  generalize t.run (makeDirectories output.parent) = made at hadd
  obtain ⟨result, v⟩ := made
  cases result with
  | error fault => exact Or.inl ⟨fault, v, hadd, rfl⟩
  | ok =>
    rcases FileTree.writeFile_cases output (Utf8.encode page) v with ⟨fault, hrun⟩ | ⟨l, id, names, hnul, hopen⟩
    · exact Or.inl ⟨fault, v, hadd, hrun⟩
    · have hrules : v.rules = t.rules := hadd.names.grows.rules_eq
      refine Or.inr ⟨_, l, id, FileTree.hasPage_of_opens hadd hnul (NameTree.opens_of_openToWrite hopen), ?_⟩
      rw [← hrules]
      exact FileTree.run_writeFile_of_openToWrite hnul hopen _

/-- Where a path leads to a file that may be written, the page is written to it, and no directory is made. -/
theorem run_writePage_of_file {output : Path} (hnul : output.holdsNul = false) {l : Location} {id : FileId}
    (hl : t.locate output = .ok l) (hnode : t.node? l = some (.file id))
    (hrefusal : t.rules.refusal? .write l = none) (page : Text) :
    t.run (writePage page output) =
      (FileTree.writeEnd (t.rules.kept l (Utf8.encode page)).stop?,
        t.setBytes id (t.rules.kept l (Utf8.encode page)).bytes) := by
  rw [writePage, FileTree.run_bind,
    FileTree.run_makeDirectories_of_directory (FileTree.holdsNul_parent hnul) (NameTree.at?_parent hl)]
  exact FileTree.run_writeFile_of_openToWrite hnul (NameTree.openToWrite_of_file hl hnode hrefusal) _

/-- What writing the page gives, by what broke it off. -/
def writtenEnd (output : Path) : Option Refusal → Except Obstacle Delivery
  | none => .ok ⟨output, "Wrote ".toList ++ output.text ++ ['\n'], 0⟩
  | some refusal => .error (.access (.cut refusal.cause))

theorem run_written_of_writePage {output : Path} {stop? : Option Refusal} {u : FileTree}
    (h : t.run (writePage page output) = (FileTree.writeEnd stop?, u)) :
    t.run (written page (.path output)) = (writtenEnd output stop?, u) := by
  rw [written, FileTree.run_bind, h]
  cases stop? with
  | none => rfl
  | some refusal => rfl

theorem written_cases (page : Text) (target : Target) (t : FileTree) :
    (∃ obstacle u, t.AddsDirectories u ∧ t.run (written page target) = (.error obstacle, u)) ∨
      ∃ output u l id, target = .path output ∧ t.HasPage u output (Utf8.encode page) l id ∧
        t.run (written page target) = (writtenEnd output (t.rules.kept l (Utf8.encode page)).stop?, u) := by
  cases target with
  | nowhere => exact Or.inl ⟨.nowhere .directory, t, FileTree.AddsDirectories.refl t, rfl⟩
  | path output =>
    rcases writePage_cases page output t with ⟨fault, u, hadd, hrun⟩ | ⟨u, l, id, hpage, hrun⟩
    · refine Or.inl ⟨.access fault, u, hadd, ?_⟩
      rw [written, FileTree.run_bind, hrun]
      rfl
    · exact Or.inr ⟨output, u, l, id, rfl, hpage, run_written_of_writePage hrun⟩

/-! ### Comparing the page -/

theorem leavesTree_isUpToDate (page : Text) (output : Path) : LeavesTree (isUpToDate page output) := by
  refine (FileTree.leavesTree_kindAt? output).bind ?_
  intro found
  split
  · exact leavesTree_pure _
  · exact leavesTree_pure _
  · refine (FileTree.leavesTree_readFile output).bind ?_
    intro bytes
    exact leavesTree_pure _

/-- A page is up to date exactly if the file at its path holds its bytes. -/
theorem isUpToDate_iff (page : Text) (output : Path) (t : FileTree) :
    (t.run (isUpToDate page output)).1 = .ok true ↔ t.contents output = .ok (Utf8.encode page) := by
  have hread : t.run ((readFile output : StateM FileTree (Except Fault Bytes)) >>= fun found =>
      pure (found.map (· == Utf8.encode page))) = ((t.contents output).map (· == Utf8.encode page), t) := by
    rw [FileTree.run_bind, FileTree.run_readFile]
    rfl
  have hequal : (t.contents output).map (· == Utf8.encode page) = .ok true ↔
      t.contents output = .ok (Utf8.encode page) := by
    cases t.contents output with
    | error fault => simp [Except.map]
    | ok bytes => simp [Except.map]
  have hstays := FileTree.leavesTree_kindAt? output t
  rw [isUpToDate, FileTree.run_bind, ← hequal]
  constructor
  · intro h
    generalize t.run (kindAt? output) = looked at h hstays
    obtain ⟨found, u⟩ := looked
    obtain rfl : u = t := hstays
    match found, h with
    | .ok (some _), h => exact (congrArg Prod.fst hread).symm.trans h
  · intro h
    obtain ⟨hnul, -⟩ := FileTree.contents_eq_ok_iff.1 (hequal.1 h)
    obtain ⟨l, id, hl, hnode, -⟩ := FileTree.exists_file_of_contents (hequal.1 h)
    rw [FileTree.run_kindAt?_of_at? hnul (NameTree.at?_eq_ok_iff.2 ⟨l, hl, hnode⟩)]
    exact (congrArg Prod.fst hread).trans h

theorem leavesTree_compared (page : Text) (target : Target) : LeavesTree (compared page target) := by
  cases target with
  | nowhere => exact leavesTree_pure _
  | path output =>
    refine (leavesTree_isUpToDate page output).bind ?_
    intro found
    split <;> exact leavesTree_pure _

theorem run_compared (page : Text) (target : Target) (t : FileTree) :
    t.run (compared page target) = ((t.run (compared page target)).1, t) :=
  Prod.ext rfl (leavesTree_compared page target t)

/-- Comparing ends well exactly if the file at the path of the page holds its bytes. -/
theorem compared_eq_ok_iff {target : Target} {d : Delivery} :
    (t.run (compared page target)).1 = .ok d ∧ d.status = 0 ↔
      ∃ output, target = .path output ∧ t.contents output = .ok (Utf8.encode page) ∧
        d = ⟨output, output.text ++ " is up to date\n".toList, 0⟩ := by
  cases target with
  | nowhere =>
    constructor
    · rintro ⟨h, -⟩
      cases h
    · rintro ⟨output, h, -⟩
      cases h
  | path output =>
    rw [compared, FileTree.run_bind]
    generalize hcompared : t.run (isUpToDate page output) = result
    have hiff := isUpToDate_iff page output t
    rw [hcompared] at hiff
    obtain ⟨found, u⟩ := result
    simp only [Target.path.injEq, exists_eq_left', ← hiff]
    match found with
    | .error fault =>
      constructor
      · rintro ⟨h, -⟩
        cases h
      · rintro ⟨h, -⟩
        cases h
    | .ok false =>
      constructor
      · rintro ⟨h, hstatus⟩
        cases h
        cases hstatus
      · rintro ⟨h, -⟩
        cases h
    | .ok true =>
      constructor
      · rintro ⟨h, -⟩
        cases h
        exact ⟨rfl, rfl⟩
      · rintro ⟨-, rfl⟩
        exact ⟨rfl, rfl⟩

/-! ### What remains behind the delivery -/

/-- The option list of a request can be read, and a page documents every option in it. -/
def Request.IsCovered (r : Request) (page : Text) (t : FileTree) : Prop :=
  ∀ target, r.require? = some target →
    ∃ list s, target = .path list ∧ t.text list = .ok s ∧ Page.undocumented (readOptionList s) page = []

theorem Obstacle.ending_outcome_ne (o : Obstacle) : o.outcome.ending ≠ .exit 0 := by
  cases o with
  | access fault => cases fault <;> simp [Obstacle.outcome, Outcome.failed]
  | undecodable fault => simp [Obstacle.outcome]
  | nowhere need => simp [Obstacle.outcome]

/-- What is printed for a page and a list that was read, and how the run ends. -/
def checked (verbosity : Nat) (page : Text) (d : Delivery) (list : Text) : Outcome :=
  let missing := Page.undocumented (readOptionList list) page
  ⟨(requireRecord (readOptionList list) missing).print verbosity ++ .printed (missing.flatMap (missingLine d.output)),
    .exit (if missing = [] then d.status else 1)⟩

/-- How a run closes behind a delivery, on the tree that the delivery leaves. -/
def Request.closing (r : Request) (page : Text) (t : FileTree) : Except Obstacle Delivery → Outcome
  | .error obstacle => obstacle.outcome
  | .ok d =>
    match r.require? with
    | none => ⟨.printed d.line, .exit d.status⟩
    | some .nowhere => (Obstacle.nowhere .content).outcome.after (.printed d.line)
    | some (.path list) =>
      match t.text list with
      | .error obstacle => obstacle.outcome.after (.printed d.line)
      | .ok s => (checked r.verbosity page d s).after (.printed d.line)

theorem run_afterDelivery (r : Request) (page : Text) (delivered : Except Obstacle Delivery) (t : FileTree) :
    t.run (afterDelivery r page delivered) = (r.closing page t delivered, t) := by
  cases delivered with
  | error obstacle => rfl
  | ok d =>
    unfold afterDelivery Request.closing
    cases r.require? with
    | none => rfl
    | some target =>
      cases target with
      | nowhere => rfl
      | path list =>
        show t.run (checkOptions r.verbosity page d (.path list) >>= _) = _
        rw [FileTree.run_bind, checkOptions, FileTree.run_bind, FileTree.run_readText]
        dsimp only
        cases t.text list with
        | error obstacle => rfl
        | ok s => rfl

/-- A run closes well behind a delivery exactly if the delivery ended well and the page is covered. -/
theorem closing_succeeds_iff (r : Request) (page : Text) (t : FileTree) (delivered : Except Obstacle Delivery) :
    (r.closing page t delivered).ending = .exit 0 ↔
      ∃ d, delivered = .ok d ∧ d.status = 0 ∧ r.IsCovered page t := by
  cases delivered with
  | error obstacle => simp [Request.closing, obstacle.ending_outcome_ne]
  | ok d =>
    simp only [Except.ok.injEq, exists_eq_left']
    unfold Request.closing Request.IsCovered
    cases r.require? with
    | none => simp
    | some target =>
      cases target with
      | nowhere => simp [Outcome.after, Obstacle.outcome]
      | path list =>
        cases hlist : t.text list with
        | error obstacle =>
          have hending : (obstacle.outcome.after (.printed d.line)).ending ≠ .exit 0 := obstacle.ending_outcome_ne
          simp [hending, hlist]
        | ok s =>
          by_cases hmissing : Page.undocumented (readOptionList s) page = []
          · simp [checked, Outcome.after, hlist, hmissing]
          · simp [checked, Outcome.after, hlist, hmissing]

/-! ### Publishing -/

/-- Behind the tables a run leaves what the delivery leaves, and closes as that asks. -/
theorem run_publish {r : Request} {tables : Tables}
    {deliver : Text → Target → StateM FileTree (Except Obstacle Delivery)} {delivered : Except Obstacle Delivery}
    {u : FileTree} (h : t.run (deliver (Page.ofTables Page.standardFrame tables) r.output) = (delivered, u)) :
    t.run (publish r tables deliver) =
      ((r.closing (Page.ofTables Page.standardFrame tables) u delivered).after
        ((tablesRecord tables).print r.verbosity), u) := by
  rw [publish, FileTree.run_bind, h]
  show u.run (afterDelivery r _ delivered >>= _) = _
  rw [FileTree.run_bind, run_afterDelivery]
  rfl

end Command

end Manpage
