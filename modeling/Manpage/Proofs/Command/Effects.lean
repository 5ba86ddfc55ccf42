import Manpage.Proofs.Command.Delivery

/-!
# What a run leaves of the files

A run reads, compiles, and only then writes; so all it can change is the file of the page, and that gets the bytes of
the whole page, of which it keeps what it can.

* `run_perform_of_not_compiles`, `run_perform_of_list`, `run_perform_publish` — a request on a tree: nothing is done
  with a source that gives no page; else its tables are listed, or the page is delivered and the run closes;
* `run_tree` — the tree after a run of the command: as before, with some directories more, or with the page in its file;
  `grows_after_run`, `run_tree_of_forall`, `bytes_after_run_of_not_leadsTo`: what stays for sure.
-/

namespace Manpage.Command

variable {r : Request} {t : FileTree} {page : Text}

/-! ### A request on a tree -/

theorem compiles_iff {source : Path} :
    t.Compiles source page ↔
      ∃ s tables, t.text source = .ok s ∧ extract .other (Text.lines s) = .ok tables ∧
        page = Page.ofTables Page.standardFrame tables := by
  constructor
  · rintro ⟨s, hs, hpage⟩
    rw [Page.ofText] at hpage
    cases htables : extract .other (Text.lines s) with
    | error failure =>
      rw [htables] at hpage
      cases hpage
    | ok tables =>
      rw [htables] at hpage
      simp only [Except.map, Except.ok.injEq] at hpage
      exact ⟨s, tables, hs, htables, hpage.symm⟩
  · rintro ⟨s, tables, hs, htables, hpage⟩
    refine ⟨s, hs, ?_⟩
    rw [Page.ofText, htables, hpage]
    rfl

theorem ending_failureOutcome_ne (source : Path) (f : Failure) : (failureOutcome source f).ending ≠ .exit 0 := by
  cases f with
  | malformed m => simp [failureOutcome, Outcome.failed]
  | uncollatable name => simp [failureOutcome]

/-- A source that cannot be read ends the run. -/
theorem run_perform_of_text_error {obstacle : Obstacle} (h : t.text r.source = .error obstacle) :
    t.run r.perform = (obstacle.outcome, t) := by
  rw [Request.perform, FileTree.run_bind, FileTree.run_readText, h]
  rfl

/-- So does a text without tables, behind what was reported of it. -/
theorem run_perform_of_extract_error {s : Text} (hs : t.text r.source = .ok s) {failure : Failure}
    (h : extract .other (Text.lines s) = .error failure) :
    t.run r.perform =
      ((failureOutcome r.source failure).after (printNotes r.verbosity (Walk.of .other (Text.lines s))), t) := by
  have hwalk : (Walk.of .other (Text.lines s)).tables = .error failure := h
  rw [Request.perform, FileTree.run_bind, FileTree.run_readText, hs]
  dsimp only
  rw [hwalk]
  rfl

/-- A source that gives no page ends the run, and nothing is changed. -/
theorem run_perform_of_not_compiles (h : ¬ ∃ page, t.Compiles r.source page) :
    ∃ o : Outcome, o.ending ≠ .exit 0 ∧ t.run r.perform = (o, t) := by
  cases hs : t.text r.source with
  | error obstacle => exact ⟨_, obstacle.ending_outcome_ne, run_perform_of_text_error hs⟩
  | ok s =>
    cases htables : extract .other (Text.lines s) with
    | error failure =>
      exact ⟨(failureOutcome r.source failure).after (printNotes r.verbosity (Walk.of .other (Text.lines s))),
        ending_failureOutcome_ne r.source failure, run_perform_of_extract_error hs htables⟩
    | ok tables => exact absurd ⟨_, compiles_iff.2 ⟨s, tables, hs, htables, rfl⟩⟩ h

/-- So a run that ends well has made a page of its source, whatever it does with it. -/
theorem exists_compiles_of_succeeds (h : (t.run r.perform).1.ending = .exit 0) :
    ∃ page, t.Compiles r.source page := by
  by_cases hcompiles : ∃ page, t.Compiles r.source page
  · exact hcompiles
  · obtain ⟨o, hending, hrun⟩ := run_perform_of_not_compiles hcompiles
    rw [hrun] at h
    exact absurd h hending

/-- What a run prints before it delivers the page of a text. -/
def opening (verbosity : Nat) (s : Text) (tables : Tables) : Transcript :=
  printNotes verbosity (Walk.of .other (Text.lines s)) ++ (tablesRecord tables).print verbosity

theorem Outcome.after_after (a b : Transcript) (o : Outcome) : (o.after b).after a = o.after (a ++ b) := by
  show (⟨⟨a.stdout ++ (b.stdout ++ o.transcript.stdout), a.stderr ++ (b.stderr ++ o.transcript.stderr)⟩, o.ending⟩
    : Outcome) = ⟨⟨a.stdout ++ b.stdout ++ o.transcript.stdout, a.stderr ++ b.stderr ++ o.transcript.stderr⟩, o.ending⟩
  rw [List.append_assoc, List.append_assoc]

/-- How the page is delivered in a mode that makes one. -/
inductive Delivers : Mode → (Text → Target → StateM FileTree (Except Obstacle Delivery)) → Prop
  | write : Delivers .write written
  | check : Delivers .check compared

theorem Delivers.of_write {mode : Mode} (h : mode = .write) : Delivers mode written := by
  rw [h]
  exact Delivers.write

theorem Delivers.of_check {mode : Mode} (h : mode = .check) : Delivers mode compared := by
  rw [h]
  exact Delivers.check

/-- The page of a source is delivered, and the run closes behind the delivery. -/
theorem run_perform_publish {deliver : Text → Target → StateM FileTree (Except Obstacle Delivery)}
    (hmode : Delivers r.mode deliver) {s : Text} (hs : t.text r.source = .ok s) {tables : Tables}
    (htables : extract .other (Text.lines s) = .ok tables) {delivered : Except Obstacle Delivery} {u : FileTree}
    (h : t.run (deliver (Page.ofTables Page.standardFrame tables) r.output) = (delivered, u)) :
    t.run r.perform =
      ((r.closing (Page.ofTables Page.standardFrame tables) u delivered).after (opening r.verbosity s tables), u) := by
  have hwalk : (Walk.of .other (Text.lines s)).tables = .ok tables := htables
  have hpublish := run_publish h
  rw [Request.perform, FileTree.run_bind, FileTree.run_readText, opening, ← Outcome.after_after]
  dsimp only
  rw [hs]
  dsimp only
  rw [hwalk]
  dsimp only
  generalize r.mode = mode at hmode
  cases hmode with
  | write =>
    show t.run (publish r tables written >>= _) = _
    rw [FileTree.run_bind, hpublish]
    rfl
  | check =>
    show t.run (publish r tables compared >>= _) = _
    rw [FileTree.run_bind, hpublish]
    rfl

/-- The tables are listed, and that is all. -/
theorem run_perform_of_list (hmode : r.mode = .list) {s : Text} (hs : t.text r.source = .ok s) {tables : Tables}
    (htables : extract .other (Text.lines s) = .ok tables) :
    t.run r.perform =
      (⟨printNotes r.verbosity (Walk.of .other (Text.lines s)) ++ .printed (listing tables), .exit 0⟩, t) := by
  have hwalk : (Walk.of .other (Text.lines s)).tables = .ok tables := htables
  rw [Request.perform, FileTree.run_bind, FileTree.run_readText, hs]
  dsimp only
  rw [hwalk]
  dsimp only
  rw [hmode]
  rfl

theorem run_perform_list (hmode : r.mode = .list) : (t.run r.perform).2 = t := by
  cases hs : t.text r.source with
  | error obstacle => rw [run_perform_of_text_error hs]
  | ok s =>
    cases htables : extract .other (Text.lines s) with
    | error failure => rw [run_perform_of_extract_error hs htables]
    | ok tables => rw [run_perform_of_list hmode hs htables]

theorem run_perform_check (hmode : r.mode = .check) : (t.run r.perform).2 = t := by
  by_cases hcompiles : ∃ page, t.Compiles r.source page
  · obtain ⟨page, hpage⟩ := hcompiles
    obtain ⟨s, tables, hs, htables, -⟩ := compiles_iff.1 hpage
    rw [run_perform_publish (Delivers.of_check hmode) hs htables (run_compared _ r.output t)]
  · obtain ⟨o, -, hrun⟩ := run_perform_of_not_compiles hcompiles
    rw [hrun]

/-- A run that writes ends with directories added only, or with the page in its file. -/
theorem run_perform_write (hmode : r.mode = .write) (hpage : t.Compiles r.source page) :
    ∃ s tables, t.text r.source = .ok s ∧ extract .other (Text.lines s) = .ok tables ∧
      ((∃ obstacle u, t.AddsDirectories u ∧
          t.run r.perform = ((Obstacle.outcome obstacle).after (opening r.verbosity s tables), u)) ∨
        ∃ output u l id, r.output = .path output ∧ t.HasPage u output (Utf8.encode page) l id ∧
          t.run r.perform =
            ((r.closing page u (writtenEnd output (t.rules.kept l (Utf8.encode page)).stop?)).after
              (opening r.verbosity s tables), u)) := by
  obtain ⟨s, tables, hs, htables, hpage⟩ := compiles_iff.1 hpage
  refine ⟨s, tables, hs, htables, ?_⟩
  rw [hpage]
  rcases written_cases (Page.ofTables Page.standardFrame tables) r.output t with
    ⟨obstacle, u, hadd, hrun⟩ | ⟨output, u, l, id, houtput, hhas, hrun⟩
  · exact Or.inl ⟨obstacle, u, hadd, run_perform_publish (Delivers.of_write hmode) hs htables hrun⟩
  · exact Or.inr ⟨output, u, l, id, houtput, hhas, run_perform_publish (Delivers.of_write hmode) hs htables hrun⟩

/-- Writing ends well only with the page in its file and the option list covered. -/
theorem perform_write_succeeds (hmode : r.mode = .write) (h : (t.run r.perform).1.ending = .exit 0) :
    ∃ page output l id, t.Compiles r.source page ∧ r.output = .path output ∧
      t.HasPage (t.run r.perform).2 output (Utf8.encode page) l id ∧ r.IsCovered page (t.run r.perform).2 := by
  obtain ⟨page, hpage⟩ := exists_compiles_of_succeeds h
  obtain ⟨s, tables, -, -, ⟨obstacle, u, -, hrun⟩ | ⟨output, u, l, id, houtput, hhas, hrun⟩⟩ :=
    run_perform_write hmode hpage
  · rw [hrun] at h
    exact absurd h obstacle.ending_outcome_ne
  · rw [hrun] at h ⊢
    obtain ⟨d, -, -, hcovered⟩ := (closing_succeeds_iff r page u _).1 h
    exact ⟨page, output, l, id, hpage, houtput, hhas, hcovered⟩

/-! ### The tree after a run -/

theorem run_of_ofArguments {d : Defaults} {arguments : List Text}
    (h : Invocation.ofArguments d arguments = .ok (.run r)) (t : FileTree) :
    t.run (run d arguments) = t.run r.perform := by
  rw [run, h]

/-- The tree after a run is the tree before it, or the page was to be written: then it has gained directories only, or
holds the page as far as the file keeps it; and if writing broke off, the run has failed with that. -/
theorem run_tree (d : Defaults) (arguments : List Text) (t : FileTree) :
    (t.run (run d arguments)).2 = t ∨
      ∃ r page, Invocation.ofArguments d arguments = .ok (.run r) ∧ r.mode = .write ∧ t.Compiles r.source page ∧
        (t.AddsDirectories (t.run (run d arguments)).2 ∨
          ∃ output l id, r.output = .path output ∧
            t.HasPage (t.run (run d arguments)).2 output (Utf8.encode page) l id ∧
            ∀ refusal, (t.rules.kept l (Utf8.encode page)).stop? = some refusal →
              ∃ before, (t.run (run d arguments)).1 =
                (Outcome.failed (Fault.cut refusal.cause).message).after before) := by
  rw [run]
  cases hinvocation : Invocation.ofArguments d arguments with
  | error e => exact Or.inl rfl
  | ok invocation =>
    cases invocation with
    | help =>
      left
      dsimp only
      cases help d with
      | error fault => rfl
      | ok shown => rfl
    | run r =>
      dsimp only
      cases hmode : r.mode with
      | list => exact Or.inl (run_perform_list hmode)
      | check => exact Or.inl (run_perform_check hmode)
      | write =>
        by_cases hcompiles : ∃ page, t.Compiles r.source page
        · obtain ⟨page, hpage⟩ := hcompiles
          obtain ⟨s, tables, -, -, hcases⟩ := run_perform_write hmode hpage
          refine Or.inr ⟨r, page, rfl, hmode, hpage, ?_⟩
          rcases hcases with ⟨obstacle, u, hadd, hrun⟩ | ⟨output, u, l, id, houtput, hhas, hrun⟩
          · exact Or.inl (by rw [hrun]; exact hadd)
          · refine Or.inr ⟨output, l, id, houtput, by rw [hrun]; exact hhas, ?_⟩
            intro refusal hstop
            rw [hrun, hstop]
            exact ⟨opening r.verbosity s tables, rfl⟩
        · obtain ⟨o, -, hrun⟩ := run_perform_of_not_compiles hcompiles
          exact Or.inl (by rw [hrun])

section
variable {d : Defaults} {arguments : List Text}

/-- A run takes no name away. -/
theorem grows_after_run : t.Grows (t.run (run d arguments)).2.toNameTree := by
  rcases run_tree d arguments t with hsame | ⟨r, page, -, -, -, hadd | ⟨output, l, id, -, hhas, -⟩⟩
  · rw [hsame]
    exact NameTree.Grows.refl _
  · exact hadd.names.grows
  · exact hhas.grows

/-- Unless a run is asked to write the page, the tree stays as it is. -/
theorem run_tree_of_forall (h : ∀ r, Invocation.ofArguments d arguments = .ok (.run r) → r.mode ≠ .write) :
    (t.run (run d arguments)).2 = t := by
  rcases run_tree d arguments t with hsame | ⟨r, page, hinvocation, hmode, -, -⟩
  · exact hsame
  · exact absurd hmode (h r hinvocation)

/-- A run with an output keeps the bytes of every file to which that does not lead afterwards. -/
theorem bytes_after_run_of_not_leadsTo {output : Path} (h : Invocation.ofArguments d arguments = .ok (.run r))
    (houtput : r.output = .path output) {id : FileId} (hid : ¬ (t.run (run d arguments)).2.LeadsTo output id) :
    (t.run (run d arguments)).2.bytes id = t.bytes id := by
  rcases run_tree d arguments t with hsame | ⟨q, page, hinvocation, -, -, hadd | ⟨target, l, i, htarget, hhas, -⟩⟩
  · rw [hsame]
  · exact hadd.bytes_eq id
  · rw [h] at hinvocation
    cases hinvocation
    rw [houtput] at htarget
    cases htarget
    apply hhas.others
    rintro rfl
    exact hid hhas.leadsTo

end

end Manpage.Command
