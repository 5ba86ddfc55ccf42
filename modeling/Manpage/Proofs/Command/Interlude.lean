import Manpage.Proofs.Command.Freshness

/-!
# Runs in between

A page that was written stays up to date until one of the files of its request is written.

* `exists_isFresh_after_write` — behind a run that wrote the page it is fresh;
* `IsAside`, `Interlude` — runs that cannot put a page out of date, one and any number of them;
  `IsFresh.after_run`, `IsFresh.after_interlude`: they keep it fresh;
* `check_succeeds_after_write` — so a page that was written stays up to date through them;
  `not_check_succeeds_after_write`: but not in a file that does not keep it.
-/

namespace Manpage.Command

variable {r : Request} {t u : FileTree} {page : Text}

/-! ### Written pages -/

/-- The output of a request leads to another file than its source. -/
def Request.HasOwnOutput (r : Request) (t : FileTree) : Prop :=
  ∀ output id, r.output = .path output → t.LeadsTo output id → ¬ t.LeadsTo r.source id

theorem hasOwnOutput_of_at? {output : Path} {id : FileId} (houtput : r.output = .path output)
    (hid : t.at? output = .ok (.file id)) (hsource : t.at? r.source ≠ .ok (.file id)) : r.HasOwnOutput t := by
  intro p i hp hi
  obtain rfl : output = p := Target.path.inj (houtput.symm.trans hp)
  exact hi.not_leadsTo_of_at? hid hsource

/-- Behind a run that wrote the page and ended well, the page is fresh, unless it took the place of its source, or its
file does not keep it. -/
theorem exists_isFresh_after_write (hmode : r.mode = .write) (hown : r.HasOwnOutput (t.run r.perform).2)
    (hplain : r.HasPlainOutput (t.run r.perform).2) (h : (t.run r.perform).1.ending = .exit 0) :
    ∃ page, r.IsFresh page (t.run r.perform).2 := by
  obtain ⟨page, output, l, id, ⟨s, hs, hpage⟩, houtput, hhas, hcovered⟩ := perform_write_succeeds hmode h
  have hsource : ∀ i, t.LeadsTo r.source i → (t.run r.perform).2.bytes i = t.bytes i := by
    intro i hi
    apply hhas.others
    rintro rfl
    exact hown output i houtput hhas.leadsTo (hhas.grows.leadsTo hi)
  have hread := hhas.read (hplain output l id houtput hhas.locate hhas.file)
  exact ⟨page, ⟨s, FileTree.text_of_grows hhas.grows hsource hs, hpage⟩,
    ⟨output, houtput, FileTree.contents_eq_ok_iff.2 ⟨hhas.nul, hread⟩⟩, hcovered⟩

/-! ### Other runs -/

/-- A run that cannot put the page of a request out of date: its arguments make no sense, or ask for help, or for no
page to be written; or it fails and writes nothing; or its output leads to none of the files of the request, also behind
the run. -/
inductive IsAside (r : Request) (t : FileTree) (d : Defaults) (arguments : List Text) : Prop
  | unusable (e : UsageError) (h : Invocation.ofArguments d arguments = .error e)
  | help (h : Invocation.ofArguments d arguments = .ok .help)
  | unwritten (q : Request) (h : Invocation.ofArguments d arguments = .ok (.run q)) (hmode : q.mode ≠ .write)
  | failed (hending : (t.run (run d arguments)).1.ending ≠ .exit 0)
      (hbytes : ∀ l, (t.run (run d arguments)).2.bytes? l = t.bytes? l)
  | elsewhere (q : Request) (output : Path) (h : Invocation.ofArguments d arguments = .ok (.run q))
      (houtput : q.output = .path output)
      (hother : ∀ p id, r.Names p → (t.run (run d arguments)).2.LeadsTo p id →
        ¬ (t.run (run d arguments)).2.LeadsTo output id)

/-- What runs of that kind, one after the other, make of a tree. -/
inductive Interlude (r : Request) : FileTree → FileTree → Prop
  | done (t : FileTree) : Interlude r t t
  | further {t u : FileTree} (d : Defaults) (arguments : List Text) (haside : IsAside r t d arguments)
      (hrest : Interlude r (t.run (run d arguments)).2 u) : Interlude r t u

theorem isAside_of_at? {d : Defaults} {arguments : List Text} {q : Request} {output : Path} {id : FileId}
    (h : Invocation.ofArguments d arguments = .ok (.run q)) (houtput : q.output = .path output)
    (hid : (t.run (run d arguments)).2.at? output = .ok (.file id))
    (hother : ∀ p, r.Names p → (t.run (run d arguments)).2.at? p ≠ .ok (.file id)) : IsAside r t d arguments := by
  refine IsAside.elsewhere q output h houtput ?_
  intro p i hp hi hsame
  exact hsame.not_leadsTo_of_at? hid (hother p hp) hi

theorem IsAside.keepsNamed {d : Defaults} {arguments : List Text} (h : IsAside r t d arguments) :
    r.KeepsNamed t (t.run (run d arguments)).2 := by
  have hsame (hnot : ∀ q, Invocation.ofArguments d arguments = .ok (.run q) → q.mode ≠ .write) :
      r.KeepsNamed t (t.run (run d arguments)).2 := by
    intro p id _ _
    rw [run_tree_of_forall hnot]
  cases h with
  | unusable e h =>
    apply hsame
    intro q hq
    rw [h] at hq
    cases hq
  | help h =>
    apply hsame
    intro q hq
    rw [h] at hq
    cases hq
  | unwritten q h hmode =>
    apply hsame
    intro q' hq'
    rw [h] at hq'
    cases hq'
    exact hmode
  | failed hending hbytes => exact keepsNamed_of_bytes?_eq grows_after_run hbytes
  | elsewhere q output h houtput hother =>
    intro p id hp hid
    exact bytes_after_run_of_not_leadsTo h houtput (hother p id hp (grows_after_run.leadsTo hid))

/-- One such run keeps a page fresh, as it loses no name and keeps the files of the request. -/
theorem Request.IsFresh.after_run {d : Defaults} {arguments : List Text} (h : r.IsFresh page t)
    (haside : IsAside r t d arguments) : r.IsFresh page (t.run (run d arguments)).2 :=
  h.of_grows grows_after_run haside.keepsNamed

/-- So do any number of them. -/
theorem Request.IsFresh.after_interlude (h : r.IsFresh page t) (hlater : Interlude r t u) : r.IsFresh page u := by
  -- induction on the runs, with freshness as the invariant
  induction hlater with
  | done t => exact h
  | further d arguments haside hrest ih => exact ih (h.after_run haside)

/-- **A written page stays up to date.**  Behind a run that wrote the page of a request and ended well, and any runs
that do not write to its files, checking ends well and tells that the page is up to date, provided that the output leads
to another file than the source, which may be read and keeps what is written to it. -/
theorem check_succeeds_after_write {d : Defaults} {arguments : List Text}
    (hparse : Invocation.ofArguments d arguments = .ok (.run r)) (hmode : r.mode = .write)
    (hown : r.HasOwnOutput (t.run (run d arguments)).2) (hplain : r.HasPlainOutput (t.run (run d arguments)).2)
    (hwrite : (t.run (run d arguments)).1.ending = .exit 0)
    (hlater : Interlude r (t.run (run d arguments)).2 u) :
    (u.run (run d ("--check".toList :: arguments))).1.ending = .exit 0 ∧
      ∃ output, r.output = .path output ∧
        (u.run (run d ("--check".toList :: arguments))).1.transcript.stdout =
          output.text ++ " is up to date\n".toList := by
  rw [run_of_ofArguments hparse] at hown hplain hwrite hlater
  obtain ⟨page, hwritten⟩ := exists_isFresh_after_write hmode hown hplain hwrite
  have hchecking := Request.isFresh_checking_iff.2 (hwritten.after_interlude hlater)
  obtain ⟨s, tables, output, houtput, hrun⟩ := run_perform_check_of_isFresh rfl hchecking
  rw [run_of_ofArguments (ofArguments_check_cons hparse hmode), hrun]
  refine ⟨(closing_succeeds_iff _ page u _).2 ⟨_, rfl, rfl, hchecking.covered⟩, output, houtput, ?_⟩
  rw [Outcome.transcript_after, Transcript.stdout_append, stdout_opening, List.nil_append,
    stdout_closing hchecking.covered]

/-- The arguments for writing the page of `s.md` to `n.1` and checking it against the list `b/n.1`. -/
def listedArguments : List Text := ["s.md".toList, "-o".toList, "n.1".toList, "--require".toList, "b/n.1".toList]

def listedRequest : Request :=
  ⟨Path.ofText "s.md".toList, .path (Path.ofText "n.1".toList), some (.path (Path.ofText "b/n.1".toList)), .write, 0⟩

/-- The tree after that, where the source and the list are empty. -/
def listedTree : FileTree := ((emptySourceBeside []).run (run (Defaults.below (Path.ofText [])) listedArguments)).2

/-- The arguments for writing the page of `s.md` to `m.1`. -/
def otherArguments : List Text := ["s.md".toList, "-o".toList, "m.1".toList]

/-- The tree after that and two more runs: one makes no sense, the other writes a page elsewhere. -/
def laterTree : FileTree :=
  ((listedTree.run (run (Defaults.below (Path.ofText [])) ["--check".toList, "--list".toList])).2.run
    (run (Defaults.below (Path.ofText [])) otherArguments)).2

theorem interlude_laterTree : Interlude listedRequest listedTree laterTree := by
  have hunusable : Invocation.ofArguments (Defaults.below (Path.ofText [])) ["--check".toList, "--list".toList] =
      .error (.conflict .list .check) := by rfl
  have hother : Invocation.ofArguments (Defaults.below (Path.ofText [])) otherArguments =
      .ok (.run ⟨Path.ofText "s.md".toList, .path (Path.ofText "m.1".toList), none, .write, 0⟩) := by rfl
  have hplace : laterTree.at? (Path.ofText "m.1".toList) = .ok (.file 6) := by decide +kernel
  refine Interlude.further _ _ (IsAside.unusable _ hunusable) ?_
  refine Interlude.further _ _ (isAside_of_at? hother rfl hplace ?_) (Interlude.done laterTree)
  rintro p (rfl | hp | hp)
  · decide +kernel
  · obtain rfl : Path.ofText "n.1".toList = p := Target.path.inj hp
    decide +kernel
  · obtain rfl : Path.ofText "b/n.1".toList = p := Target.path.inj (Option.some.inj hp)
    decide +kernel

theorem ofArguments_listedArguments :
    Invocation.ofArguments (Defaults.below (Path.ofText [])) listedArguments = .ok (.run listedRequest) := by
  rfl

/-- A page is written that is to have no option, and is up to date two runs later. -/
theorem check_succeeds_after_two_runs :
    (laterTree.run (run (Defaults.below (Path.ofText [])) ("--check".toList :: listedArguments))).1.ending = .exit 0 ∧
      (laterTree.run (run (Defaults.below (Path.ofText []))
        ("--check".toList :: listedArguments))).1.transcript.stdout = "n.1 is up to date\n".toList := by
  have houtput : listedTree.at? (Path.ofText "n.1".toList) = .ok (.file 5) := by decide +kernel
  have hown : listedRequest.HasOwnOutput listedTree := hasOwnOutput_of_at? rfl houtput (by decide +kernel)
  have hplace : listedTree.locate (Path.ofText "n.1".toList) = .ok (FileTree.workFile "n.1".toList) := by
    decide +kernel
  have hplain : listedRequest.HasPlainOutput listedTree := by
    refine hasPlainOutput_of_locate rfl hplace ?_
    rw [listedTree, grows_after_run.rules_eq]
    exact FileTree.isPlain_openRules (by decide +kernel) (by decide +kernel) (by decide +kernel)
  have hwrite : ((emptySourceBeside []).run
      (run (Defaults.below (Path.ofText [])) listedArguments)).1.ending = .exit 0 := by
    decide +kernel
  obtain ⟨hending, p, hp, hstdout⟩ :=
    check_succeeds_after_write ofArguments_listedArguments rfl hown hplain hwrite interlude_laterTree
  obtain rfl : Path.ofText "n.1".toList = p := Target.path.inj hp
  exact ⟨hending, hstdout⟩

/-- A page that is written to the device that forgets it is out of date at once. -/
theorem not_check_succeeds_after_write :
    ¬ ∀ (d : Defaults) (arguments : List Text) (r : Request) (t u : FileTree),
      Invocation.ofArguments d arguments = .ok (.run r) → r.mode = .write →
        r.HasOwnOutput (t.run (run d arguments)).2 → (t.run (run d arguments)).1.ending = .exit 0 →
        Interlude r (t.run (run d arguments)).2 u →
        (u.run (run d ("--check".toList :: arguments))).1.ending = .exit 0 := by
  intro h
  let d := Defaults.below (Path.ofText [])
  let arguments := ["s.md".toList, "-o".toList, "/dev/null".toList]
  let output := Path.ofText "/dev/null".toList
  let u := (loneEmptySource.run (run d arguments)).2
  have hparse : Invocation.ofArguments d arguments =
      .ok (.run ⟨Path.ofText "s.md".toList, .path output, none, .write, 0⟩) := by rfl
  have hl : loneEmptySource.locate output = .ok FileTree.nullDevice := by decide +kernel
  have houtput : u.at? output = .ok (.file 0) := by decide +kernel
  have hown : (⟨Path.ofText "s.md".toList, .path output, none, .write, 0⟩ : Request).HasOwnOutput u :=
    hasOwnOutput_of_at? rfl houtput (by decide +kernel)
  have hwrite : (loneEmptySource.run (run d arguments)).1.ending = .exit 0 := by decide +kernel
  have hcheck := h d arguments _ loneEmptySource u hparse rfl hown hwrite (Interlude.done u)
  rw [run_of_ofArguments (ofArguments_check_cons hparse rfl)] at hcheck
  -- the device is empty, and the page is not
  obtain ⟨page, hcompiles, ⟨target, htarget, hcontents⟩, -⟩ := exists_isFresh_of_check rfl hcheck
  obtain rfl : output = target := Target.path.inj htarget
  obtain ⟨id, hhas⟩ := exists_hasPage_of_loneEmptySource hparse hl hwrite
  obtain ⟨l, i, htl, hi, hbytes⟩ := FileTree.exists_file_of_contents hcontents
  obtain rfl : FileTree.nullDevice = l := Except.ok.inj (hhas.locate.symm.trans htl)
  obtain rfl : id = i := Node.file.inj (Option.some.inj (hhas.file.symm.trans hi))
  have hempty : u.bytes id = [] := hhas.kept
  have htext : u.text (Path.ofText "s.md".toList) = .ok [] := by decide +kernel
  rw [hempty, hcompiles.unique (compiles_of_text_eq_nil htext)] at hbytes
  have hlength := length_encode_emptyPage
  rw [← hbytes] at hlength
  cases hlength

end Manpage.Command
