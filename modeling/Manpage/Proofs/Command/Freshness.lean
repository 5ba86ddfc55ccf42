import Manpage.Proofs.Command.Arguments
import Manpage.Proofs.Command.Failures

/-!
# Pages that are up to date

Checking a page and writing it come down to one condition on the files: the source gives a page, the output holds its
bytes, and the page has the options that the option list asks for.

* `Request.IsFresh` — that condition; `IsFresh.of_grows`: it depends on the files that the request names;
* `perform_check_succeeds_iff` — checking ends well exactly if it holds;
* `Request.HasPlainOutput` — the file at the output keeps what is written to it; `perform_write_of_isFresh`,
  `exists_isFresh_of_write`: then writing ends well and changes nothing exactly if the page is fresh;
* `check_succeeds_iff_write_changes_nothing` — so checking foretells whether writing would change anything, and
  `not_check_foretells_files` shows that it foretells more than the files alone, and not whether they may be written.
-/

namespace Manpage.Command

variable {r : Request} {t u : FileTree} {page : Text}

/-! ### Fresh pages -/

/-- A page is what the source of a request gives, stands at its output, and has the options it asks for. -/
structure Request.IsFresh (r : Request) (page : Text) (t : FileTree) : Prop where
  compiles : t.Compiles r.source page
  delivered : ∃ output, r.output = .path output ∧ t.contents output = .ok (Utf8.encode page)
  covered : r.IsCovered page t

/-- A request names a path: its source, its output or its option list. -/
def Request.Names (r : Request) (p : Path) : Prop := p = r.source ∨ r.output = .path p ∨ r.require? = some (.path p)

/-- The files that a request names have the same bytes in two trees. -/
def Request.KeepsNamed (r : Request) (t u : FileTree) : Prop :=
  ∀ p id, r.Names p → t.LeadsTo p id → u.bytes id = t.bytes id

theorem Request.IsCovered.of_grows (hgrow : t.Grows u.toNameTree) (hbytes : r.KeepsNamed t u)
    (h : r.IsCovered page t) : r.IsCovered page u := by
  intro target htarget
  obtain ⟨list, s, rfl, hs, hmissing⟩ := h target htarget
  exact ⟨list, s, rfl, FileTree.text_of_grows hgrow (fun id => hbytes list id (Or.inr (Or.inr htarget))) hs, hmissing⟩

/-- A page stays fresh as long as no name is lost and the files of the request keep their bytes. -/
theorem Request.IsFresh.of_grows (hgrow : t.Grows u.toNameTree) (hbytes : r.KeepsNamed t u) (h : r.IsFresh page t) :
    r.IsFresh page u := by
  obtain ⟨s, hs, hpage⟩ := h.compiles
  obtain ⟨output, houtput, hcontents⟩ := h.delivered
  refine ⟨⟨s, ?_, hpage⟩, ⟨output, houtput, ?_⟩, h.covered.of_grows hgrow hbytes⟩
  · exact FileTree.text_of_grows hgrow (fun id => hbytes r.source id (Or.inl rfl)) hs
  · exact FileTree.contents_of_grows hgrow (fun id => hbytes output id (Or.inr (Or.inl houtput))) hcontents

/-- Of a tree with the same names, the files keep their bytes if the same bytes stand everywhere. -/
theorem keepsNamed_of_bytes?_eq (hgrow : t.Grows u.toNameTree) (hbytes : ∀ l, u.bytes? l = t.bytes? l) :
    r.KeepsNamed t u := by
  rintro p id - ⟨l, -, hnode⟩
  exact FileTree.bytes_eq_of_bytes?_eq hnode (hgrow.node?_eq l _ hnode) (hbytes l)

/-- Whether a page is fresh does not depend on the mode. -/
theorem Request.isFresh_checking_iff : r.checking.IsFresh page t ↔ r.IsFresh page t :=
  ⟨fun h => ⟨h.compiles, h.delivered, h.covered⟩, fun h => ⟨h.compiles, h.delivered, h.covered⟩⟩

/-! ### Checking and writing -/

/-- Of a fresh page, checking tells that it is up to date. -/
theorem run_perform_check_of_isFresh (hmode : r.mode = .check) (h : r.IsFresh page t) :
    ∃ s tables output, r.output = .path output ∧
      t.run r.perform =
        ((r.closing page t (.ok ⟨output, output.text ++ " is up to date\n".toList, 0⟩)).after
          (opening r.verbosity s tables), t) := by
  obtain ⟨s, tables, hs, htables, hof⟩ := compiles_iff.1 h.compiles
  obtain ⟨output, houtput, hcontents⟩ := h.delivered
  have hcompared := run_compared page r.output t
  rw [(compared_eq_ok_iff.2 ⟨output, houtput, hcontents, rfl⟩).1] at hcompared
  refine ⟨s, tables, output, houtput, ?_⟩
  rw [hof] at hcompared ⊢
  exact run_perform_publish (Delivers.of_check hmode) hs htables hcompared

theorem exists_isFresh_of_check (hmode : r.mode = .check) (h : (t.run r.perform).1.ending = .exit 0) :
    ∃ page, r.IsFresh page t := by
  obtain ⟨page, hpage⟩ := exists_compiles_of_succeeds h
  obtain ⟨s, tables, hs, htables, hof⟩ := compiles_iff.1 hpage
  rw [run_perform_publish (Delivers.of_check hmode) hs htables (run_compared _ r.output t), ← hof] at h
  obtain ⟨d, hd, hstatus, hcovered⟩ := (closing_succeeds_iff r page t _).1 h
  obtain ⟨output, houtput, hcontents, -⟩ := compared_eq_ok_iff.1 ⟨hd, hstatus⟩
  exact ⟨page, hpage, ⟨output, houtput, hcontents⟩, hcovered⟩

/-- Checking ends well exactly if the page is fresh. -/
theorem perform_check_succeeds_iff (hmode : r.mode = .check) :
    (t.run r.perform).1.ending = .exit 0 ↔ ∃ page, r.IsFresh page t := by
  constructor
  · exact exists_isFresh_of_check hmode
  · rintro ⟨page, hfresh⟩
    obtain ⟨s, tables, output, -, hrun⟩ := run_perform_check_of_isFresh hmode hfresh
    rw [hrun]
    exact (closing_succeeds_iff r page t _).2 ⟨_, rfl, rfl, hfresh.covered⟩

/-- The file to which the output of a request leads, if there is one, may be read and written and keeps what is written
to it. -/
def Request.HasPlainOutput (r : Request) (t : FileTree) : Prop :=
  ∀ output l id, r.output = .path output → t.locate output = .ok l → t.node? l = some (.file id) → t.rules.IsPlain l

theorem hasPlainOutput_of_locate {output : Path} {l : Location} (houtput : r.output = .path output)
    (hl : t.locate output = .ok l) (hplain : t.rules.IsPlain l) : r.HasPlainOutput t := by
  intro p m id hp hm _
  obtain rfl : output = p := Target.path.inj (houtput.symm.trans hp)
  obtain rfl : l = m := Except.ok.inj (hl.symm.trans hm)
  exact hplain

/-- A fresh page is written again as it stands. -/
theorem perform_write_of_isFresh (hmode : r.mode = .write) (hplain : r.HasPlainOutput t) (h : r.IsFresh page t) :
    (t.run r.perform).1.ending = .exit 0 ∧
      ∀ l, (t.run r.perform).2.node? l = t.node? l ∧ (t.run r.perform).2.bytes? l = t.bytes? l := by
  obtain ⟨s, tables, hs, htables, hof⟩ := compiles_iff.1 h.compiles
  obtain ⟨output, houtput, hcontents⟩ := h.delivered
  obtain ⟨hnul, -⟩ := FileTree.contents_eq_ok_iff.1 hcontents
  obtain ⟨l, id, hl, hnode, hid⟩ := FileTree.exists_file_of_contents hcontents
  have hl' := hplain output l id houtput hl hnode
  have hrun := run_writePage_of_file hnul hl hnode hl'.write page
  simp only [hl'.kept] at hrun
  generalize hu : t.setBytes id (Utf8.encode page) = u at hrun
  -- the file gets the bytes that it has
  have hsame : ∀ k, u.node? k = t.node? k ∧ u.bytes? k = t.bytes? k := by
    have hbytes : ∀ i, u.bytes i = t.bytes i := by
      intro i
      rw [← hu, FileTree.bytes_setBytes]
      split
      · next hi => rw [hi, hid]
      · rfl
    intro k
    have hk : u.node? k = t.node? k := by
      rw [← hu]
      rfl
    simp only [FileTree.bytes?, hk, hbytes, and_self]
  have hwritten : t.run (written page r.output) = (writtenEnd output none, u) := by
    rw [houtput]
    exact run_written_of_writePage hrun
  rw [hof] at hwritten
  rw [run_perform_publish (Delivers.of_write hmode) hs htables hwritten, ← hof]
  refine ⟨(closing_succeeds_iff r page u _).2 ⟨_, rfl, rfl, ?_⟩, hsame⟩
  have hgrow : t.Grows u.toNameTree := ⟨by rw [← hu]; rfl, fun k n hk => (hsame k).1.trans hk⟩
  exact h.covered.of_grows hgrow (keepsNamed_of_bytes?_eq hgrow fun k => (hsame k).2)

/-- Where writing ends well and leaves all as it was, the page was fresh before. -/
theorem exists_isFresh_of_write (hmode : r.mode = .write) (hplain : r.HasPlainOutput t)
    (h : (t.run r.perform).1.ending = .exit 0)
    (hsame : ∀ l, (t.run r.perform).2.node? l = t.node? l ∧ (t.run r.perform).2.bytes? l = t.bytes? l) :
    ∃ page, r.IsFresh page t := by
  obtain ⟨page, output, l, id, hpage, houtput, hhas, hcovered⟩ := perform_write_succeeds hmode h
  -- what was found in the tree afterwards is carried back to the tree before
  have hback : (t.run r.perform).2.Grows t.toNameTree :=
    ⟨hhas.grows.setting.symm, fun k n hk => (hsame k).1.symm.trans hk⟩
  have hkeeps : r.KeepsNamed (t.run r.perform).2 t := keepsNamed_of_bytes?_eq hback fun k => (hsame k).2.symm
  have hplain' : (t.run r.perform).2.rules.IsPlain l := by
    rw [hhas.grows.rules_eq]
    exact hplain output l id houtput (hback.locate hhas.locate) (hback.node?_eq l _ hhas.file)
  have hcontents := FileTree.contents_eq_ok_iff.2 ⟨hhas.nul, hhas.read hplain'⟩
  refine ⟨page, hpage, ⟨output, houtput, ?_⟩, hcovered.of_grows hback hkeeps⟩
  exact FileTree.contents_of_grows hback (fun i => hkeeps output i (Or.inr (Or.inl houtput))) hcontents

/-- **Checking foretells writing.**  Let arguments ask for the page to be written.  With `--check` in front of them the
run leaves the tree as it is.  And if the file to which the output leads, if there is one, may be read and written and
keeps what is written to it, that run ends well exactly if the run without `--check` would end well and leave every file
and every directory of the tree as it is, making none. -/
theorem check_succeeds_iff_write_changes_nothing {d : Defaults} {arguments : List Text}
    (hparse : Invocation.ofArguments d arguments = .ok (.run r)) (hmode : r.mode = .write) (t : FileTree) :
    (t.run (run d ("--check".toList :: arguments))).2 = t ∧
      (r.HasPlainOutput t →
        ((t.run (run d ("--check".toList :: arguments))).1.ending = .exit 0 ↔
          (t.run (run d arguments)).1.ending = .exit 0 ∧
            ∀ l, (t.run (run d arguments)).2.node? l = t.node? l ∧
              (t.run (run d arguments)).2.bytes? l = t.bytes? l)) := by
  have hchecking : r.checking.mode = .check := rfl
  rw [run_of_ofArguments (ofArguments_check_cons hparse hmode) t, run_of_ofArguments hparse t]
  refine ⟨run_perform_check hchecking, ?_⟩
  intro hplain
  constructor
  · intro h
    obtain ⟨page, hfresh⟩ := (perform_check_succeeds_iff hchecking).1 h
    exact perform_write_of_isFresh hmode hplain (Request.isFresh_checking_iff.1 hfresh)
  · rintro ⟨h, hsame⟩
    obtain ⟨page, hfresh⟩ := exists_isFresh_of_write hmode hplain h hsame
    exact (perform_check_succeeds_iff hchecking).2 ⟨page, Request.isFresh_checking_iff.2 hfresh⟩

/-! ### The page of an empty source -/

/-- The place of the page in the examples below: `b/n.1`. -/
def besidePlace : Location := (FileTree.workFile "b".toList).child "n.1".toList

/-- An empty source, `s.md`, and a file, `b/n.1`. -/
def emptySourceBeside (bytes : Bytes) : FileTree :=
  (loneEmptySource.addDirectory (FileTree.workFile "b".toList)).addFile besidePlace bytes

/-- These two files, neither of which may be written. -/
def unwritableBeside (bytes : Bytes) : FileTree :=
  { emptySourceBeside bytes with
    rules := { FileTree.openRules with
      refusal? := fun permission _ =>
        if permission = .write then some ⟨13, "Permission denied".toList, by decide⟩ else none } }

/-- Writing the page of `s.md` to `b/n.1`. -/
def besideRequest : Request := ⟨Path.ofText "s.md".toList, .path (Path.ofText "b/n.1".toList), none, .write, 0⟩

theorem compiles_of_text_eq_nil (h : t.text (Path.ofText "s.md".toList) = .ok []) :
    t.Compiles (Path.ofText "s.md".toList) emptyPage :=
  compiles_iff.2 ⟨[], ⟨[], []⟩, h, extract_nil, rfl⟩

/-- Where the source is empty and its page stands at the output, the page is fresh. -/
theorem isFresh_besideRequest (hsource : t.text (Path.ofText "s.md".toList) = .ok [])
    (hpage : t.contents (Path.ofText "b/n.1".toList) = .ok (Utf8.encode emptyPage)) :
    besideRequest.IsFresh emptyPage t where
  compiles := compiles_of_text_eq_nil hsource
  delivered := ⟨_, rfl, hpage⟩
  covered := by
    intro target htarget
    cases htarget

theorem contents_emptySourceBeside (bytes : Bytes) :
    (emptySourceBeside bytes).contents (Path.ofText "b/n.1".toList) = .ok bytes := by
  rfl

theorem contents_unwritableBeside (bytes : Bytes) :
    (unwritableBeside bytes).contents (Path.ofText "b/n.1".toList) = .ok bytes := by
  rfl

theorem bytes?_emptySourceBeside (bytes : Bytes) : (emptySourceBeside bytes).bytes? besidePlace = some bytes := by
  rfl

theorem kept_besidePlace (bytes : Bytes) : FileTree.openRules.kept besidePlace bytes = ⟨bytes, none⟩ := by
  rfl

/-- The arguments for writing the page of `s.md` to `b/n.1`. -/
def besideArguments : List Text := ["s.md".toList, "-o".toList, "b/n.1".toList]

theorem ofArguments_besideArguments :
    Invocation.ofArguments (Defaults.below (Path.ofText [])) besideArguments = .ok (.run besideRequest) := by
  rfl

/-- The page of an empty source stands at its output: it is up to date, and writing it changes nothing. -/
theorem check_and_write_of_emptyPage :
    let d := Defaults.below (Path.ofText [])
    let t := emptySourceBeside (Utf8.encode emptyPage)
    besideRequest.HasPlainOutput t ∧
      (t.run (run d ("--check".toList :: besideArguments))).1.ending = .exit 0 ∧
      (t.run (run d besideArguments)).1.ending = .exit 0 ∧
      ∀ l, (t.run (run d besideArguments)).2.node? l = t.node? l ∧
        (t.run (run d besideArguments)).2.bytes? l = t.bytes? l := by
  intro d t
  have hparse : Invocation.ofArguments d besideArguments = .ok (.run besideRequest) := ofArguments_besideArguments
  have hplace : t.locate (Path.ofText "b/n.1".toList) = .ok besidePlace := by rfl
  have hplain : besideRequest.HasPlainOutput t := hasPlainOutput_of_locate rfl hplace
    (FileTree.isPlain_openRules (by decide +kernel) (by decide +kernel) (by decide +kernel))
  have hcheck : (t.run (run d ("--check".toList :: besideArguments))).1.ending = .exit 0 := by
    rw [run_of_ofArguments (ofArguments_check_cons hparse rfl) t]
    refine (perform_check_succeeds_iff rfl).2 ⟨emptyPage, Request.isFresh_checking_iff.2 ?_⟩
    exact isFresh_besideRequest (by rfl) (contents_emptySourceBeside _)
  have hforetells := (check_succeeds_iff_write_changes_nothing hparse rfl t).2
  exact ⟨hplain, hcheck, (hforetells hplain).1 hcheck⟩

/-- The files alone are not enough: a path can lead to the page through a directory that is missing.  Checking does not
find the page then, and writing makes the directory.  And checking does not find out that the page may not be
written. -/
theorem not_check_foretells_files :
    (¬ ∀ (d : Defaults) (arguments : List Text) (r : Request) (t : FileTree),
      Invocation.ofArguments d arguments = .ok (.run r) → r.mode = .write → r.HasPlainOutput t →
        ((t.run (run d ("--check".toList :: arguments))).1.ending = .exit 0 ↔
          (t.run (run d arguments)).1.ending = .exit 0 ∧ t.KeepsFiles (t.run (run d arguments)).2)) ∧
      ¬ ∀ (d : Defaults) (arguments : List Text) (r : Request) (t : FileTree),
        Invocation.ofArguments d arguments = .ok (.run r) → r.mode = .write →
          ((t.run (run d ("--check".toList :: arguments))).1.ending = .exit 0 ↔
            (t.run (run d arguments)).1.ending = .exit 0 ∧ ∀ l, (t.run (run d arguments)).2.node? l = t.node? l ∧
              (t.run (run d arguments)).2.bytes? l = t.bytes? l) := by
  constructor
  · intro h
    let d := Defaults.below (Path.ofText [])
    let arguments := ["s.md".toList, "-o".toList, "a/../b/n.1".toList]
    let output := Path.ofText "a/../b/n.1".toList
    let t := emptySourceBeside (Utf8.encode emptyPage)
    have hparse : Invocation.ofArguments d arguments =
        .ok (.run ⟨Path.ofText "s.md".toList, .path output, none, .write, 0⟩) := by rfl
    have hmissing : t.locate output = .error .missing := by decide +kernel
    have hplain : (⟨Path.ofText "s.md".toList, .path output, none, .write, 0⟩ : Request).HasPlainOutput t := by
      intro output' l id houtput hl
      obtain rfl : output = output' := Target.path.inj houtput
      rw [hmissing] at hl
      cases hl
    have hcheck : (t.run (run d ("--check".toList :: arguments))).1.ending ≠ .exit 0 := by
      decide +kernel
    have hwrite : (t.run (run d arguments)).1.ending = .exit 0 := by
      decide +kernel
    have hplace : (t.run (run d arguments)).2.locate output = .ok besidePlace := by
      decide +kernel
    refine hcheck ((h d arguments _ t hparse rfl hplain).2 ⟨hwrite, ?_⟩)
    -- the page is found by what the write guarantees: evaluation would compare it byte by byte
    rw [run_of_ofArguments hparse] at hwrite hplace ⊢
    obtain ⟨page, target, l, id, hpage, htarget, hhas, -⟩ := perform_write_succeeds rfl hwrite
    rw [hpage.unique (compiles_of_text_eq_nil (by rfl))] at hhas
    obtain rfl : output = target := Target.path.inj htarget
    obtain rfl : besidePlace = l := Except.ok.inj (hplace.symm.trans hhas.locate)
    exact hhas.keepsFiles (kept_besidePlace _) (bytes?_emptySourceBeside _)
  · intro h
    let t := unwritableBeside (Utf8.encode emptyPage)
    have hcheck : (t.run (run (Defaults.below (Path.ofText [])) ("--check".toList :: besideArguments))).1.ending =
        .exit 0 := by
      rw [run_of_ofArguments (ofArguments_check_cons ofArguments_besideArguments rfl) t]
      refine (perform_check_succeeds_iff rfl).2 ⟨emptyPage, Request.isFresh_checking_iff.2 ?_⟩
      exact isFresh_besideRequest (by rfl) (contents_unwritableBeside _)
    have hwrite := ((h _ _ _ t ofArguments_besideArguments rfl).1 hcheck).1
    revert hwrite
    decide +kernel

end Manpage.Command
