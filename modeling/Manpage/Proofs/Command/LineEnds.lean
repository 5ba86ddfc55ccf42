import Manpage.Proofs.Command.Course
import Manpage.Proofs.Command.Freshness
import Manpage.Proofs.Files.Alike
import Manpage.Proofs.Page.Characters
import Manpage.Proofs.Text.LineEnds

/-!
# Runs on files with other line ends

A run reads two files as texts, its source and its option list.  It does not find out how their lines end.

* `textOfBytes_stored` — the text of a file, whatever its line ends;
* `SameText` — bytes of some files that give the same text; `Alike.text_eq`: reading a text does not tell them apart;
* `respects_perform` — so a run that does not compare its page does the same for such bytes, and
  `perform_check_of_alike`: so does one that compares it, as long as the page is none of these files;
* `Request.Reads`, `Request.supplied` — the files that a request reads as texts, and a tree with given bytes in them;
* `carriageReturn_not_mem_of_compiles` — the bytes of a page hold no carriage return;
* `run_with_line_ends` — so a run depends on the two texts only, and writes no carriage return.
-/

namespace Manpage.Command

open FileTree (Alike Respects respects_pure)

variable {inputs : FileId → Prop} {t u : FileTree} {p : Path} {r : Request}

/-! ### Texts -/

/-- Line ends are lost in reading. -/
theorem textOfBytes_stored (e : LineEnd) {s : Text} (h : '\r' ∉ s) : textOfBytes (e.stored s) = .ok s := by
  rw [textOfBytes, LineEnd.stored, Utf8.decode_encode]
  exact congrArg Except.ok (Text.normalised_written e h)

/-- Bytes of some files may differ as long as the same text is read from them. -/
def SameText (inputs : FileId → Prop) (id : FileId) (bytes bytes' : Bytes) : Prop :=
  inputs id ∧ textOfBytes bytes = textOfBytes bytes'

theorem Alike.text_eq (h : Alike (SameText inputs) t u) (p : Path) : t.text p = u.text p := by
  unfold FileTree.text
  rcases h.contents_cases p with heq | ⟨id, bytes, bytes', -, ht, hu, -, htext⟩
  · rw [heq]
  · rw [ht, hu]
    exact congrArg (Except.mapError Obstacle.undecodable) htext

theorem respects_readText (p : Path) : Respects (SameText inputs) (readText p) := by
  intro t u h
  rw [FileTree.run_readText, FileTree.run_readText]
  exact ⟨Alike.text_eq h p, h⟩

/-! ### Runs that list or write -/

theorem respects_writePage (page : Text) (output : Path) : Respects (SameText inputs) (writePage page output) := by
  refine (FileTree.respects_makeDirectories output.parent).bind ?_
  intro made
  split
  · exact respects_pure _
  · exact FileTree.respects_writeFile output (Utf8.encode page)

theorem respects_written (page : Text) (target : Target) : Respects (SameText inputs) (written page target) := by
  cases target with
  | nowhere => exact respects_pure _
  | path output =>
    refine (respects_writePage page output).bind ?_
    intro result
    split <;> exact respects_pure _

theorem respects_checkOptions (verbosity : Nat) (page : Text) (d : Delivery) (target : Target) :
    Respects (SameText inputs) (checkOptions verbosity page d target) := by
  cases target with
  | nowhere => exact respects_pure _
  | path list =>
    refine (respects_readText list).bind ?_
    intro found
    split <;> exact respects_pure _

theorem respects_afterDelivery (page : Text) (delivered : Except Obstacle Delivery) :
    Respects (SameText inputs) (afterDelivery r page delivered) := by
  unfold afterDelivery
  split
  · exact respects_pure _
  · split
    · exact respects_pure _
    · refine (respects_checkOptions _ _ _ _).bind ?_
      intro o
      exact respects_pure _

theorem respects_publish (tables : Tables) {deliver : Text → Target → StateM FileTree (Except Obstacle Delivery)}
    (h : ∀ page, Respects (SameText inputs) (deliver page r.output)) :
    Respects (SameText inputs) (publish r tables deliver) := by
  refine (h _).bind ?_
  intro delivered
  refine (respects_afterDelivery _ delivered).bind ?_
  intro o
  exact respects_pure _

/-- A run that does not compare its page does the same whatever the bytes of its inputs are, as long as the same texts
come of them. -/
theorem respects_perform (hmode : r.mode ≠ .check) : Respects (SameText inputs) r.perform := by
  refine (respects_readText r.source).bind ?_
  intro found
  split
  · exact respects_pure _
  · dsimp only
    split
    · exact respects_pure _
    · split
      · exact respects_pure _
      · refine (respects_publish _ fun page => respects_written page r.output).bind ?_
        intro o
        exact respects_pure _
      · next h => exact absurd h hmode

/-! ### Runs that compare -/

theorem isUpToDate_of_alike (h : Alike (SameText inputs) t u) {output : Path}
    (hid : ∀ id, t.LeadsTo output id → ¬ inputs id) (page : Text) :
    (t.run (isUpToDate page output)).1 = (u.run (isUpToDate page output)).1 := by
  have hcontents := h.contents_eq fun id hp _ _ hmay => hid id hp hmay.1
  have hkind := (FileTree.respects_kindAt? output t u h).1
  rw [isUpToDate, FileTree.run_bind, FileTree.run_bind, FileTree.leavesTree_kindAt? output t,
    FileTree.leavesTree_kindAt? output u, hkind]
  split
  · rfl
  · rfl
  · rw [FileTree.run_bind, FileTree.run_bind, FileTree.run_readFile, FileTree.run_readFile, hcontents]
    rfl

theorem compared_of_alike (h : Alike (SameText inputs) t u)
    (hid : ∀ output id, r.output = .path output → t.LeadsTo output id → ¬ inputs id) (page : Text) :
    (t.run (compared page r.output)).1 = (u.run (compared page r.output)).1 := by
  cases houtput : r.output with
  | nowhere => rfl
  | path output =>
    have hfound := isUpToDate_of_alike h (fun id => hid output id houtput) page
    rw [compared, FileTree.run_bind, FileTree.run_bind, leavesTree_isUpToDate page output t,
      leavesTree_isUpToDate page output u, hfound]
    split <;> rfl

theorem closing_of_alike (h : Alike (SameText inputs) t u) (page : Text) (delivered : Except Obstacle Delivery) :
    r.closing page t delivered = r.closing page u delivered := by
  unfold Request.closing
  simp only [Alike.text_eq h]

/-- A run that compares its page does the same as well, if the page is none of the inputs. -/
theorem perform_check_of_alike (hmode : r.mode = .check) (h : Alike (SameText inputs) t u)
    (hid : ∀ output id, r.output = .path output → t.LeadsTo output id → ¬ inputs id) :
    (t.run r.perform).1 = (u.run r.perform).1 := by
  have htext := Alike.text_eq h r.source
  cases hs : u.text r.source with
  | error o => rw [run_perform_of_text_error hs, run_perform_of_text_error (htext.trans hs)]
  | ok s =>
    cases htables : extract .other (Text.lines s) with
    | error f =>
      rw [run_perform_of_extract_error hs htables, run_perform_of_extract_error (htext.trans hs) htables]
    | ok tables =>
      rw [run_perform_publish (Delivers.of_check hmode) hs htables (run_compared _ r.output u),
        run_perform_publish (Delivers.of_check hmode) (htext.trans hs) htables (run_compared _ r.output t)]
      dsimp only
      rw [closing_of_alike h, compared_of_alike h hid]

/-! ### Two inputs -/

/-- A request reads a file as a text: it is the source, or the option list. -/
def Request.Reads (r : Request) (t : FileTree) (id : FileId) : Prop :=
  t.LeadsTo r.source id ∨ ∃ list, r.require? = some (.path list) ∧ t.LeadsTo list id

/-- A file that a request reads as a text stays one. -/
theorem Request.Reads.of_grows {u : NameTree} {id : FileId} (h : r.Reads t id) (hgrow : t.Grows u) :
    r.Reads (t.renamed u) id := by
  rcases h with h | ⟨p, hp, h⟩
  · exact Or.inl (hgrow.leadsTo h)
  · exact Or.inr ⟨p, hp, hgrow.leadsTo h⟩

/-- The output of a request leads to no file that the request reads as a text. -/
def Request.IsApart (r : Request) (t : FileTree) : Prop :=
  ∀ output id, r.output = .path output → t.LeadsTo output id → ¬ r.Reads t id

theorem isApart_of_at? {output : Path} {id : FileId} (houtput : r.output = .path output)
    (hid : t.at? output = .ok (.file id)) (hsource : t.at? r.source ≠ .ok (.file id))
    (hlist : ∀ list, r.require? = some (.path list) → t.at? list ≠ .ok (.file id)) : r.IsApart t := by
  intro p i hp hi hreads
  obtain rfl : output = p := Target.path.inj (houtput.symm.trans hp)
  rcases hreads with h | ⟨list, hrequire, h⟩
  · exact hi.not_leadsTo_of_at? hid hsource h
  · exact hi.not_leadsTo_of_at? hid (hlist list hrequire) h

/-- A tree with bytes stored in the file to which a path leads, if there is one. -/
def storedAt (t : FileTree) (p : Path) (bytes : Bytes) : FileTree :=
  match t.at? p with
  | .ok (.file id) => t.setBytes id bytes
  | _ => t

theorem toNameTree_storedAt (t : FileTree) (p : Path) (bytes : Bytes) :
    (storedAt t p bytes).toNameTree = t.toNameTree := by
  unfold storedAt
  split <;> rfl

/-- Trees stay alike when bytes with the same text are stored in an input. -/
theorem alike_storedAt (h : Alike (SameText inputs) t u) (hp : ∀ id, t.LeadsTo p id → inputs id)
    {bytes bytes' : Bytes} (htext : textOfBytes bytes = textOfBytes bytes') :
    Alike (SameText inputs) (storedAt t p bytes) (storedAt u p bytes') := by
  unfold storedAt
  rw [h.names]
  split
  · next id hid => exact h.setBytes (Or.inr ⟨hp id (NameTree.leadsTo_iff.2 hid), htext⟩)
  · exact h

/-- A tree with the bytes of a source and of an option list stored where a request asks for them. -/
def Request.supplied (r : Request) (t : FileTree) (source list : Bytes) : FileTree :=
  match r.require? with
  | some (.path p) => storedAt (storedAt t r.source source) p list
  | _ => storedAt t r.source source

theorem toNameTree_supplied (r : Request) (t : FileTree) (source list : Bytes) :
    (r.supplied t source list).toNameTree = t.toNameTree := by
  unfold Request.supplied
  split
  · rw [toNameTree_storedAt, toNameTree_storedAt]
  · exact toNameTree_storedAt t r.source source

/-- Trees with the same two texts in them are alike. -/
theorem alike_supplied (t : FileTree) {source source' list list' : Bytes}
    (hsource : textOfBytes source = textOfBytes source') (hlist : textOfBytes list = textOfBytes list') :
    Alike (SameText (r.Reads t)) (r.supplied t source list) (r.supplied t source' list') := by
  have hstored : Alike (SameText (r.Reads t)) (storedAt t r.source source) (storedAt t r.source source') :=
    alike_storedAt (Alike.refl t) (fun id hid => Or.inl hid) hsource
  unfold Request.supplied
  split
  · next p hp =>
    refine alike_storedAt hstored ?_ hlist
    intro id hid
    rw [toNameTree_storedAt] at hid
    exact Or.inr ⟨p, hp, hid⟩
  · exact hstored

/-- A run on either of two trees with the same texts prints the same and leaves trees that are alike, if the output is
none of the files that hold them. -/
theorem run_of_alike {d : Defaults} {arguments : List Text}
    (hparse : Invocation.ofArguments d arguments = .ok (.run r)) (h : Alike (SameText inputs) t u)
    (hid : ∀ output id, r.output = .path output → t.LeadsTo output id → ¬ inputs id) :
    (t.run (run d arguments)).1 = (u.run (run d arguments)).1 ∧
      Alike (SameText inputs) (t.run (run d arguments)).2 (u.run (run d arguments)).2 := by
  rw [run_of_ofArguments hparse, run_of_ofArguments hparse]
  by_cases hmode : r.mode = .check
  · rw [run_perform_check hmode, run_perform_check hmode]
    exact ⟨perform_check_of_alike hmode h hid, h⟩
  · exact respects_perform hmode t u h

/-- Arguments that ask for no page make a run that reads nothing and changes nothing. -/
theorem run_of_no_request {d : Defaults} {arguments : List Text}
    (h : ∀ r, Invocation.ofArguments d arguments ≠ .ok (.run r)) :
    ∃ o : Outcome, ∀ t : FileTree, t.run (run d arguments) = (o, t) := by
  unfold run
  split
  · exact ⟨_, fun t => rfl⟩
  · split
    · exact ⟨_, fun t => rfl⟩
    · exact ⟨_, fun t => rfl⟩
  · next r hr => exact absurd hr (h r)

/-! ### Carriage returns -/

/-- The bytes of a page hold no carriage return, whatever the source is. -/
theorem carriageReturn_not_mem_of_compiles {page : Text} (h : t.Compiles p page) : 0x0d ∉ Utf8.encode page := by
  obtain ⟨s, hs, hpage⟩ := h
  obtain ⟨bytes, raw, -, -, rfl⟩ := FileTree.text_eq_ok_iff.1 hs
  intro hmem
  obtain ⟨c, hc, hcode⟩ := Utf8.exists_mem_of_mem_encode (by decide) hmem
  obtain rfl : c = '\r' := Char.toNat_inj.1 hcode
  exact Page.carriageReturn_not_mem_ofText hpage (Text.carriageReturn_not_mem_normalised raw) hc

/-- A page that was delivered by writing it stands in its file, as far as that keeps it. -/
theorem exists_hasPage_of_hasDelivered {page : Text} {delivery : Delivery} (hmode : r.mode = .write)
    (h : r.HasDelivered t page delivery u) :
    ∃ output l id, r.output = .path output ∧ t.HasPage u output (Utf8.encode page) l id := by
  obtain ⟨deliver, hdeliver, hrun⟩ := h.delivered
  obtain rfl := hdeliver.unique (Delivers.of_write hmode)
  rcases written_cases page r.output t with ⟨obstacle, v, -, hfail⟩ | ⟨output, v, l, id, houtput, hpage, hok⟩
  · rw [hfail] at hrun
    cases hrun
  · rw [hok] at hrun
    obtain rfl : v = u := congrArg Prod.snd hrun
    exact ⟨output, l, id, houtput, hpage⟩

/-! ### Line ends -/

theorem isApart_supplied (h : r.IsApart t) (source list : Bytes) :
    ∀ output id, r.output = .path output → (r.supplied t source list).LeadsTo output id → ¬ r.Reads t id := by
  intro output id houtput hid
  rw [toNameTree_supplied] at hid
  exact h output id houtput hid

/-- Alike trees hold the same bytes at a location where no input stands. -/
theorem Alike.bytes?_eq (h : Alike (SameText inputs) t u) {l : Location}
    (hid : ∀ id, t.node? l = some (.file id) → ¬ inputs id) : t.bytes? l = u.bytes? l := by
  unfold FileTree.bytes?
  rw [h.names]
  split
  · next id hnode => rw [h.bytes_eq fun _ _ hmay => hid id hnode hmay.1]
  · rfl

/-- **Line ends do not matter.**  For a source and an option list without carriage returns, a run prints the same and
ends in the same way, whichever line ends the two files are stored with, provided that the output leads to neither of
them; and it leaves the same bytes in its output, if the output leads to neither of them behind the run.  A run that has
no request depends on no file at all.  And the bytes of a page, which a run hands over to its output where it writes,
hold no carriage return, whatever its files held. -/
theorem run_with_line_ends (d : Defaults) (arguments : List Text) :
    (∀ (r : Request) (t : FileTree) (source list : Text), Invocation.ofArguments d arguments = .ok (.run r) →
      '\r' ∉ source → '\r' ∉ list → r.IsApart t → ∀ e f e' f' : LineEnd,
        let a := (r.supplied t (e.stored source) (f.stored list)).run (run d arguments)
        let b := (r.supplied t (e'.stored source) (f'.stored list)).run (run d arguments)
        a.1 = b.1 ∧ (r.IsApart a.2 → ∀ output, r.output = .path output →
          a.2.locate output = b.2.locate output ∧
            ∀ l, a.2.locate output = .ok l → a.2.bytes? l = b.2.bytes? l)) ∧
    ((∀ r, Invocation.ofArguments d arguments ≠ .ok (.run r)) →
      ∃ o : Outcome, ∀ t : FileTree, t.run (run d arguments) = (o, t)) ∧
    ∀ (r : Request) (t : FileTree) (page : Text), Invocation.ofArguments d arguments = .ok (.run r) →
      r.mode = .write → t.Compiles r.source page →
        0x0d ∉ Utf8.encode page ∧
          ∀ u delivery, r.HasDelivered t page delivery u →
            ∃ output l, r.output = .path output ∧ (t.run (run d arguments)).2.locate output = .ok l ∧
              (t.run (run d arguments)).2.bytes? l = some (t.rules.kept l (Utf8.encode page)).bytes := by
  refine ⟨?_, run_of_no_request, ?_⟩
  · intro r t source list hparse hsource hlist hapart e f e' f' a b
    have halike : Alike (SameText (r.Reads t)) (r.supplied t (e.stored source) (f.stored list))
        (r.supplied t (e'.stored source) (f'.stored list)) :=
      alike_supplied t ((textOfBytes_stored e hsource).trans (textOfBytes_stored e' hsource).symm)
        ((textOfBytes_stored f hlist).trans (textOfBytes_stored f' hlist).symm)
    obtain ⟨houtcome, htree⟩ := run_of_alike hparse halike (isApart_supplied hapart _ _)
    refine ⟨houtcome, ?_⟩
    intro hbehind output houtput
    have hnames : b.2.toNameTree = a.2.toNameTree := htree.names
    refine ⟨by rw [hnames], ?_⟩
    intro l hl
    -- what the request reads keeps its place in the run, so that it is not what stands at the output
    have hgrow : t.Grows a.2.toNameTree := by
      have h : (r.supplied t (e.stored source) (f.stored list)).Grows a.2.toNameTree := grows_after_run
      rw [toNameTree_supplied] at h
      exact h
    refine Alike.bytes?_eq htree ?_
    intro id hnode hreads
    exact hbehind output id houtput ⟨l, hl, hnode⟩ (hreads.of_grows hgrow)
  · intro r t page hparse hmode hcompiles
    refine ⟨carriageReturn_not_mem_of_compiles hcompiles, ?_⟩
    intro u delivery hdelivered
    obtain ⟨output, l, id, houtput, hhas⟩ := exists_hasPage_of_hasDelivered hmode hdelivered
    obtain ⟨before, -, hrun⟩ := exists_run_perform_of_hasDelivered hdelivered
    rw [run_of_ofArguments hparse, hrun]
    exact ⟨output, l, houtput, hhas.locate, hhas.bytes?_self⟩

/-! ### A page with its option list -/

/-- A source with one option. -/
def optionSource : Text := "## Options\n\n### --x\n\n<!-- YAML\n-->\n\nDoes x.\n".toList

/-- An option list with one more. -/
def optionList : Text := "--x\n--y\n".toList

/-- The page of the source with one option. -/
def optionPage : Text := Page.ofTables Page.standardFrame ⟨[⟨"--x".toList, "Does x.".toList⟩], []⟩

/-- Writing the page of `s.md` to `n.1` and checking it against `r.txt`. -/
def optionRequest : Request :=
  ⟨Path.ofText "s.md".toList, .path (Path.ofText "n.1".toList), some (.path (Path.ofText "r.txt".toList)), .write, 0⟩

/-- The arguments for it. -/
def optionArguments : List Text := ["s.md".toList, "-o".toList, "n.1".toList, "--require".toList, "r.txt".toList]

/-- The two files `s.md` and `r.txt`, with nothing in them. -/
def emptyFiles : FileTree := loneEmptySource.addFile (FileTree.workFile "r.txt".toList) []

/-- These files with the texts in them, with these line ends. -/
def optionFiles (e f : LineEnd) : FileTree :=
  optionRequest.supplied emptyFiles (e.stored optionSource) (f.stored optionList)

/-- A source whose line ends are two characters long and an option list that ends its lines in carriage returns alone:
the run is that on line feeds, and no carriage return is written. -/
theorem run_with_carriage_returns :
    let d := Defaults.below (Path.ofText [])
    Invocation.ofArguments d optionArguments = .ok (.run optionRequest) ∧
      ((optionFiles .both .carriageReturn).run (run d optionArguments)).1 =
        ((optionFiles .lineFeed .lineFeed).run (run d optionArguments)).1 ∧
      ((optionFiles .lineFeed .lineFeed).run (run d optionArguments)).2.bytes? (FileTree.workFile "n.1".toList) =
        some (Utf8.encode optionPage) ∧
      0x0d ∉ Utf8.encode optionPage ∧
      ∃ o : Outcome, ∀ t : FileTree, t.run (run d ["--check".toList, "--list".toList]) = (o, t) := by
  intro d
  have hparse : Invocation.ofArguments d optionArguments = .ok (.run optionRequest) := by rfl
  have hapart : optionRequest.IsApart emptyFiles := by
    intro output id houtput hid
    obtain rfl : Path.ofText "n.1".toList = output := Target.path.inj houtput
    have hmissing : emptyFiles.at? (Path.ofText "n.1".toList) = .error .missing := by rfl
    rw [NameTree.leadsTo_iff, hmissing] at hid
    cases hid
  have hplace : ((optionFiles .both .carriageReturn).run (run d optionArguments)).2.locate (Path.ofText "n.1".toList) =
      .ok (FileTree.workFile "n.1".toList) := by decide +kernel
  have hbehind : optionRequest.IsApart ((optionFiles .both .carriageReturn).run (run d optionArguments)).2 := by
    have hpage : ((optionFiles .both .carriageReturn).run (run d optionArguments)).2.at? (Path.ofText "n.1".toList) =
        .ok (.file 5) := by decide +kernel
    refine isApart_of_at? rfl hpage (by decide +kernel) ?_
    intro list hlist
    obtain rfl : Path.ofText "r.txt".toList = list := Target.path.inj (Option.some.inj hlist)
    decide +kernel
  have htext : (optionFiles .both .carriageReturn).text optionRequest.source = .ok optionSource := by decide +kernel
  have htables : extract .other (Text.lines optionSource) = .ok ⟨[⟨"--x".toList, "Does x.".toList⟩], []⟩ := by
    decide +kernel
  have hrules : (optionFiles .both .carriageReturn).rules = FileTree.openRules := by rfl
  have hplain : FileTree.openRules.IsPlain (FileTree.workFile "n.1".toList) :=
    FileTree.isPlain_openRules (by decide +kernel) (by decide +kernel) (by decide +kernel)
  -- the trees are compared as they are written: unfolding the run on both sides would evaluate the page
  unfold optionFiles at hplace hbehind htext hrules ⊢
  obtain ⟨hsame, -, hwritten⟩ := run_with_line_ends d optionArguments
  obtain ⟨houtcome, hbytes⟩ := hsame optionRequest emptyFiles optionSource optionList hparse (by decide) (by decide)
    hapart .both .carriageReturn .lineFeed .lineFeed
  obtain ⟨-, hbytes⟩ := hbytes hbehind (Path.ofText "n.1".toList) rfl
  have hcompiles := compiles_iff.2 ⟨_, _, htext, htables, rfl⟩
  obtain ⟨hnot, hpage⟩ := hwritten optionRequest _ optionPage hparse rfl hcompiles
  obtain ⟨output, l, houtput, hl, hpage⟩ := hpage _ ⟨Path.ofText "n.1".toList, "Wrote n.1\n".toList, 0⟩
    ⟨hcompiles, written, Delivers.write, Prod.ext (by rfl) rfl⟩
  obtain rfl : Path.ofText "n.1".toList = output := Target.path.inj houtput
  obtain rfl : FileTree.workFile "n.1".toList = l := Except.ok.inj (hplace.symm.trans hl)
  simp only [hrules, hplain.kept, hbytes _ hplace] at hpage
  have hunusable : Invocation.ofArguments d ["--check".toList, "--list".toList] = .error (.conflict .list .check) := by
    rfl
  refine ⟨hparse, houtcome, hpage, hnot, ?_⟩
  refine (run_with_line_ends d ["--check".toList, "--list".toList]).2.1 ?_
  intro q hq
  rw [hunusable] at hq
  cases hq

end Manpage.Command
