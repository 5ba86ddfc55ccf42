import Manpage.Proofs.Command.Course
import Manpage.Proofs.Command.Freshness
import Manpage.Proofs.Command.Failures
import Manpage.Proofs.Command.Obstacles
import Manpage.Proofs.Page.Compilation

/-!
# Exit statuses

A run ends with a status, whatever it finds among the files, provided that it can make sense of what it reads and
knows where to write.

* `Request.IsLegible` — no path holds a NUL, what is read is UTF-8, and every flag has a place in the order;
* `Request.IsStuck` — a target that is needed is nowhere, or more directories above the page are missing than the
  headroom allows for; `isReported_or_isStuck_of_stopsAt`: the only stops of a legible request that are not reported;
* `perform_exits_iff` — a legible request ends with the status 0 or 1 exactly if it is not stuck;
* `completes_cases` — a run that completes has the status 1 exactly if a check found the page out of date or an option
  undocumented;
* `exit_status_of_run` — the status of every run of the command, and `not_every_run_exits`, which shows that stuck
  requests have to be left out, whatever the headroom is.
-/

namespace Manpage.Command

variable {r : Request} {t u : FileTree} {page : Text} {d : Delivery}

/-! ### Requests -/

/-- What a request may count on: no path that it names holds a NUL, the source and the option list, if it is read, are
UTF-8, and no flag has a name that cannot be put in order. -/
structure Request.IsLegible (r : Request) (t : FileTree) : Prop where
  paths : ∀ p, r.Names p → p.holdsNul = false
  source : ∀ bytes, t.read r.source = .ok bytes → ∃ raw, Utf8.decode bytes = .ok raw
  list : ∀ page d u p bytes, r.HasDelivered t page d u → r.require? = some (.path p) → u.read p = .ok bytes →
    ∃ raw, Utf8.decode bytes = .ok raw
  flags : ∀ s, t.text r.source = .ok s →
    ∀ e ∈ entriesUnder [.options, .v8Options] .other (Text.lines s), '\u0130' ∉ e.name

/-- What keeps a request from its end without an error: the page or the option list is needed and has no place, or the
page is to be written and more directories above it are missing than the headroom allows for. -/
inductive Request.IsStuck (r : Request) (t : FileTree) : Prop
  | output {page : Text} (hmode : r.mode ≠ .list) (hpage : t.Compiles r.source page) (h : r.output = .nowhere)
  | deep {page : Text} {output : Path} (hmode : r.mode = .write) (hpage : t.Compiles r.source page)
    (houtput : r.output = .path output) (h : t.IsTooDeep output.parent)
  | list {page : Text} {d : Delivery} {u : FileTree} (hdelivered : r.HasDelivered t page d u)
    (h : r.require? = some .nowhere)

/-- An access that the request needs is refused or breaks off, or the document is malformed. -/
def Request.Fails (r : Request) (t : FileTree) : Prop := ∃ stop, r.StopsAt t stop ∧ stop.IsReported

/-- A check finds the page missing or different. -/
structure Request.FindsStale (r : Request) (t : FileTree) : Prop where
  mode : r.mode = .check
  stale : ∃ page output, t.Compiles r.source page ∧ r.output = .path output ∧ t.IsStale output page

/-- The delivered page lacks an option of the option list. -/
def Request.FindsUndocumented (r : Request) (t : FileTree) : Prop :=
  ∃ page d u p s, r.HasDelivered t page d u ∧ r.require? = some (.path p) ∧ u.text p = .ok s ∧
    Page.undocumented (readOptionList s) page ≠ []

theorem Request.IsLegible.output (h : r.IsLegible t) {p : Path} (hp : r.output = .path p) : p.holdsNul = false :=
  h.paths p (Or.inr (Or.inl hp))

theorem isReported_of_isTold {fault : Fault} (h : fault.IsTold) : Stop.IsReported (.obstacle (.access fault)) := by
  cases h with
  | refused cause path => exact Stop.IsReported.refused cause path
  | cut cause => exact Stop.IsReported.cut cause

section Legible

variable (hlegible : r.IsLegible t)
include hlegible

/-- Of a legible request, the only stops that are not reported are those of a request that is stuck. -/
theorem isReported_or_isStuck_of_stopsAt {stop : Stop} (h : r.StopsAt t stop) : stop.IsReported ∨ r.IsStuck t := by
  have houtput : ∀ p, r.output = .path p → p.holdsNul = false := fun p hp => hlegible.output hp
  cases h with
  | source h =>
    obtain ⟨fault, rfl, hfault⟩ :=
      FileTree.isTold_of_text (hlegible.paths r.source (Or.inl rfl)) hlegible.source h
    exact Or.inl (isReported_of_isTold hfault)
  | @document s f hs h =>
    cases f with
    | malformed m => exact Or.inl (Stop.IsReported.malformed m)
    | uncollatable name => exact absurd h (extract_ne_uncollatable (hlegible.flags s hs) name)
  | @delivery page deliver o hpage hdeliver h =>
    generalize hmode : r.mode = mode at hdeliver
    cases hdeliver with
    | write =>
      rcases written_eq_error houtput h with hnowhere | ⟨output, hplace, hdeep⟩ | ⟨fault, rfl, hfault⟩
      · exact Or.inr (.output (by simp [hmode]) hpage hnowhere)
      · exact Or.inr (.deep hmode hpage hplace hdeep)
      · exact Or.inl (isReported_of_isTold hfault)
    | check =>
      rcases compared_eq_error houtput h with hnowhere | ⟨fault, rfl, hfault⟩
      · exact Or.inr (.output (by simp [hmode]) hpage hnowhere)
      · exact Or.inl (isReported_of_isTold hfault)
  | nowhere hdelivered h => exact Or.inr (.list hdelivered h)
  | @list page d u list o hdelivered hlist h =>
    obtain ⟨fault, rfl, hfault⟩ := FileTree.isTold_of_text (hlegible.paths list (Or.inr (Or.inr hlist)))
      (fun bytes hbytes => hlegible.list page d u list bytes hdelivered hlist hbytes) h
    exact Or.inl (isReported_of_isTold hfault)

/-- A stuck request stops, and the stop is not reported. -/
theorem exists_stopsAt_of_isStuck (h : r.IsStuck t) : ∃ stop, r.StopsAt t stop ∧ ¬ stop.IsReported := by
  cases h with
  | @output page hmode hpage h =>
    obtain ⟨deliver, hdeliver⟩ := exists_delivers hmode
    have hnowhere : ∃ need, (t.run (deliver page r.output)).1 = .error (.nowhere need) := by
      rw [h]
      generalize r.mode = mode at hdeliver
      cases hdeliver with
      | write => exact ⟨.directory, rfl⟩
      | check => exact ⟨.presence, rfl⟩
    obtain ⟨need, hneed⟩ := hnowhere
    exact ⟨_, .delivery hpage hdeliver hneed, Stop.not_isReported_of_outcome r.source rfl⟩
  | @deep page output hmode hpage houtput h =>
    have hwritten : (t.run (written page r.output)).1 = .error (.access .tooDeep) := by
      rw [houtput, written, FileTree.run_bind, writePage_of_isTooDeep (hlegible.output houtput) h]
      rfl
    exact ⟨_, .delivery hpage (Delivers.of_write hmode) hwritten, Stop.not_isReported_of_outcome r.source rfl⟩
  | list hdelivered h => exact ⟨_, .nowhere hdelivered h, Stop.not_isReported_of_outcome r.source rfl⟩

/-- A delivery has the status 1 exactly if it was a check that found the page missing or different. -/
theorem status_of_hasDelivered (h : r.HasDelivered t page d u) :
    d.status = 1 ∧ r.FindsStale t ∨ d.status = 0 ∧ ¬ r.FindsStale t := by
  obtain ⟨deliver, hdeliver, hrun⟩ := h.delivered
  have hdelivered : (t.run (deliver page r.output)).1 = .ok d := congrArg Prod.fst hrun
  generalize hmode : r.mode = mode at hdeliver
  cases hdeliver with
  | write =>
    refine Or.inr ⟨status_of_written hdelivered, ?_⟩
    intro hstale
    rw [hstale.mode] at hmode
    cases hmode
  | check =>
    obtain ⟨output, houtput, hcases⟩ := status_of_compared (fun p hp => hlegible.output hp) hdelivered
    refine hcases.imp (And.imp_right ?_) (And.imp_right ?_)
    · exact fun hstale => ⟨hmode, page, output, h.compiles, houtput, hstale⟩
    · rintro hfresh ⟨-, page', output', hpage', houtput', hstale⟩
      obtain rfl := h.compiles.unique hpage'
      obtain rfl : output = output' := Target.path.inj (houtput.symm.trans houtput')
      exact hfresh hstale

/-- A run that completes has the status 1 exactly if a check found the page out of date or an option undocumented. -/
theorem completes_cases {status : Nat} (h : r.Completes t status) :
    status = 1 ∧ (r.FindsStale t ∨ r.FindsUndocumented t) ∨
      status = 0 ∧ ¬ (r.FindsStale t ∨ r.FindsUndocumented t) := by
  cases h with
  | listed hmode hs h =>
    refine Or.inr ⟨rfl, ?_⟩
    rintro (hstale | ⟨page, d, u, p, s, ⟨-, deliver, hdeliver, -⟩, -⟩)
    · rw [hstale.mode] at hmode
      cases hmode
    · rw [hmode] at hdeliver
      cases hdeliver
  | @delivered page d u hdelivered hrequire =>
    have hnone : ¬ r.FindsUndocumented t := by
      rintro ⟨-, -, -, p, -, -, hlist, -⟩
      rw [hrequire] at hlist
      cases hlist
    simpa only [hnone, or_false] using status_of_hasDelivered hlegible hdelivered
  | @checked page d u list s hdelivered hlist h =>
    by_cases hmissing : Page.undocumented (readOptionList s) page = []
    · have hnone : ¬ r.FindsUndocumented t := by
        rintro ⟨page', d', u', p, s', hdelivered', hp, hs', hne⟩
        obtain ⟨rfl, -, rfl⟩ := hdelivered.unique hdelivered'
        obtain rfl : list = p := Target.path.inj (Option.some.inj (hlist.symm.trans hp))
        obtain rfl : s = s' := Except.ok.inj (h.symm.trans hs')
        exact hne hmissing
      simpa only [hnone, or_false, if_pos hmissing] using status_of_hasDelivered hlegible hdelivered
    · exact Or.inl ⟨if_neg hmissing, Or.inr ⟨page, d, u, list, s, hdelivered, hlist, h, hmissing⟩⟩

/-- A legible request ends with the status 0 or 1 exactly if it is not stuck. -/
theorem perform_exits_iff :
    (t.run r.perform).1.ending = .exit 0 ∨ (t.run r.perform).1.ending = .exit 1 ↔ ¬ r.IsStuck t := by
  constructor
  · intro hexits hstuck
    obtain ⟨stop, hstop, hunreported⟩ := exists_stopsAt_of_isStuck hlegible hstuck
    obtain ⟨⟨reason, hending⟩, -⟩ := perform_of_not_isReported hstop hunreported
    rw [hending] at hexits
    rcases hexits with h | h <;> cases h
  · intro hstuck
    rcases stops_or_completes r t with ⟨stop, hstop⟩ | ⟨status, hstatus⟩
    · have hreported := (isReported_or_isStuck_of_stopsAt hlegible hstop).resolve_right hstuck
      exact Or.inr (perform_of_isReported hstop hreported).1
    · rw [(perform_of_completes hstatus).1]
      rcases completes_cases hlegible hstatus with ⟨rfl, -⟩ | ⟨rfl, -⟩
      · exact Or.inr rfl
      · exact Or.inl rfl

/-- Where nothing fails and nothing is stuck, the status is 1 exactly if something was found. -/
theorem perform_status_iff (hfails : ¬ r.Fails t) (hstuck : ¬ r.IsStuck t) :
    (t.run r.perform).1.ending = .exit 1 ↔ r.FindsStale t ∨ r.FindsUndocumented t := by
  rcases stops_or_completes r t with ⟨stop, hstop⟩ | ⟨status, hstatus⟩
  · have hreported := (isReported_or_isStuck_of_stopsAt hlegible hstop).resolve_right hstuck
    exact absurd ⟨stop, hstop, hreported⟩ hfails
  · rw [(perform_of_completes hstatus).1]
    rcases completes_cases hlegible hstatus with ⟨rfl, hfinds⟩ | ⟨rfl, hfinds⟩
    · simp [hfinds]
    · simp [hfinds]

end Legible

/-- A failed run ends with the status 1 and reports its error, and no other run does both. -/
theorem perform_fails_iff :
    (t.run r.perform).1.ending = .exit 1 ∧ (t.run r.perform).1.ReportsError ↔ r.Fails t := by
  constructor
  · rintro ⟨-, hreports⟩
    exact perform_reportsError_iff.1 hreports
  · rintro ⟨stop, hstop, hreported⟩
    exact perform_of_isReported hstop hreported

/-! ### Runs of the command -/

/-- Default paths without a percent sign are shown in the help as they are. -/
theorem exists_help {d : Defaults} (hsource : '%' ∉ d.source.text) (houtput : '%' ∉ d.output.text) :
    ∃ shown, help d = .ok shown := by
  have hsource' : ∃ meaning, sourceMeaning d = .ok meaning := ⟨_, Template.fill_of_not_mem _ (by simp [hsource])⟩
  have houtput' : ∃ meaning, outputMeaning d = .ok meaning := ⟨_, Template.fill_of_not_mem _ (by simp [houtput])⟩
  obtain ⟨source, hsource⟩ := hsource'
  obtain ⟨output, houtput⟩ := houtput'
  rw [help, hsource, houtput]
  exact ⟨_, rfl⟩

/-- **The status of a run.**  Arguments that make no sense end with the status 2, and help ends with 0 where no percent
sign stands in the default paths.  A legible request that is not stuck ends with 0 or 1: with 1 and the report of an
error exactly if an access is refused or breaks off or the document is malformed, and else with 1 exactly if a check
finds the page missing or different, or the page lacks an option of the option list. -/
theorem exit_status_of_run (d : Defaults) (arguments : List Text) (t : FileTree) :
    (∀ e, Invocation.ofArguments d arguments = .error e → (t.run (run d arguments)).1.ending = .exit 2) ∧
      (Invocation.ofArguments d arguments = .ok .help → '%' ∉ d.source.text → '%' ∉ d.output.text →
        (t.run (run d arguments)).1.ending = .exit 0) ∧
      ∀ r, Invocation.ofArguments d arguments = .ok (.run r) → r.IsLegible t → ¬ r.IsStuck t →
        ((t.run (run d arguments)).1.ending = .exit 0 ∨ (t.run (run d arguments)).1.ending = .exit 1) ∧
        ((t.run (run d arguments)).1.ending = .exit 1 ∧ (t.run (run d arguments)).1.ReportsError ↔ r.Fails t) ∧
        (¬ r.Fails t →
          ((t.run (run d arguments)).1.ending = .exit 1 ↔ r.FindsStale t ∨ r.FindsUndocumented t)) := by
  refine ⟨?_, ?_, ?_⟩
  · intro e he
    rw [run, he]
    rfl
  · intro hhelp hsource houtput
    obtain ⟨shown, hshown⟩ := exists_help hsource houtput
    rw [run, hhelp]
    dsimp only
    rw [hshown]
    rfl
  · intro r hr hlegible hstuck
    rw [run_of_ofArguments hr]
    exact ⟨(perform_exits_iff hlegible).2 hstuck, perform_fails_iff,
      fun hfails => perform_status_iff hlegible hfails hstuck⟩

/-! ### An empty source -/

/-- An empty source is legible, whatever is to be done with its page, as long as no option list is asked for. -/
theorem isLegible_of_text_eq_nil (hsource : t.text (Path.ofText "s.md".toList) = .ok []) (output : Target)
    (houtput : ∀ p, output = .path p → p.holdsNul = false) (mode : Mode) :
    (⟨Path.ofText "s.md".toList, output, none, mode, 0⟩ : Request).IsLegible t where
  paths := by
    rintro p (rfl | hp | hp)
    · rfl
    · exact houtput p hp
    · cases hp
  source := by
    intro bytes hread
    obtain ⟨found, raw, hcontents, hraw, -⟩ := FileTree.text_eq_ok_iff.1 hsource
    obtain ⟨-, hfound⟩ := FileTree.contents_eq_ok_iff.1 hcontents
    obtain rfl := Except.ok.inj (hfound.symm.trans hread)
    exact ⟨raw, hraw⟩
  list := by
    intro page d u p bytes _ hp
    cases hp
  flags := by
    intro s hs
    obtain rfl := Except.ok.inj (hsource.symm.trans hs)
    decide

/-- The page that is to be checked is missing, so the status is 1, and no error is reported; an unknown switch and help
have their own statuses. -/
theorem exit_status_of_missing_page :
    let d := Defaults.below (Path.ofText [])
    let checking := ["--check".toList, "s.md".toList, "-o".toList, "n.1".toList]
    let r : Request := ⟨Path.ofText "s.md".toList, .path (Path.ofText "n.1".toList), none, .check, 0⟩
    (loneEmptySource.run (run d ["-x".toList])).1.ending = .exit 2 ∧
      (loneEmptySource.run (run d ["-h".toList])).1.ending = .exit 0 ∧
      r.IsLegible loneEmptySource ∧ ¬ r.IsStuck loneEmptySource ∧ ¬ r.Fails loneEmptySource ∧
      r.FindsStale loneEmptySource ∧ (loneEmptySource.run (run d checking)).1.ending = .exit 1 := by
  intro d checking r
  have hparse : Invocation.ofArguments d checking = .ok (.run r) := by rfl
  have hunknown : Invocation.ofArguments d ["-x".toList] = .error (.unrecognized ["-x".toList]) := by rfl
  have hhelp : Invocation.ofArguments d ["-h".toList] = .ok .help := by rfl
  have hsource : loneEmptySource.text (Path.ofText "s.md".toList) = .ok [] := by decide +kernel
  have hlegible : r.IsLegible loneEmptySource :=
    isLegible_of_text_eq_nil hsource _ (fun p hp => by obtain rfl := Target.path.inj hp; rfl) .check
  have hstuck : ¬ r.IsStuck loneEmptySource := by
    rintro (⟨-, -, h⟩ | ⟨h, -⟩ | ⟨-, h⟩) <;> cases h
  have habsent : loneEmptySource.at? (Path.ofText "n.1".toList) = .error .missing := by decide +kernel
  have hstale : r.FindsStale loneEmptySource :=
    ⟨rfl, emptyPage, Path.ofText "n.1".toList, compiles_loneEmptySource, rfl, Or.inl ⟨.missing, habsent, rfl⟩⟩
  obtain ⟨-, hreports, hstatus⟩ := (exit_status_of_run d checking loneEmptySource).2.2 r hparse hlegible hstuck
  have hfails : ¬ r.Fails loneEmptySource := by
    intro hfails
    refine (hreports.2 hfails).2 ?_
    decide +kernel
  exact ⟨(exit_status_of_run d _ loneEmptySource).1 _ hunknown,
    (exit_status_of_run d _ loneEmptySource).2.1 hhelp (by decide) (by decide), hlegible, hstuck,
    hfails, hstale, (hstatus hfails).2 (Or.inl hstale)⟩

/-- A page below many directories. -/
def deepPage (depth : Nat) : Path := ⟨.here, List.replicate depth ['a'] ++ ["n.1".toList]⟩

theorem name_of_mem_deepPage {depth : Nat} {name : Text} (h : name ∈ (deepPage depth).names) :
    name = ['a'] ∨ name = "n.1".toList :=
  (List.mem_append.1 h).imp List.eq_of_mem_replicate List.mem_singleton.1

theorem text_deepPage (depth : Nat) : (deepPage depth).text = Text.joined ['/'] (deepPage depth).names := by
  simp [Path.text, deepPage, Anchor.text]

theorem exists_text_deepPage (depth : Nat) : ∃ rest, (deepPage (depth + 1)).text = 'a' :: rest := by
  have hne : List.replicate depth ['a'] ++ ["n.1".toList] ≠ [] := by simp
  rw [text_deepPage, deepPage, List.replicate_succ, List.cons_append, Text.joined_cons _ _ hne]
  exact ⟨_, rfl⟩

theorem ofText_text_deepPage (depth : Nat) : Path.ofText (deepPage (depth + 1)).text = deepPage (depth + 1) := by
  have hslash : ∀ name ∈ (deepPage (depth + 1)).names, '/' ∉ name := by
    intro name hname
    rcases name_of_mem_deepPage hname with rfl | rfl <;> decide
  have hleads : ∀ name ∈ (deepPage (depth + 1)).names, Path.leads name = true := by
    intro name hname
    rcases name_of_mem_deepPage hname with rfl | rfl <;> decide
  have hpieces : Text.pieces '/' (deepPage (depth + 1)).text = (deepPage (depth + 1)).names := by
    rw [text_deepPage]
    exact Text.pieces_joined (List.cons_ne_nil _ _) hslash
  have hanchor : Anchor.ofText (deepPage (depth + 1)).text = .here := by
    obtain ⟨rest, hrest⟩ := exists_text_deepPage depth
    rw [hrest]
    rfl
  rw [Path.ofText, hpieces, List.filter_eq_self.2 hleads, hanchor]
  rfl

theorem holdsNul_deepPage (depth : Nat) : (deepPage depth).holdsNul = false := by
  rw [Path.holdsNul, List.any_eq_false]
  intro name hname
  rcases name_of_mem_deepPage hname with rfl | rfl <;> decide

/-- The empty source for a program with some headroom. -/
def loneSourceWithin (headroom : Nat) : FileTree := { loneEmptySource with headroom := headroom }

theorem isTooDeep_parent_deepPage {headroom : Nat} (h : headroom ≤ 2000) :
    (loneSourceWithin headroom).IsTooDeep (deepPage (headroom + 2)).parent := by
  have hparent : (deepPage (headroom + 2)).parent = ⟨.here, List.replicate (headroom + 2) ['a']⟩ := by
    rw [Path.parent, deepPage, List.dropLast_concat]
  rw [hparent]
  have hname : (Utf8.encode ['a']).length = 1 := by decide
  refine FileTree.isTooDeep_replicate rfl rfl rfl (by decide) (Nat.lt_succ_self _) ?_
  rw [hname, NameTree.maxPathSize]
  omega

/-- Not every legible request ends with a status: the divider attached to `-o` gives no path; and whatever the headroom
is, so many directories may be missing that they are not made. -/
theorem not_every_run_exits :
    (¬ ∀ (d : Defaults) (arguments : List Text) (r : Request) (t : FileTree),
      Invocation.ofArguments d arguments = .ok (.run r) → r.IsLegible t →
        (t.run (run d arguments)).1.ending = .exit 0 ∨ (t.run (run d arguments)).1.ending = .exit 1) ∧
      ∀ headroom ≤ 2000, ¬ ∀ (d : Defaults) (arguments : List Text) (r : Request) (t : FileTree),
        t.headroom = headroom → Invocation.ofArguments d arguments = .ok (.run r) → r.IsLegible t →
          r.output ≠ .nowhere → r.require? ≠ some .nowhere →
          (t.run (run d arguments)).1.ending = .exit 0 ∨ (t.run (run d arguments)).1.ending = .exit 1 := by
  let d := Defaults.below (Path.ofText [])
  constructor
  · intro h
    have hparse : Invocation.ofArguments d ["--check".toList, "s.md".toList, "-o--".toList] =
        .ok (.run ⟨Path.ofText "s.md".toList, .nowhere, none, .check, 0⟩) := by rfl
    have hsource : loneEmptySource.text (Path.ofText "s.md".toList) = .ok [] := by decide +kernel
    have hlegible := isLegible_of_text_eq_nil hsource .nowhere nofun .check
    have hexits := h d _ _ loneEmptySource hparse hlegible
    rw [run_of_ofArguments hparse] at hexits
    exact (perform_exits_iff hlegible).1 hexits (.output nofun compiles_loneEmptySource rfl)
  · intro headroom hheadroom h
    obtain ⟨rest, hrest⟩ := exists_text_deepPage (headroom + 1)
    have hparse : Invocation.ofArguments d ["s.md".toList, "-o".toList, (deepPage (headroom + 2)).text] =
        .ok (.run ⟨Path.ofText "s.md".toList, .path (Path.ofText (deepPage (headroom + 2)).text), none, .write, 0⟩) := by
      rw [hrest]
      rfl
    rw [ofText_text_deepPage] at hparse
    have hsource : (loneSourceWithin headroom).text (Path.ofText "s.md".toList) = .ok [] := by rfl
    have hlegible := isLegible_of_text_eq_nil hsource (.path (deepPage (headroom + 2)))
      (fun p hp => Target.path.inj hp ▸ holdsNul_deepPage _) .write
    have hexits := h d _ _ (loneSourceWithin headroom) rfl hparse hlegible nofun nofun
    rw [run_of_ofArguments hparse] at hexits
    exact (perform_exits_iff hlegible).1 hexits
      (.deep rfl (compiles_of_text_eq_nil hsource) rfl (isTooDeep_parent_deepPage hheadroom))

end Manpage.Command
