import Manpage.Proofs.Command.Printing

/-!
# The course of a run

A request is served step by step.  Either some step stops the run, or the run completes with a status.

* `Stop`, `Stop.IsReported` — what stops a run, and which stops are reported as errors: an access that is refused or
  breaks off, and a malformed document; `Stop.outcome_cases`: any other ends the run without a status;
* `Request.HasDelivered` — the page of the source has been delivered;
* `Request.StopsAt` — where a run stops; `Request.Completes` — the status with which it completes;
  `stops_or_completes`: there is no third case;
* `perform_of_stopsAt`, `exists_perform_of_completes` — what is printed then, behind nothing but reports of progress;
* `perform_of_isReported`, `perform_of_not_isReported`, `perform_of_completes` — the three ways in which a run ends;
* `perform_reportsError_iff` — so an error is reported exactly where a stop is one that is.
-/

namespace Manpage.Command

variable {r : Request} {t u : FileTree} {page : Text} {d : Delivery}

/-! ### Stops -/

/-- What stops a run. -/
inductive Stop where
  | obstacle (o : Obstacle)
  | failure (f : Failure)
  deriving DecidableEq, Repr

/-- How a stop ends a run on a source. -/
def Stop.outcome (source : Path) : Stop → Outcome
  | .obstacle o => o.outcome
  | .failure f => failureOutcome source f

/-- The stops that are reported as errors. -/
inductive Stop.IsReported : Stop → Prop
  | refused (cause : Cause) (path : Path) : IsReported (.obstacle (.access (.refused cause path)))
  | cut (cause : Cause) : IsReported (.obstacle (.access (.cut cause)))
  | malformed (m : Malformed) : IsReported (.failure (.malformed m))

theorem Stop.not_isReported_of_outcome (source : Path) {stop : Stop} {reason : Abort}
    (h : stop.outcome source = ⟨.empty, .abort reason⟩) : ¬ stop.IsReported := by
  intro hreported
  cases hreported with
  | refused cause path => cases h
  | cut cause => cases h
  | malformed m => cases h

/-- A stop ends the run with a report and the status 1, or without a word and without a status. -/
theorem Stop.outcome_cases (source : Path) (stop : Stop) :
    stop.IsReported ∧ (∃ message, stop.outcome source = .failed message) ∨
      ¬ stop.IsReported ∧ ∃ reason, stop.outcome source = ⟨.empty, .abort reason⟩ := by
  have hsilent {reason : Abort} (h : stop.outcome source = ⟨.empty, .abort reason⟩) :
      ¬ stop.IsReported ∧ ∃ reason, stop.outcome source = ⟨.empty, .abort reason⟩ :=
    ⟨not_isReported_of_outcome source h, reason, h⟩
  match stop with
  | .obstacle (.access (.refused cause path)) => exact Or.inl ⟨IsReported.refused cause path, _, rfl⟩
  | .obstacle (.access (.cut cause)) => exact Or.inl ⟨IsReported.cut cause, _, rfl⟩
  | .failure (.malformed m) => exact Or.inl ⟨IsReported.malformed m, _, rfl⟩
  | .obstacle (.access .nul) => exact Or.inr (hsilent rfl)
  | .obstacle (.access .tooDeep) => exact Or.inr (hsilent rfl)
  | .obstacle (.undecodable fault) => exact Or.inr (hsilent rfl)
  | .obstacle (.nowhere need) => exact Or.inr (hsilent rfl)
  | .failure (.uncollatable name) => exact Or.inr (hsilent rfl)

/-! ### Steps -/

theorem Delivers.unique {mode : Mode} {deliver deliver' : Text → Target → StateM FileTree (Except Obstacle Delivery)}
    (h : Delivers mode deliver) (h' : Delivers mode deliver') : deliver = deliver' := by
  cases h <;> cases h' <;> rfl

theorem exists_delivers {mode : Mode} (h : mode ≠ .list) : ∃ deliver, Delivers mode deliver := by
  cases mode with
  | write => exact ⟨written, Delivers.write⟩
  | check => exact ⟨compared, Delivers.check⟩
  | list => exact absurd rfl h

/-- The page of the source has been delivered, which leaves the second tree. -/
structure Request.HasDelivered (r : Request) (t : FileTree) (page : Text) (d : Delivery) (u : FileTree) : Prop where
  compiles : t.Compiles r.source page
  delivered : ∃ deliver, Delivers r.mode deliver ∧ t.run (deliver page r.output) = (.ok d, u)

/-- A page is delivered in one way only. -/
theorem Request.HasDelivered.unique (h : r.HasDelivered t page d u) {page' : Text} {d' : Delivery} {u' : FileTree}
    (h' : r.HasDelivered t page' d' u') : page = page' ∧ d = d' ∧ u = u' := by
  obtain rfl := h.compiles.unique h'.compiles
  obtain ⟨deliver, hdeliver, hrun⟩ := h.delivered
  obtain ⟨deliver', hdeliver', hrun'⟩ := h'.delivered
  obtain rfl := hdeliver.unique hdeliver'
  rw [hrun, Prod.mk.injEq, Except.ok.injEq] at hrun'
  exact ⟨rfl, hrun'⟩

/-- Where a run stops: at the source, at the text in it, at the delivery of the page, or at the option list. -/
inductive Request.StopsAt (r : Request) (t : FileTree) : Stop → Prop
  | source {o : Obstacle} (h : t.text r.source = .error o) : r.StopsAt t (.obstacle o)
  | document {s : Text} {f : Failure} (hs : t.text r.source = .ok s) (h : extract .other (Text.lines s) = .error f) :
    r.StopsAt t (.failure f)
  | delivery {page : Text} {deliver : Text → Target → StateM FileTree (Except Obstacle Delivery)} {o : Obstacle}
    (hpage : t.Compiles r.source page) (hdeliver : Delivers r.mode deliver)
    (h : (t.run (deliver page r.output)).1 = .error o) : r.StopsAt t (.obstacle o)
  | nowhere {page : Text} {d : Delivery} {u : FileTree} (hdelivered : r.HasDelivered t page d u)
    (h : r.require? = some .nowhere) : r.StopsAt t (.obstacle (.nowhere .content))
  | list {page : Text} {d : Delivery} {u : FileTree} {list : Path} {o : Obstacle}
    (hdelivered : r.HasDelivered t page d u) (hlist : r.require? = some (.path list)) (h : u.text list = .error o) :
    r.StopsAt t (.obstacle o)

/-- The status with which a run completes: behind the listing, the delivery, or the check against the option list. -/
inductive Request.Completes (r : Request) (t : FileTree) : Nat → Prop
  | listed {s : Text} {tables : Tables} (hmode : r.mode = .list) (hs : t.text r.source = .ok s)
    (h : extract .other (Text.lines s) = .ok tables) : r.Completes t 0
  | delivered {page : Text} {d : Delivery} {u : FileTree} (hdelivered : r.HasDelivered t page d u)
    (h : r.require? = none) : r.Completes t d.status
  | checked {page : Text} {d : Delivery} {u : FileTree} {list : Path} {s : Text}
    (hdelivered : r.HasDelivered t page d u) (hlist : r.require? = some (.path list)) (h : u.text list = .ok s) :
    r.Completes t (if Page.undocumented (readOptionList s) page = [] then d.status else 1)

/-- Every run stops or completes. -/
theorem stops_or_completes (r : Request) (t : FileTree) :
    (∃ stop, r.StopsAt t stop) ∨ ∃ status, r.Completes t status := by
  cases hs : t.text r.source with
  | error o => exact Or.inl ⟨_, .source hs⟩
  | ok s =>
    cases htables : extract .other (Text.lines s) with
    | error f => exact Or.inl ⟨_, .document hs htables⟩
    | ok tables =>
      by_cases hmode : r.mode = .list
      · exact Or.inr ⟨_, .listed hmode hs htables⟩
      · obtain ⟨deliver, hdeliver⟩ := exists_delivers hmode
        have hpage : t.Compiles r.source (Page.ofTables Page.standardFrame tables) :=
          compiles_iff.2 ⟨s, tables, hs, htables, rfl⟩
        rcases hrun : t.run (deliver (Page.ofTables Page.standardFrame tables) r.output) with ⟨o | d, u⟩
        · exact Or.inl ⟨_, .delivery hpage hdeliver (congrArg Prod.fst hrun)⟩
        · have hdelivered : r.HasDelivered t _ d u := ⟨hpage, deliver, hdeliver, hrun⟩
          match hrequire : r.require? with
          | none => exact Or.inr ⟨_, .delivered hdelivered hrequire⟩
          | some .nowhere => exact Or.inl ⟨_, .nowhere hdelivered hrequire⟩
          | some (.path list) =>
            cases hlist : u.text list with
            | error o => exact Or.inl ⟨_, .list hdelivered hrequire hlist⟩
            | ok s => exact Or.inr ⟨_, .checked hdelivered hrequire hlist⟩

/-! ### Ends -/

/-- What a run prints on its way and reports no error in. -/
def Transcript.IsQuiet (a : Transcript) : Prop := ∀ s, errorLines (a.stderr ++ s) = errorLines s

theorem isQuiet_printed (s : Text) : (Transcript.printed s).IsQuiet := fun _ => rfl

theorem Transcript.IsQuiet.append {a b : Transcript} (ha : a.IsQuiet) (hb : b.IsQuiet) : (a ++ b).IsQuiet := by
  intro s
  rw [Transcript.stderr_append, List.append_assoc, ha, hb]

theorem isQuiet_printNotes (verbosity : Nat) (s : Text) :
    (printNotes verbosity (Walk.of .other (Text.lines s))).IsQuiet :=
  errorLines_printNotes_append (lineFeed_not_mem_message_of_lines _ s) verbosity

theorem isQuiet_opening (verbosity : Nat) (s : Text) (tables : Tables) : (opening verbosity s tables).IsQuiet :=
  errorLines_opening_append verbosity s tables

theorem isQuiet_requireRecord (verbosity : Nat) (options missing : List Text) :
    ((requireRecord options missing).print verbosity).IsQuiet :=
  errorLines_print_append (isOneLine_requireRecord options missing) verbosity

/-- Behind a delivered page, a run closes. -/
theorem exists_run_perform_of_hasDelivered (h : r.HasDelivered t page d u) :
    ∃ before : Transcript, before.IsQuiet ∧ t.run r.perform = ((r.closing page u (.ok d)).after before, u) := by
  obtain ⟨s, tables, hs, htables, hof⟩ := compiles_iff.1 h.compiles
  obtain ⟨deliver, hdeliver, hrun⟩ := h.delivered
  rw [hof] at hrun ⊢
  exact ⟨opening r.verbosity s tables, isQuiet_opening _ s tables, run_perform_publish hdeliver hs htables hrun⟩

/-- A stop ends the run. -/
theorem perform_of_stopsAt {stop : Stop} (h : r.StopsAt t stop) :
    ∃ before : Transcript, before.IsQuiet ∧ (t.run r.perform).1 = (stop.outcome r.source).after before := by
  cases h with
  | source h =>
    refine ⟨.printed [], isQuiet_printed [], ?_⟩
    rw [run_perform_of_text_error h]
    rfl
  | @document s f hs h =>
    refine ⟨_, isQuiet_printNotes r.verbosity s, ?_⟩
    rw [run_perform_of_extract_error hs h]
    rfl
  | @delivery page deliver o hpage hdeliver h =>
    obtain ⟨s, tables, hs, htables, hof⟩ := compiles_iff.1 hpage
    have hrun : t.run (deliver (Page.ofTables Page.standardFrame tables) r.output) = (.error o, _) :=
      Prod.ext (hof ▸ h) rfl
    refine ⟨opening r.verbosity s tables, isQuiet_opening _ s tables, ?_⟩
    rw [run_perform_publish hdeliver hs htables hrun]
    rfl
  | @nowhere page d u hdelivered hrequire =>
    obtain ⟨before, hquiet, hrun⟩ := exists_run_perform_of_hasDelivered hdelivered
    refine ⟨_, hquiet.append (isQuiet_printed d.line), ?_⟩
    rw [hrun, Request.closing, hrequire, ← Outcome.after_after]
    rfl
  | @list page d u list o hdelivered hrequire h =>
    obtain ⟨before, hquiet, hrun⟩ := exists_run_perform_of_hasDelivered hdelivered
    refine ⟨_, hquiet.append (isQuiet_printed d.line), ?_⟩
    rw [hrun, Request.closing, hrequire, ← Outcome.after_after]
    simp only [h]
    rfl

/-- A run that completes ends with its status, and what it prints is quiet. -/
theorem exists_perform_of_completes {status : Nat} (h : r.Completes t status) :
    ∃ transcript : Transcript, transcript.IsQuiet ∧ (t.run r.perform).1 = ⟨transcript, .exit status⟩ := by
  cases h with
  | listed hmode hs h =>
    exact ⟨_, (isQuiet_printNotes _ _).append (isQuiet_printed _), by rw [run_perform_of_list hmode hs h]⟩
  | @delivered page d u hdelivered hrequire =>
    obtain ⟨before, hquiet, hrun⟩ := exists_run_perform_of_hasDelivered hdelivered
    refine ⟨_, hquiet.append (isQuiet_printed d.line), ?_⟩
    rw [hrun, Request.closing, hrequire]
    rfl
  | @checked page d u list s hdelivered hrequire h =>
    obtain ⟨before, hquiet, hrun⟩ := exists_run_perform_of_hasDelivered hdelivered
    have hchecked := (isQuiet_requireRecord r.verbosity (readOptionList s)
      (Page.undocumented (readOptionList s) page)).append (isQuiet_printed
        ((Page.undocumented (readOptionList s) page).flatMap (missingLine d.output)))
    refine ⟨_, hquiet.append ((isQuiet_printed d.line).append hchecked), ?_⟩
    rw [hrun, Request.closing, hrequire]
    simp only [h]
    rfl

theorem Transcript.IsQuiet.reportsError_after_iff {a : Transcript} (h : a.IsQuiet) (o : Outcome) :
    (o.after a).ReportsError ↔ o.ReportsError := by
  rw [Outcome.ReportsError, Outcome.transcript_after, Transcript.stderr_append, h]
  rfl

theorem Transcript.IsQuiet.not_reportsError {a : Transcript} (h : a.IsQuiet) (ending : Ending) :
    ¬ (⟨a, ending⟩ : Outcome).ReportsError := by
  have hlines := h []
  rw [List.append_nil, errorLines_nil] at hlines
  exact fun herror => herror hlines

/-- A run that fails reports an error. -/
theorem reportsError_failed (message : Text) : (Outcome.failed message).ReportsError := by
  show errorLines ("error: ".toList ++ message ++ ['\n']) ≠ []
  rw [errorLines, List.append_assoc, Text.lines, Text.pieces_append_of_not_mem (by decide)]
  cases hlines : Text.pieces '\n' (message ++ ['\n']) with
  | nil => exact absurd hlines (Text.pieces_ne_nil _ _)
  | cons l ls =>
    have hopens : Text.opensWith "error: ".toList ("error: ".toList ++ l) = true := by rfl
    rw [List.modifyHead_cons, List.filter_cons_of_pos hopens]
    exact List.cons_ne_nil _ _

theorem perform_of_completes {status : Nat} (h : r.Completes t status) :
    (t.run r.perform).1.ending = .exit status ∧ ¬ (t.run r.perform).1.ReportsError := by
  obtain ⟨transcript, hquiet, hrun⟩ := exists_perform_of_completes h
  rw [hrun]
  exact ⟨rfl, hquiet.not_reportsError _⟩

theorem perform_of_isReported {stop : Stop} (h : r.StopsAt t stop) (hreported : stop.IsReported) :
    (t.run r.perform).1.ending = .exit 1 ∧ (t.run r.perform).1.ReportsError := by
  obtain ⟨before, hquiet, hrun⟩ := perform_of_stopsAt h
  rcases stop.outcome_cases r.source with ⟨-, message, houtcome⟩ | ⟨hnot, -⟩
  · rw [hrun, hquiet.reportsError_after_iff, houtcome]
    exact ⟨rfl, reportsError_failed message⟩
  · exact absurd hreported hnot

theorem perform_of_not_isReported {stop : Stop} (h : r.StopsAt t stop) (hnot : ¬ stop.IsReported) :
    (∃ reason, (t.run r.perform).1.ending = .abort reason) ∧ ¬ (t.run r.perform).1.ReportsError := by
  obtain ⟨before, hquiet, hrun⟩ := perform_of_stopsAt h
  rcases stop.outcome_cases r.source with ⟨hreported, -⟩ | ⟨-, reason, houtcome⟩
  · exact absurd hreported hnot
  · rw [hrun, hquiet.reportsError_after_iff, houtcome]
    exact ⟨⟨reason, rfl⟩, (isQuiet_printed []).not_reportsError _⟩

/-- An error is reported exactly where the run stops and the stop is reported. -/
theorem perform_reportsError_iff :
    (t.run r.perform).1.ReportsError ↔ ∃ stop, r.StopsAt t stop ∧ stop.IsReported := by
  constructor
  · intro herror
    rcases stops_or_completes r t with ⟨stop, hstop⟩ | ⟨status, hstatus⟩
    · by_cases hreported : stop.IsReported
      · exact ⟨stop, hstop, hreported⟩
      · exact absurd herror (perform_of_not_isReported hstop hreported).2
    · exact absurd herror (perform_of_completes hstatus).2
  · rintro ⟨stop, hstop, hreported⟩
    exact (perform_of_isReported hstop hreported).2

end Manpage.Command
