import Mathlib.Data.List.Forall2
import Manpage.Proofs.Command.Printing
import Manpage.Proofs.Page.ControlLines

/-!
# The listing of the tables

A run that lists the tables prints a title for each of them and the entries below it.

* `IsPrinted` — an output by its lines; `isPrinted_lines`: printing a text and a line feed prints its lines;
* `entryLines`, `tableLines`, `listingLines` — the lines of the listing; `isPrinted_listing`: as long as no name goes over
  lines, they are what is printed;
* `ListsOnePerLine` — whether every entry stands on one line; `listsOnePerLine_iff`: it does if no description goes over
  lines;
* `listing_of_run` — what a run lists by lines, which a sentence of several lines spreads out, as in
  `not_listsOnePerLine`.
-/

namespace Manpage.Command

/-! ### Outputs by lines -/

/-- Whether an output is made of the given lines, each closed by a line feed. -/
def IsPrinted (ls : List Text) (out : Text) : Prop := (∀ l ∈ ls, '\n' ∉ l) ∧ out = ls.flatMap (· ++ ['\n'])

theorem IsPrinted.append {ls ms : List Text} {a b : Text} (ha : IsPrinted ls a) (hb : IsPrinted ms b) :
    IsPrinted (ls ++ ms) (a ++ b) := by
  refine ⟨List.forall_mem_append.2 ⟨ha.1, hb.1⟩, ?_⟩
  rw [ha.2, hb.2, List.flatMap_append]

theorem isPrinted_nil : IsPrinted [] [] := ⟨fun _ hl => absurd hl List.not_mem_nil, rfl⟩

/-- A text with a line feed behind it is printed in its lines. -/
theorem isPrinted_lines (t : Text) : IsPrinted (Text.lines t) (t ++ ['\n']) := by
  refine ⟨fun l hl => Text.not_mem_of_mem_pieces hl, ?_⟩
  rw [Text.lines, ← Text.joined_append_self ['\n'] (Text.pieces_ne_nil '\n' t)]
  exact congrArg (· ++ ['\n']) (Text.unlines_lines t).symm

theorem isPrinted_flatMap {α : Type} {f : α → List Text} {g : α → Text} {xs : List α}
    (h : ∀ x ∈ xs, IsPrinted (f x) (g x)) : IsPrinted (xs.flatMap f) (xs.flatMap g) := by
  induction xs with
  | nil => exact isPrinted_nil
  | cons x xs ih =>
    rw [List.flatMap_cons, List.flatMap_cons]
    exact (h x List.mem_cons_self).append (ih fun y hy => h y (List.mem_cons_of_mem x hy))

/-! ### The lines of a listing -/

/-- The title line of a table. -/
def titleLine (title : Text) (entries : List Entry) : Text :=
  title ++ " (".toList ++ Text.ofNat entries.length ++ "):".toList

/-- What stands in front of the description of an entry. -/
def entryMargin (e : Entry) : Text := ' ' :: ' ' :: Text.padRight 40 e.name ++ [' ']

/-- The lines of an entry: those of its description, the first behind the name. -/
def entryLines (e : Entry) : List Text := (Text.lines e.description).modifyHead (entryMargin e ++ ·)

/-- The lines of a table. -/
def tableLines (title : Text) (entries : List Entry) : List Text := titleLine title entries :: entries.flatMap entryLines

/-- The lines of both tables. -/
def listingLines (t : Tables) : List Text :=
  tableLines "Options".toList t.flags ++ tableLines "Environment variables".toList t.environment

theorem lineFeed_not_mem_entryMargin {e : Entry} (h : '\n' ∉ e.name) : '\n' ∉ entryMargin e := by
  simp [entryMargin, Text.padRight, List.mem_replicate, h]

theorem isPrinted_entryLines {e : Entry} (h : '\n' ∉ e.name) :
    IsPrinted (entryLines e) (' ' :: ' ' :: Text.padRight 40 e.name ++ ' ' :: e.description ++ ['\n']) := by
  have hprinted := isPrinted_lines (entryMargin e ++ e.description)
  rw [Text.lines, Text.pieces_append_of_not_mem (lineFeed_not_mem_entryMargin h)] at hprinted
  simpa [entryMargin, entryLines, Text.lines] using hprinted

theorem isPrinted_tableListing {title : Text} (htitle : '\n' ∉ title) {entries : List Entry}
    (h : ∀ e ∈ entries, '\n' ∉ e.name) : IsPrinted (tableLines title entries) (tableListing title entries) := by
  have hopening : '\n' ∉ " (".toList := by decide
  have hclosing : '\n' ∉ "):".toList := by decide
  have hline : '\n' ∉ titleLine title entries := by
    simp only [titleLine, List.mem_append, not_or]
    exact ⟨⟨⟨htitle, hopening⟩, Text.lineFeed_not_mem_ofNat _⟩, hclosing⟩
  have hprinted : IsPrinted [titleLine title entries] (titleLine title entries ++ ['\n']) := by
    have hlines := isPrinted_lines (titleLine title entries)
    rwa [Text.lines, Text.pieces_of_not_mem hline] at hlines
  have hentries := isPrinted_flatMap fun e he => isPrinted_entryLines (h e he)
  have hsplit : "):\n".toList = "):".toList ++ ['\n'] := by decide
  have htable := hprinted.append hentries
  simp only [titleLine, List.append_assoc] at htable
  simpa only [tableLines, titleLine, tableListing, hsplit, List.append_assoc, List.singleton_append] using htable

theorem isPrinted_listing {t : Tables} (h : ∀ e ∈ t.flags ++ t.environment, '\n' ∉ e.name) :
    IsPrinted (listingLines t) (listing t) :=
  (isPrinted_tableListing (by decide) fun e he => h e (List.mem_append_left _ he)).append
    (isPrinted_tableListing (by decide) fun e he => h e (List.mem_append_right _ he))

theorem length_tableLines (title : Text) (entries : List Entry) :
    (tableLines title entries).length = 1 + (entries.flatMap fun e => Text.lines e.description).length := by
  have hentries : (entries.flatMap entryLines).length = (entries.flatMap fun e => Text.lines e.description).length := by
    simp only [List.length_flatMap, entryLines, List.length_modifyHead]
  rw [tableLines, List.length_cons, hentries, Nat.add_comm]

/-- Besides the two titles, a listing has as many lines as the descriptions. -/
theorem length_listingLines (t : Tables) :
    (listingLines t).length = 2 + ((t.flags ++ t.environment).flatMap fun e => Text.lines e.description).length := by
  rw [listingLines, List.length_append, length_tableLines, length_tableLines, List.flatMap_append, List.length_append]
  omega

/-! ### Entries on one line -/

/-- Whether a line is that of an entry: it opens with two spaces and the name, and ends with the whole description. -/
def IsLineOf (e : Entry) (l : Text) : Prop := ' ' :: ' ' :: e.name <+: l ∧ e.description <:+ l

/-- Whether an output lists two tables with one line for each entry below the titles, in order. -/
def ListsOnePerLine (t : Tables) (out : Text) : Prop :=
  ∃ fs vs, IsPrinted ((titleLine "Options".toList t.flags :: fs) ++
      (titleLine "Environment variables".toList t.environment :: vs)) out ∧
    List.Forall₂ IsLineOf t.flags fs ∧ List.Forall₂ IsLineOf t.environment vs

theorem entryLines_of_not_mem {e : Entry} (h : '\n' ∉ e.description) :
    entryLines e = [entryMargin e ++ e.description] := by
  rw [entryLines, Text.lines, Text.pieces_of_not_mem h, List.modifyHead_cons]

theorem isLineOf_margin (e : Entry) : IsLineOf e (entryMargin e ++ e.description) := by
  refine ⟨?_, List.suffix_append _ _⟩
  exact ⟨List.replicate (40 - e.name.length) ' ' ++ ' ' :: e.description, by simp [entryMargin, Text.padRight]⟩

theorem forall₂_isLineOf {entries : List Entry} (h : ∀ e ∈ entries, '\n' ∉ e.description) :
    List.Forall₂ IsLineOf entries (entries.flatMap entryLines) := by
  induction entries with
  | nil => exact List.Forall₂.nil
  | cons e entries ih =>
    rw [List.flatMap_cons, entryLines_of_not_mem (h e List.mem_cons_self), List.singleton_append]
    exact List.Forall₂.cons (isLineOf_margin e) (ih fun d hd => h d (List.mem_cons_of_mem e hd))

/-- A line holds no line feed, and so no description with one stands on it. -/
theorem not_mem_description_of_forall₂ {entries : List Entry} {ls : List Text} (hls : ∀ l ∈ ls, '\n' ∉ l)
    (h : List.Forall₂ IsLineOf entries ls) : ∀ e ∈ entries, '\n' ∉ e.description := by
  induction h with
  | nil => exact fun e he => absurd he List.not_mem_nil
  | cons hline _ ih =>
    rw [List.forall_mem_cons] at hls ⊢
    exact ⟨fun hmem => hls.1 (hline.2.subset hmem), ih hls.2⟩

theorem listsOnePerLine_iff {t : Tables} (h : ∀ e ∈ t.flags ++ t.environment, '\n' ∉ e.name) :
    ListsOnePerLine t (listing t) ↔ ∀ e ∈ t.flags ++ t.environment, '\n' ∉ e.description := by
  constructor
  · rintro ⟨fs, vs, ⟨hlines, -⟩, hfs, hvs⟩
    rw [List.forall_mem_append, List.forall_mem_cons, List.forall_mem_cons] at hlines
    exact List.forall_mem_append.2
      ⟨not_mem_description_of_forall₂ hlines.1.2 hfs, not_mem_description_of_forall₂ hlines.2.2 hvs⟩
  · intro hdescriptions
    rw [List.forall_mem_append] at hdescriptions
    exact ⟨_, _, isPrinted_listing h, forall₂_isLineOf hdescriptions.1,
      forall₂_isLineOf hdescriptions.2⟩

/-! ### Runs that list -/

section
variable {d : Defaults} {arguments : List Text} {r : Request} {t : FileTree} {s : Text} {tables : Tables}

/-- A run that lists the tables of its source ends well and has printed them. -/
theorem stdout_of_list (hparse : Invocation.ofArguments d arguments = .ok (.run r)) (hmode : r.mode = .list)
    (hs : t.text r.source = .ok s) (htables : extract .other (Text.lines s) = .ok tables) :
    (t.run (run d arguments)).1.ending = .exit 0 ∧
      (t.run (run d arguments)).1.transcript.stdout = listing tables := by
  rw [run_of_ofArguments hparse, run_perform_of_list hmode hs htables]
  refine ⟨rfl, ?_⟩
  rw [Transcript.stdout_append, stdout_printNotes, List.nil_append]
  rfl

/-- **The listing by lines.**  Let the arguments of a run ask for the tables of a source that has them.  The run ends well,
and on the standard output stand the title of each table and below it the entries in order, each in the lines of its
description, with the name in front of the first.  So every entry has one line exactly if no description goes over
lines.  A description is the placeholder, or has as many lines as the sentence that it was made of. -/
theorem listing_of_run (hparse : Invocation.ofArguments d arguments = .ok (.run r)) (hmode : r.mode = .list)
    (hs : t.text r.source = .ok s) (htables : extract .other (Text.lines s) = .ok tables) :
    (t.run (run d arguments)).1.ending = .exit 0 ∧
      IsPrinted (listingLines tables) (t.run (run d arguments)).1.transcript.stdout ∧
      (listingLines tables).length =
        2 + ((tables.flags ++ tables.environment).flatMap fun e => Text.lines e.description).length ∧
      (ListsOnePerLine tables (t.run (run d arguments)).1.transcript.stdout ↔
        ∀ e ∈ tables.flags ++ tables.environment, '\n' ∉ e.description) ∧
      ∀ e ∈ tables.flags ++ tables.environment, e.description = Entry.placeholder ∨
        ∃ sentence, IsSentenceOf (Text.lines s) e sentence ∧
          (Text.lines e.description).length = (Text.lines sentence).length := by
  obtain ⟨hending, hstdout⟩ := stdout_of_list hparse hmode hs htables
  have hnames : ∀ e ∈ tables.flags ++ tables.environment, '\n' ∉ e.name :=
    fun e he => Page.lineFeed_not_mem_name_of_mem htables he
  rw [hstdout]
  refine ⟨hending, isPrinted_listing hnames, length_listingLines tables, listsOnePerLine_iff hnames, ?_⟩
  intro e he
  obtain ⟨i, hi⟩ := exists_entryAt?_of_mem htables he
  rcases description_eq_or hi with hplaceholder | ⟨sentence, hsentence, -, hlines⟩
  · exact Or.inl hplaceholder
  · refine Or.inr ⟨sentence, hsentence, ?_⟩
    rw [hlines, List.length_map]

end

/-- A flag that a sentence of two lines describes, a variable without a description, and another variable. -/
def unevenText : Text :=
  "## Options\n\n### `--x`\n\nDoes x\nat once.\n\n## Environment variables\n\n### `Y`\n\n### `Z=1`\n\nSays z.\n".toList

/-- That text in `s.md`. -/
def unevenSource : FileTree := FileTree.empty.addFile (FileTree.workFile "s.md".toList) (Utf8.encode unevenText)

/-- The tables of that text. -/
def unevenTables : Tables where
  flags := [⟨"--x".toList, "Does x\nat once.".toList⟩]
  environment := [⟨"Y".toList, Entry.placeholder⟩, ⟨"Z=1".toList, "Says z.".toList⟩]

theorem text_unevenSource : unevenSource.text (Path.ofText "s.md".toList) = .ok unevenText := by
  decide +kernel

theorem extract_unevenText : extract .other (Text.lines unevenText) = .ok unevenTables := by
  decide +kernel

theorem ofArguments_list :
    Invocation.ofArguments (Defaults.below (Path.ofText [])) ["--list".toList, "s.md".toList] =
      .ok (.run ⟨Path.ofText "s.md".toList, .path (Path.ofText "doc/node.1".toList), none, .list, 0⟩) := by
  rfl

/-- The sentence of two lines is spread over two lines of the listing. -/
theorem listing_of_unevenSource :
    let o := (unevenSource.run (run (Defaults.below (Path.ofText [])) ["--list".toList, "s.md".toList])).1
    o.ending = .exit 0 ∧
      IsPrinted (["Options (1):", "  --x                                      Does x", "at once.",
        "Environment variables (2):", "  Y                                        This option has no description.",
        "  Z=1                                      Says z."].map String.toList) o.transcript.stdout ∧
      (listingLines unevenTables).length = 2 + 4 ∧ ¬ ListsOnePerLine unevenTables o.transcript.stdout := by
  dsimp only
  obtain ⟨hending, hprinted, hlength, honeline, -⟩ :=
    listing_of_run ofArguments_list rfl text_unevenSource extract_unevenText
  have hspread : ¬ ∀ e ∈ unevenTables.flags ++ unevenTables.environment, '\n' ∉ e.description := by decide
  refine ⟨hending, ?_, hlength.trans (by decide), mt honeline.1 hspread⟩
  · have hlines : listingLines unevenTables = ["Options (1):", "  --x                                      Does x",
        "at once.", "Environment variables (2):",
        "  Y                                        This option has no description.",
        "  Z=1                                      Says z."].map String.toList := by
      decide +kernel
    rwa [hlines] at hprinted

/-- Not every listing has one line for each entry. -/
theorem not_listsOnePerLine :
    ¬ ∀ (d : Defaults) (arguments : List Text) (r : Request) (t : FileTree) (s : Text) (tables : Tables),
      Invocation.ofArguments d arguments = .ok (.run r) → r.mode = .list → t.text r.source = .ok s →
        extract .other (Text.lines s) = .ok tables →
        ListsOnePerLine tables (t.run (run d arguments)).1.transcript.stdout := by
  intro h
  have hlists := h _ _ _ unevenSource unevenText unevenTables ofArguments_list rfl text_unevenSource extract_unevenText
  have hnames : ∀ e ∈ unevenTables.flags ++ unevenTables.environment, '\n' ∉ e.name := by decide
  rw [(stdout_of_list ofArguments_list rfl text_unevenSource extract_unevenText).2,
    listsOnePerLine_iff hnames] at hlists
  exact hlists _ (List.mem_append_left _ List.mem_cons_self) (by decide)

end Manpage.Command
