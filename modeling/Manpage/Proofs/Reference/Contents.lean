import Manpage.Proofs.Reference.Walk

/-!
# What the tables of a document hold

The tables are said by the headings of the document alone.

* `entriesUnder` — the entries that the headings of some sections give, in the order of the document;
  `filterMap_collect` — what a walk records in these sections;
* `exists_entryAt?_of_mem` — every entry of a table is that of some line;
* `extract_contents` — the environment variables are the entries under their section, one for one; the flags are the
  table of the latest entries under the two sections of options;
* `extract_eq_of_isFlagTable` — and there are no other tables.
-/

namespace Manpage

/-- The entries that headings in one of the given sections give, in the order of the document. -/
def entriesUnder (sections : List Section) (s : Section) (ls : List Text) : List Entry :=
  (List.range ls.length).filterMap fun i => if s.inEffect (ls.take i) ∈ sections then entryAt? ls i else none

/-- A way to pick entries from records that keeps those of some sections. -/
def Selects (sections : List Section) (f : Section × Entry → Option Entry) : Prop :=
  ∀ t e, t ≠ .other → f (t, e) = if t ∈ sections then some e else none

theorem selects_variables : Selects [.environment] fun (s, e) => if s.holdsFlags then none else some e := by
  intro t e ht
  cases t with
  | options => rfl
  | v8Options => rfl
  | environment => rfl
  | other => exact absurd rfl ht

theorem selects_flags : Selects [.options, .v8Options] fun (s, e) => if s.holdsFlags then some e else none := by
  intro t e ht
  cases t with
  | options => rfl
  | v8Options => rfl
  | environment => rfl
  | other => exact absurd rfl ht

/-- The records of some sections are the entries under them. -/
theorem filterMap_collect {s : Section} {n : Int} {ls : List Text} {rs : List (Section × Entry)}
    (h : collect s n ls = .ok rs) {sections : List Section} (hother : .other ∉ sections)
    {f : Section × Entry → Option Entry} (hf : Selects sections f) : rs.filterMap f = entriesUnder sections s ls := by
  have hline : (fun i => (recordAt? s ls i).bind f) =
      fun i => if s.inEffect (ls.take i) ∈ sections then entryAt? ls i else none := by
    funext i
    rw [recordAt?]
    by_cases ht : s.inEffect (ls.take i) = .other
    · rw [if_pos ht, ht, if_neg hother, Option.bind_none]
    · rw [if_neg ht]
      cases entryAt? ls i with
      | none => simp
      | some e => rw [Option.map_some, Option.bind_some, hf _ e ht]
  rw [collect_eq_ok h, List.filterMap_filterMap, hline, entriesUnder]

theorem variableTable_eq {s : Section} {n : Int} {ls : List Text} {rs : List (Section × Entry)}
    (h : collect s n ls = .ok rs) : variableTable rs = entriesUnder [.environment] s ls :=
  filterMap_collect h (by decide) selects_variables

theorem recordedFlags_eq {s : Section} {n : Int} {ls : List Text} {rs : List (Section × Entry)}
    (h : collect s n ls = .ok rs) : recordedFlags rs = entriesUnder [.options, .v8Options] s ls :=
  filterMap_collect h (by decide) selects_flags

/-- A walk without a defect, the names of whose flags can be put in order, gives the one table of flags there is. -/
theorem extract_eq_of_isFlagTable {s : Section} {ls : List Text} {rs : List (Section × Entry)} {flags : List Entry}
    (h : collect s 0 ls = .ok rs) (hflags : IsFlagTable (recordedFlags rs) flags)
    (hnames : ∀ e ∈ flags, Collation.collatable e.name = true) :
    extract s ls = .ok ⟨flags, variableTable rs⟩ := by
  have htable := holdsLatest_flagTable rs
  have hperm := htable.perm hflags.toHoldsLatest
  refine extract_eq_ok_iff.2 ⟨rs, h, fun e he => hnames e (hperm.mem_iff.1 he), ?_⟩
  rw [htable.isFlagTable_sortOn.unique hflags]

theorem exists_entryAt?_of_mem_entriesUnder {sections : List Section} {s : Section} {ls : List Text} {e : Entry}
    (h : e ∈ entriesUnder sections s ls) : ∃ i, entryAt? ls i = some e := by
  obtain ⟨i, -, hi⟩ := List.mem_filterMap.1 h
  exact ⟨i, (Option.ite_none_right_eq_some.1 hi).2⟩

/-- Every entry of a table is that of some line of the document. -/
theorem exists_entryAt?_of_mem {s : Section} {ls : List Text} {t : Tables} (h : extract s ls = .ok t) {e : Entry}
    (he : e ∈ t.flags ++ t.environment) : ∃ i, entryAt? ls i = some e := by
  obtain ⟨rs, hcollect, -, rfl⟩ := extract_eq_ok_iff.1 h
  rcases List.mem_append.1 he with he | he
  · have hrecorded := (holdsLatest_flagTable rs).isFlagTable_sortOn.mem_recorded he
    rw [recordedFlags_eq hcollect] at hrecorded
    exact exists_entryAt?_of_mem_entriesUnder hrecorded
  · rw [variableTable_eq hcollect] at he
    exact exists_entryAt?_of_mem_entriesUnder he

/-- Every flag has the name in some line of the document. -/
theorem exists_nameOf?_of_mem_flags {s : Section} {ls : List Text} {t : Tables} (h : extract s ls = .ok t) {e : Entry}
    (he : e ∈ t.flags) : ∃ l ∈ ls, Entry.nameOf? l = some e.name := by
  obtain ⟨i, hi⟩ := exists_entryAt?_of_mem h (List.mem_append_left _ he)
  exact exists_nameOf?_of_entryAt? hi

/-- **The contents of the tables.**  The environment variables are the entries under their section, in the order of the
document and with all repetitions.  The flags are the table of the latest entries under the two sections of
options. -/
theorem extract_contents {s : Section} {ls : List Text} {t : Tables} (h : extract s ls = .ok t) :
    t.environment = entriesUnder [.environment] s ls ∧
      IsFlagTable (entriesUnder [.options, .v8Options] s ls) t.flags := by
  obtain ⟨rs, hcollect, -, rfl⟩ := extract_eq_ok_iff.1 h
  refine ⟨variableTable_eq hcollect, ?_⟩
  rw [← recordedFlags_eq hcollect]
  exact (holdsLatest_flagTable rs).isFlagTable_sortOn

/-- A flag that is defined again in another section keeps its place in front of one that sorts as it does, and a
variable that is given twice is listed twice. -/
theorem contents_of_redefined_flag :
    let ls := ["## Options", "### `--K`", "", "Old.", "### `--\u212a`", "", "Kelvin.",
      "## Environment variables", "### `A=1`", "", "One.", "### `A=1`", "", "Two.",
      "## Useful V8 options", "### `--K`", "", "New.", "### `--a`", "", "First."].map String.toList
    ∃ t, extract .other ls = .ok t ∧ t.flags.map Entry.name = ["--a", "--K", "--\u212a"].map String.toList ∧
      t.environment = entriesUnder [.environment] .other ls ∧
      IsFlagTable (entriesUnder [.options, .v8Options] .other ls) t.flags := by
  intro ls
  let old : Entry := ⟨"--K".toList, "Old.".toList⟩
  let kelvin : Entry := ⟨"--\u212a".toList, "Kelvin.".toList⟩
  let new : Entry := ⟨"--K".toList, "New.".toList⟩
  let first : Entry := ⟨"--a".toList, "First.".toList⟩
  let one : Entry := ⟨"A=1".toList, "One.".toList⟩
  let two : Entry := ⟨"A=1".toList, "Two.".toList⟩
  have hwalk : collect .other 0 ls = .ok [(.options, old), (.options, kelvin), (.environment, one),
      (.environment, two), (.v8Options, new), (.v8Options, first)] := by
    decide +kernel
  have htable : IsFlagTable [old, kelvin, new, first] [first, new, kelvin] := by
    have hsub : [first, new, kelvin].map Entry.name ⊆ [old, kelvin, new, first].map Entry.name := by decide
    have hsup : [old, kelvin, new, first].map Entry.name ⊆ [first, new, kelvin].map Entry.name := by decide
    exact
      { nodup := by decide
        names := fun n => ⟨fun h => hsub h, fun h => hsup h⟩
        latest := by decide
        ties := by decide +kernel
        sorted := by decide +kernel }
  have hextract := extract_eq_of_isFlagTable hwalk htable (by decide +kernel)
  exact ⟨_, hextract, rfl, extract_contents hextract⟩

end Manpage
