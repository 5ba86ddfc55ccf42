import Manpage.Proofs.Prose.Lines
import Manpage.Proofs.Reference.Contents
import Manpage.Proofs.Reference.Layout

/-!
# What holds of every entry

Whatever the text of a document, the entries in its tables have names and descriptions of a certain form.  The name is
what a heading leaves of its line.  The description is the placeholder or a sentence behind the five passes of the
conversion, and no pass takes its last period away, as no markup closes with one.

* `ReadsAsSentence` — the form of a description; `readsAsSentence_kept`: a converted sentence that is kept has it, and
  so has the placeholder that stands for one that is discarded;
* `Entry.IsWellFormed` — the form of an entry; `isWellFormed_of_entryAt?`: that of a line has it;
* `isWellFormed_of_extract` — so has every entry of both tables.
-/

namespace Manpage

/-! ### Descriptions -/

/-- A text without backticks that begins with an ASCII letter, a digit, a double quote or an apostrophe, and ends with a
period. -/
structure ReadsAsSentence (t : Text) : Prop where
  plain : '\x60' ∉ t
  opening : ∃ c rest, t = c :: rest ∧ (c.isAlpha = true ∨ c.isDigit = true ∨ c = '\x22' ∨ c = '\x27')
  ending : t.getLast? = some '.'

theorem readsAsSentence_placeholder : ReadsAsSentence Entry.placeholder where
  plain := by decide
  opening := ⟨'T', _, rfl, Or.inl (by decide)⟩
  ending := by decide

theorem exists_opening_of_startsLikeProse {t : Text} (h : Entry.startsLikeProse t = true) :
    ∃ c rest, t = c :: rest ∧ (c.isAlpha = true ∨ c.isDigit = true ∨ c = '\x22' ∨ c = '\x27') := by
  cases t with
  | nil => cases h
  | cons c rest =>
    refine ⟨c, rest, rfl, ?_⟩
    simpa [Entry.startsLikeProse, Char.isAlphanum, Prose.isQuotationMark, or_assoc] using h

/-- What is kept of a converted sentence reads as one. -/
theorem readsAsSentence_kept {s : Text} (h : s.getLast? = some '.') : ReadsAsSentence (Entry.kept (Prose.convert s)) := by
  unfold Entry.kept
  split
  · next hprose =>
    exact
      { plain := Prose.backtick_not_mem_convert s
        opening := exists_opening_of_startsLikeProse hprose
        ending := Prose.getLast?_convert (by decide) h }
  · exact readsAsSentence_placeholder

theorem IsDescribedAs.readsAsSentence {ls : List Text} {i : Nat} {t : Text} (h : IsDescribedAs ls i t) :
    ReadsAsSentence t := by
  cases h with
  | placeholder hnext => exact readsAsSentence_placeholder
  | sentence hnext hc hd hs => exact readsAsSentence_kept (Prose.getLast?_of_firstSentenceOfLines? hs)

/-! ### Entries -/

/-- An entry whose name is neither empty nor a mark of the end of the options and holds neither backticks nor line
feeds, and whose description reads as a sentence. -/
structure Entry.IsWellFormed (e : Entry) : Prop where
  named : e.name ≠ [] ∧ e.name ≠ ['-'] ∧ e.name ≠ ['-', '-']
  plain : '\x60' ∉ e.name
  oneLine : '\n' ∉ e.name
  described : ReadsAsSentence e.description

/-- The entry that a line gives is well formed. -/
theorem isWellFormed_of_entryAt? {ls : List Text} (hls : ∀ l ∈ ls, '\n' ∉ l) {i : Nat} {e : Entry}
    (h : entryAt? ls i = some e) : e.IsWellFormed := by
  obtain ⟨l, hl, hheading, hname, hdescribed⟩ := entryAt?_eq_some_iff.1 h
  obtain ⟨name, hname', hsentinel⟩ := isOptionHeading_iff.1 hheading
  obtain rfl : name = e.name := Option.some.inj (hname'.symm.trans hname)
  obtain ⟨rest, rfl, hfilter, hne⟩ := nameOf?_eq_some_iff.1 hname
  simp only [Entry.isSentinel, Bool.or_eq_false_iff, decide_eq_false_iff_not] at hsentinel
  refine { named := ⟨hne, hsentinel⟩, plain := ?_, oneLine := ?_, described := hdescribed.readsAsSentence }
  · rw [hfilter]
    intro hmem
    simpa using (List.mem_filter.1 hmem).2
  · exact lineFeed_not_mem_name hname (hls _ (List.mem_of_getElem? hl))

/-- **Every entry is well formed.**  Let a text have tables, read from any section on.  Then the name of an entry in
them is neither empty nor `-` nor `--` and holds no backtick and no line feed; its description holds no backtick,
begins with an ASCII letter, a digit, a double quote or an apostrophe, and ends with a period. -/
theorem isWellFormed_of_extract {s : Section} {source : Text} {t : Tables} (h : extract s (Text.lines source) = .ok t) :
    ∀ e ∈ t.flags ++ t.environment, e.IsWellFormed := by
  intro e he
  obtain ⟨i, hi⟩ := exists_entryAt?_of_mem h he
  exact isWellFormed_of_entryAt? (fun l hl => Text.not_mem_of_mem_pieces hl) hi

/-- A text that starts among the environment variables, with markup right before each period and markup that leaks. -/
theorem isWellFormed_of_marked_text :
    ∃ t, extract .environment (Text.lines ("### `A=1`\n\n'tis **so**.\n### `B`\n\n> Quoted.\n(leaked) `markup`.\n" ++
        "## Options\n### `-p`\n\nSee [the `\"x\"` page](y.md), not [this][that].").toList) = .ok t ∧
      t.environment = [⟨"A=1".toList, "'tis .B so.".toList⟩, ⟨"B".toList, Entry.placeholder⟩] ∧
      t.flags = [⟨"-p".toList, "See the \"x\" page, not this.".toList⟩] ∧
      ∀ e ∈ t.flags ++ t.environment, e.IsWellFormed := by
  have hextract : extract .environment (Text.lines ("### `A=1`\n\n'tis **so**.\n### `B`\n\n> Quoted.\n(leaked) " ++
      "`markup`.\n## Options\n### `-p`\n\nSee [the `\"x\"` page](y.md), not [this][that].").toList) =
        .ok ⟨[⟨"-p".toList, "See the \"x\" page, not this.".toList⟩],
          [⟨"A=1".toList, "'tis .B so.".toList⟩, ⟨"B".toList, Entry.placeholder⟩]⟩ := by
    decide +kernel
  exact ⟨_, hextract, rfl, rfl, isWellFormed_of_extract hextract⟩

end Manpage
