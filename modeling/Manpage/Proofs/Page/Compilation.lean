import Manpage.Page.Assembly
import Manpage.Proofs.Reference.Contents
import Manpage.Proofs.Reference.Defects

/-!
# Which references compile

A reference becomes a page, or it is malformed, or the flags of a sound reference cannot be put in order.  The third
outcome is the one that no defect accounts for.

* `exists_extract_eq_ok_iff` — there are tables exactly if no heading fails and every flag has a place in the order;
  `extract_ne_uncollatable` — with such flags, only a defect keeps a document from its tables;
* `ofText_eq_error_iff` — a page fails only with its tables;
* `ofText_ok_or_malformed_iff` — so a reference that is sound compiles unless a flag in it is spelled with the letter
  U+0130, and `not_ofText_ok_or_malformed` is such a reference.
-/

namespace Manpage

/-- The flags of a walk can be put in order exactly if the name of every flag under a section of options can. -/
theorem forall_flagTable_collatable_iff {s : Section} {ls : List Text} {rs : List (Section × Entry)}
    (h : collect s 0 ls = .ok rs) :
    (∀ e ∈ flagTable rs, Collation.collatable e.name = true) ↔
      ∀ e ∈ entriesUnder [.options, .v8Options] s ls, '\u0130' ∉ e.name := by
  have hnames := (holdsLatest_flagTable rs).names
  rw [recordedFlags_eq h] at hnames
  -- both sides speak of the same names, once each on the left and with repetitions on the right
  have hforall (p : Text → Prop) :
      (∀ e ∈ flagTable rs, p e.name) ↔ ∀ e ∈ entriesUnder [.options, .v8Options] s ls, p e.name := by
    simp only [← List.forall_mem_map (f := Entry.name) (P := p), hnames]
  rw [hforall fun name => Collation.collatable name = true]
  simp only [Collation.collatable_iff_notMem]

/-- A document has tables exactly if none of its headings fails and no flag is named with the letter U+0130. -/
theorem exists_extract_eq_ok_iff {s : Section} {ls : List Text} :
    (∃ t, extract s ls = .ok t) ↔
      (¬ ∃ i d, FailsAt s ls i d) ∧ ∀ e ∈ entriesUnder [.options, .v8Options] s ls, '\u0130' ∉ e.name := by
  rw [← exists_collect_eq_error_iff]
  cases hwalk : collect s 0 ls with
  | error m =>
    have hnone : ¬ ∃ t, extract s ls = .ok t := by
      rintro ⟨t, ht⟩
      obtain ⟨rs, hrs, -⟩ := extract_eq_ok_iff.1 ht
      rw [hwalk] at hrs
      cases hrs
    simp [hnone]
  | ok rs =>
    rw [← forall_flagTable_collatable_iff hwalk]
    simp [extract_eq_ok_iff, hwalk]

/-- Without that letter, a document that has no tables is malformed. -/
theorem extract_ne_uncollatable {s : Section} {ls : List Text}
    (h : ∀ e ∈ entriesUnder [.options, .v8Options] s ls, '\u0130' ∉ e.name) (name : Text) :
    extract s ls ≠ .error (.uncollatable name) := by
  intro hextract
  by_cases hfails : ∃ i d, FailsAt s ls i d
  · obtain ⟨m, hm⟩ := exists_collect_eq_error_iff.2 hfails
    rw [extract_eq_malformed_iff.2 hm] at hextract
    cases hextract
  · obtain ⟨t, ht⟩ := exists_extract_eq_ok_iff.2 ⟨hfails, h⟩
    rw [ht] at hextract
    cases hextract

namespace Page

variable {frame : Frame} {source : Text}

/-- A page is made of any tables there are. -/
theorem exists_ofText_eq_ok_iff :
    (∃ page, ofText frame source = .ok page) ↔ ∃ t, extract .other (Text.lines source) = .ok t := by
  unfold ofText
  cases extract .other (Text.lines source) with
  | error f => simp [Except.map]
  | ok t => simp [Except.map]

/-- A page fails only with its tables. -/
theorem ofText_eq_error_iff {f : Failure} :
    ofText frame source = .error f ↔ extract .other (Text.lines source) = .error f :=
  map_eq_error_iff

/-- **When compilation ends in a page or a defect.**  For any blocks, a text compiles or is reported as malformed
exactly if a heading in it fails or no flag in it is named with the letter U+0130. -/
theorem ofText_ok_or_malformed_iff (frame : Frame) (source : Text) :
    ((∃ page, ofText frame source = .ok page) ∨ ∃ m, ofText frame source = .error (.malformed m)) ↔
      (∃ i d, FailsAt .other (Text.lines source) i d) ∨
        ∀ e ∈ entriesUnder [.options, .v8Options] .other (Text.lines source), '\u0130' ∉ e.name := by
  simp only [exists_ofText_eq_ok_iff, ofText_eq_error_iff, extract_eq_malformed_iff]
  rw [exists_extract_eq_ok_iff, exists_collect_eq_error_iff]
  by_cases hfails : ∃ i d, FailsAt .other (Text.lines source) i d
  · simp [hfails]
  · simp [hfails]

/-- A flag named with that letter leaves a reference without a page and without a defect. -/
theorem not_ofText_ok_or_malformed :
    ¬ ∀ frame source,
      (∃ page, ofText frame source = .ok page) ∨ ∃ m, ofText frame source = .error (.malformed m) := by
  intro h
  have hextract : extract .other (Text.lines "## Options\n\n### `--\u0130`\n\nDoes x.\n".toList) =
      .error (.uncollatable "--\u0130".toList) := by
    decide +kernel
  have hpage : ofText standardFrame "## Options\n\n### `--\u0130`\n\nDoes x.\n".toList =
      .error (.uncollatable "--\u0130".toList) := ofText_eq_error_iff.2 hextract
  rcases h standardFrame "## Options\n\n### `--\u0130`\n\nDoes x.\n".toList with ⟨page, hok⟩ | ⟨m, hm⟩
  · rw [hpage] at hok
    cases hok
  · rw [hpage] at hm
    cases hm

end Page

end Manpage
