import Manpage.Proofs.Reference.Contents

/-!
# Documents put one behind the other

* `extract_append` — the tables of two documents in a row are made from the tables of each, where the second is read
  in the section in which the first ends, and a defect of the second is reported as many lines further down.

The first document reads two lines ahead of a heading, so that the first line of the second must not look like part of
an entry.
-/

namespace Manpage

/-- Behind a document without a defect, the walk through the next one is the walk through it alone. -/
theorem collect_append_eq {s : Section} {front back : List Text} {rs : List (Section × Entry)}
    (h : collect s 0 front = .ok rs) (hback : opensPlainly back = true) :
    collect s 0 (front ++ back) =
      ((collect (s.inEffect front) 0 back).mapError (Malformed.shift front.length)).map (rs ++ ·) := by
  rw [collect_append h hback, collect_shift front.length _ 0 back]

/-- **Extraction composes.**  Let a document have tables, and let another one begin with a line that opens neither an
entry nor a comment.  If the second has tables when it is read in the section in which the first ends, then both in a
row have the tables that the second makes of those of the first.  If it is malformed, then so are both, in the same
way and at the same line. -/
theorem extract_append {s : Section} {front back : List Text} {t : Tables} (hfront : extract s front = .ok t)
    (hback : opensPlainly back = true) :
    (∀ u, extract (s.inEffect front) back = .ok u →
      extract s (front ++ back) =
        .ok ⟨Collation.sortOn Entry.name (redefine t.flags u.flags), t.environment ++ u.environment⟩) ∧
    (∀ m, extract (s.inEffect front) back = .error (.malformed m) →
      extract s (front ++ back) = .error (.malformed ⟨m.defect, m.line + front.length⟩)) := by
  obtain ⟨rs, hrs, hnames, rfl⟩ := extract_eq_ok_iff.1 hfront
  have hflags := (holdsLatest_flagTable rs).isFlagTable_sortOn
  constructor
  · intro u hu
    obtain ⟨us, hus, hnames', rfl⟩ := extract_eq_ok_iff.1 hu
    have hflags' := (holdsLatest_flagTable us).isFlagTable_sortOn
    have hwalk : collect s 0 (front ++ back) = .ok (rs ++ us) := by
      rw [collect_append_eq hrs hback, hus]
      rfl
    have htable := (hflags.toHoldsLatest.redefine hflags'.toHoldsLatest).isFlagTable_sortOn
    rw [← recordedFlags_append] at htable
    rw [← variableTable_append]
    refine extract_eq_of_isFlagTable hwalk htable ?_
    intro e he
    rcases mem_of_mem_redefine ((Collation.sortOn_perm Entry.name _).mem_iff.1 he) with he | he
    · exact hnames e ((Collation.sortOn_perm Entry.name _).mem_iff.1 he)
    · exact hnames' e ((Collation.sortOn_perm Entry.name _).mem_iff.1 he)
  · intro m hm
    rw [extract_eq_malformed_iff] at hm ⊢
    rw [collect_append_eq hrs hback, hm]
    rfl

/-- A second document takes over a flag of the first, or is malformed in its second line, which is the sixth line of
both. -/
theorem append_to_one_flag :
    let front := ["## Options", "### `--b`", "", "Old."].map String.toList
    extract .other (front ++ ["", "### `--b`", "", "New."].map String.toList) =
        .ok ⟨[⟨"--b".toList, "New.".toList⟩], []⟩ ∧
      extract .other (front ++ ["", "### `--c`"].map String.toList) = .error (.malformed ⟨.missingDescription, 5⟩) := by
  intro front
  have hfront : extract .other front = .ok ⟨[⟨"--b".toList, "Old.".toList⟩], []⟩ := by decide +kernel
  refine ⟨?_, ?_⟩
  · rw [(extract_append hfront (by decide)).1 ⟨[⟨"--b".toList, "New.".toList⟩], []⟩ (by decide +kernel)]
    decide +kernel
  · exact (extract_append hfront (by decide)).2 ⟨.missingDescription, 1⟩ (by decide +kernel)

end Manpage
