import Manpage.Proofs.Reference.Defects
import Manpage.Proofs.Reference.Isolation

/-!
# Entries without text

A heading may be followed by nothing but the next part of the document: between the two stand only empty lines.  Such an
entry is to get the placeholder.  That the next part begins is noticed in the second line below the heading only, and
only if that part is an entry; elsewhere its heading is searched for a sentence like any text.

* `HasNoText` — a heading, and the line that opens the next part as the first below it that is not empty;
* `FallsBack` — the three ways to the placeholder from there;
* `HasNoText.isFirstBelow_isProseLine` — without a comment, the sentence is looked for from the next part on;
* `entryAt?_eq_placeholder_iff_fallsBack` — there is no other way to the placeholder, and without a comment the document
  is malformed otherwise; `not_entryAt?_eq_placeholder`, an entry at the end of its section.
-/

namespace Manpage

/-- A line that is not empty. -/
def isFilled (l : Text) : Bool := l ≠ []

/-- The heading of an entry of a name, and the first line below it that is not empty, which opens another entry or a
section. -/
structure HasNoText (ls : List Text) (i j : Nat) (name : Text) : Prop where
  heading : ∃ l, ls[i]? = some l ∧ IsOptionHeading l ∧ Entry.nameOf? l = some name
  filled : IsFirstBelow isFilled ls i j
  next : holdsAt opensNext ls j = true

/-- How an entry without text comes to the placeholder. -/
inductive FallsBack (ls : List Text) (i j : Nat) : Prop
  /-- The second line below the heading opens an entry. -/
  | heading (hentry : holdsAt opensEntry ls (i + 2) = true)
  /-- A sentence is found from the next part on; it begins with the heading there, and is discarded. -/
  | sentence (hcomment : holdsAt opensComment ls (i + 2) = false)
    (hend : Prose.HasSentenceEnd (Text.unlines (ls.drop j)))
  /-- A comment opens right below the heading of the next part, and the sentence behind it is discarded. -/
  | comment {c d : Nat} {s : Text} (hcomment : holdsAt opensComment ls (i + 2) = true)
    (hclose : IsFirstBelow closesComment ls i c) (hprose : IsFirstBelow isProseLine ls c d)
    (hsentence : Prose.firstSentenceOfLines? (ls.drop d) = some s)
    (hkept : Entry.kept (Prose.convert s) = Entry.placeholder)

variable {ls : List Text} {i j : Nat} {name : Text}

theorem isFilled_of_isProseLine {l : Text} (h : isProseLine l = true) : isFilled l = true := by
  cases l with
  | nil => cases h
  | cons c l => rfl

/-- The next part is the first text below the heading. -/
theorem HasNoText.isFirstBelow_isProseLine (h : HasNoText ls i j name) : IsFirstBelow isProseLine ls i j where
  below := h.filled.below
  holds := holdsAt_mono (fun _ => isProseLine_of_opensNext) h.next
  first := by
    intro k hik hkj
    rw [Bool.eq_false_iff]
    intro hprose
    have hempty := h.filled.first k hik hkj
    rw [holdsAt_mono (fun _ => isFilled_of_isProseLine) hprose] at hempty
    cases hempty

theorem HasNoText.fallsBack_of_isDescribedAs (h : HasNoText ls i j name) {t : Text} (ht : IsDescribedAs ls i t)
    (hplaceholder : t = Entry.placeholder) : FallsBack ls i j := by
  cases ht with
  | placeholder hentry => exact .heading hentry
  | @sentence c d s hentry hc hd hs =>
    cases hcomment : holdsAt opensComment ls (i + 2) with
    | true =>
      exact .comment hcomment ((isSearchedBehind_iff_isFirstBelow hcomment).1 hc) hd hs hplaceholder
    | false =>
      obtain rfl := (isSearchedBehind_iff_eq hcomment).1 hc
      obtain rfl := hd.unique h.isFirstBelow_isProseLine
      refine .sentence hcomment ?_
      by_contra hend
      rw [Prose.firstSentenceOfLines?_eq_none_iff.2 hend] at hs
      cases hs

theorem HasNoText.isDescribedAs_of_fallsBack (h : HasNoText ls i j name) (hfalls : FallsBack ls i j) :
    IsDescribedAs ls i Entry.placeholder := by
  cases hfalls with
  | heading hentry => exact .placeholder hentry
  | sentence hcomment hend =>
    cases hentry : holdsAt opensEntry ls (i + 2) with
    | true => exact .placeholder hentry
    | false =>
      obtain ⟨s, hs⟩ : ∃ s, Prose.firstSentenceOfLines? (ls.drop j) = some s := by
        rw [← Option.ne_none_iff_exists', Ne, Prose.firstSentenceOfLines?_eq_none_iff, Classical.not_not]
        exact hend
      rw [← kept_of_opensNext h.next hs]
      exact .sentence hentry ((isSearchedBehind_iff_eq hcomment).2 rfl) h.isFirstBelow_isProseLine hs
  | @comment c d s hcomment hclose hprose hsentence hkept =>
    rw [← hkept]
    exact .sentence (holdsAt_mono (fun _ => opensEntry_of_opensComment) hcomment)
      ((isSearchedBehind_iff_isFirstBelow hcomment).2 hclose) hprose hsentence

/-- Without a comment, the one defect is that no sentence is found from the next part on. -/
theorem HasNoText.isMalformedAt_iff (h : HasNoText ls i j name) (hcomment : holdsAt opensComment ls (i + 2) = false)
    {d : Diagnostic} :
    IsMalformedAt ls i d ↔ ¬ FallsBack ls i j ∧ d = ⟨"Could not find sentence.".toList, some j⟩ := by
  have hj := h.isFirstBelow_isProseLine
  constructor
  · rintro ⟨-, hentry, hdefect⟩
    cases hdefect with
    | unterminatedComment hopen =>
      rw [hcomment] at hopen
      cases hopen
    | missingDescription hc hnone =>
      obtain rfl := (isSearchedBehind_iff_eq hcomment).1 hc
      have hfound := hnone j hj.below
      rw [hj.holds] at hfound
      cases hfound
    | noSentence hc hd hend =>
      obtain rfl := (isSearchedBehind_iff_eq hcomment).1 hc
      obtain rfl := hd.unique hj
      refine ⟨fun hfalls => ?_, rfl⟩
      cases hfalls with
      | heading hentry' => rw [hentry] at hentry'; cases hentry'
      | sentence _ hend' => exact hend hend'
      | comment hcomment' => rw [hcomment] at hcomment'; cases hcomment'
  · rintro ⟨hfalls, rfl⟩
    obtain ⟨l, hl, hheading, -⟩ := h.heading
    exact ⟨⟨l, hl, hheading⟩, Bool.eq_false_iff.2 fun hentry => hfalls (.heading hentry),
      .noSentence ((isSearchedBehind_iff_eq hcomment).2 rfl) hj fun hend => hfalls (.sentence hcomment hend)⟩

/-- The last entry of a section without text: the heading of the next section is taken for its description. -/
theorem not_entryAt?_eq_placeholder :
    ¬ ∀ (ls : List Text) (i j : Nat) (name : Text), HasNoText ls i j name →
      entryAt? ls i = some ⟨name, Entry.placeholder⟩ := by
  intro h
  let ls := ["### `--x`", "", "## See also", "", "* node(1)"].map String.toList
  have hnotext : HasNoText ls 0 2 "--x".toList :=
    ⟨⟨_, rfl, ⟨"`--x`".toList, rfl, by decide⟩, by decide⟩, by decide, by decide⟩
  have hnone : entryAt? ls 0 = none := by decide +kernel
  cases hnone.symm.trans (h ls 0 2 _ hnotext)

/-- **Entries without text.**  Such an entry gets the placeholder exactly if the second line below its heading opens an
entry, or no comment and a sentence ends behind the heading of the next part, or a comment and what follows it comes to
the placeholder.  Without a comment, the document is malformed where this fails: no sentence is found from the next part
on. -/
theorem entryAt?_eq_placeholder_iff_fallsBack (h : HasNoText ls i j name) :
    (entryAt? ls i = some ⟨name, Entry.placeholder⟩ ↔ FallsBack ls i j) ∧
      (holdsAt opensComment ls (i + 2) = false → ∀ d,
        (∃ m, readHeadingAt? ls i = some (.error m) ∧ m.diagnostic = d) ↔
          ¬ FallsBack ls i j ∧ d = ⟨"Could not find sentence.".toList, some j⟩) := by
  refine ⟨⟨fun hentry => ?_, fun hfalls => ?_⟩, fun hcomment d => ?_⟩
  · obtain ⟨-, -, -, -, hdescribed⟩ := entryAt?_eq_some_iff.1 hentry
    exact h.fallsBack_of_isDescribedAs hdescribed rfl
  · obtain ⟨l, hl, hheading, hname⟩ := h.heading
    exact entryAt?_eq_some_iff.2 ⟨l, hl, hheading, hname, h.isDescribedAs_of_fallsBack hfalls⟩
  · rw [readHeadingAt?_eq_error_iff, h.isMalformedAt_iff hcomment]

/-- Of two entries without text at the ends of their sections, the first gets the placeholder, for a sentence follows
somewhere; the second does not. -/
theorem entries_at_ends_of_sections :
    let ls := ["### `-x`", "", "## Useful V8 options", "", "### `-y`", "", "Does y.", "", "### `-z`", "", "",
      "## See also"].map String.toList
    entryAt? ls 0 = some ⟨"-x".toList, Entry.placeholder⟩ ∧
      ∃ m, readHeadingAt? ls 8 = some (.error m) ∧ m.diagnostic = ⟨"Could not find sentence.".toList, some 11⟩ := by
  intro ls
  have hx : HasNoText ls 0 2 "-x".toList :=
    ⟨⟨_, rfl, ⟨"`-x`".toList, rfl, by decide⟩, by decide⟩, by decide, by decide⟩
  have hz : HasNoText ls 8 11 "-z".toList :=
    ⟨⟨_, rfl, ⟨"`-z`".toList, rfl, by decide⟩, by decide⟩, by decide, by decide⟩
  have hend : Prose.HasSentenceEnd (Text.unlines (ls.drop 2)) :=
    ⟨"## Useful V8 options\n\n### `-y`\n\nDoes y".toList, "\n\n### `-z`\n\n\n## See also".toList, by decide,
      Or.inr (Or.inr rfl), by decide⟩
  have hnone : ¬ FallsBack ls 8 11 := by
    rintro (hentry | ⟨-, hend⟩ | hcomment)
    · exact absurd hentry (by decide)
    · exact Prose.firstSentenceOfLines?_eq_none_iff.1 (by decide) hend
    · exact absurd hcomment (by decide)
  exact ⟨(entryAt?_eq_placeholder_iff_fallsBack hx).1.2 (.sentence (by decide) hend),
    ((entryAt?_eq_placeholder_iff_fallsBack hz).2 (by decide) _).2 ⟨hnone, rfl⟩⟩

end Manpage
