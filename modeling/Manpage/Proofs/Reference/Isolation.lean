import Manpage.Proofs.Prose.Lines
import Manpage.Proofs.Reference.Layout

/-!
# Entries apart

How far down a document an entry reads.  The searches below a heading do not stop where the next entry or section
begins: a comment may swallow it, and a sentence may run on through it.

* `IsSpan` — a heading and the next line below it that opens an entry or a section; `AgreeThrough` — documents with the
  same lines through that of a number;
* `IsSettled` — the comment and the sentence below a heading end before the next part begins;
* `not_entries_apart` — two documents that agree through the next part may give different entries;
* `entries_apart_of_isSettled` — a settled entry is the same in all documents that agree through the next part, and no
  other entry is.
-/

namespace Manpage

/-! ### Spans -/

/-- A line that opens an entry or a section. -/
def opensNext (l : Text) : Bool := opensEntry l || Text.opensWith Section.marker l

/-- The heading of an entry, and the first line below it that opens another entry or a section. -/
structure IsSpan (ls : List Text) (i j : Nat) : Prop where
  heading : ∃ l, ls[i]? = some l ∧ IsOptionHeading l
  next : IsFirstBelow opensNext ls i j

/-- Documents with the same lines through that of a number. -/
def AgreeThrough (j : Nat) (a b : List Text) : Prop := ∀ k ≤ j, a[k]? = b[k]?

instance (j : Nat) (a b : List Text) : Decidable (AgreeThrough j a b) :=
  inferInstanceAs (Decidable (∀ k ≤ j, a[k]? = b[k]?))

/-- The lines of a document from one number through another. -/
def stretch (ls : List Text) (d j : Nat) : List Text := (ls.take (j + 1)).drop d

/-- What stands below a heading ends before the line where the next part begins: a comment is closed, and the first
sentence, if it begins before that line, ends with it at the latest, or does not start like prose and is discarded. -/
structure IsSettled (ls : List Text) (i j : Nat) : Prop where
  comment : holdsAt opensComment ls (i + 2) = true → ∃ k, i < k ∧ k < j ∧ holdsAt closesComment ls k = true
  sentence : holdsAt opensEntry ls (i + 2) = false →
    ∀ c d, IsSearchedBehind ls i c → IsFirstBelow isProseLine ls c d → d < j →
      Prose.HasSentenceEnd (Text.unlines (stretch ls d j)) ∨
        Entry.startsLikeProse (Prose.convert (Text.trimStart (Text.unlines (stretch ls d j)))) = false

variable {a b ls : List Text} {c d i j k : Nat} {p : Text → Bool}

theorem eq_cons_of_opensNext {l : Text} (h : opensNext l = true) : ∃ t, l = '#' :: t := by
  rcases Bool.or_eq_true _ _ ▸ h with h | h
  · obtain ⟨t, rfl⟩ := Text.opensWith_iff.1 h
    exact ⟨_, rfl⟩
  · obtain ⟨t, rfl⟩ := Text.opensWith_iff.1 h
    exact ⟨_, rfl⟩

theorem exists_line_of_holdsAt (h : holdsAt p ls k = true) : ∃ l, ls[k]? = some l ∧ p l = true := by
  rw [holdsAt, Option.any_eq_true] at h
  exact h

theorem holdsAt_mono {q : Text → Bool} {r : Bool} (hpq : ∀ l, p l = true → q l = r) (h : holdsAt p ls k = true) :
    holdsAt q ls k = r := by
  obtain ⟨l, hl, hp⟩ := exists_line_of_holdsAt h
  rw [holdsAt, hl, Option.any_some, hpq l hp]

theorem isProseLine_of_opensNext {l : Text} (h : opensNext l = true) : isProseLine l = true := by
  obtain ⟨t, rfl⟩ := eq_cons_of_opensNext h
  rfl

theorem closesComment_of_opensNext {l : Text} (h : opensNext l = true) : closesComment l = false := by
  obtain ⟨t, rfl⟩ := eq_cons_of_opensNext h
  rfl

theorem opensEntry_of_opensComment {l : Text} (h : opensComment l = true) : opensEntry l = false := by
  obtain ⟨t, rfl⟩ := Text.opensWith_iff.1 h
  rfl

/-! ### Documents that agree -/

theorem AgreeThrough.holdsAt_eq (h : AgreeThrough j a b) (hk : k ≤ j) : holdsAt p a k = holdsAt p b k := by
  rw [holdsAt, holdsAt, h k hk]

theorem AgreeThrough.isFirstBelow (h : AgreeThrough j a b) (hk : k ≤ j) (hfirst : IsFirstBelow p a i k) :
    IsFirstBelow p b i k where
  below := hfirst.below
  holds := by rw [← h.holdsAt_eq hk, hfirst.holds]
  first := by
    intro m him hmk
    rw [← h.holdsAt_eq (by omega), hfirst.first m him hmk]

theorem AgreeThrough.isSearchedBehind (h : AgreeThrough j a b) (hi : i + 2 ≤ j) (hcj : c ≤ j)
    (hc : IsSearchedBehind a i c) : IsSearchedBehind b i c := by
  unfold IsSearchedBehind at hc ⊢
  rw [← h.holdsAt_eq hi]
  split
  · next hopen =>
    rw [if_pos hopen] at hc
    exact h.isFirstBelow hcj hc
  · next hopen => rwa [if_neg hopen] at hc

theorem AgreeThrough.stretch_eq (h : AgreeThrough j a b) (d : Nat) : stretch a d j = stretch b d j := by
  have htake : a.take (j + 1) = b.take (j + 1) := by
    apply List.ext_getElem?
    intro k
    rw [List.getElem?_take, List.getElem?_take]
    split
    · exact h k (by omega)
    · rfl
  rw [stretch, stretch, htake]

theorem AgreeThrough.isSpan (h : AgreeThrough j a b) (hspan : IsSpan a i j) : IsSpan b i j where
  heading := by
    obtain ⟨l, hl, hheading⟩ := hspan.heading
    exact ⟨l, by rw [← h i (Nat.le_of_lt hspan.next.below), hl], hheading⟩
  next := h.isFirstBelow (Nat.le_refl j) hspan.next

theorem drop_eq_stretch_append (hj : j < ls.length) (hd : d ≤ j) : ls.drop d = stretch ls d j ++ ls.drop (j + 1) := by
  have hlen : d ≤ (ls.take (j + 1)).length := by
    rw [List.length_take]
    omega
  rw [stretch, ← List.drop_append_of_le_length hlen, List.take_append_drop]

theorem IsSearchedBehind.le (hc : IsSearchedBehind ls i c) : i ≤ c := by
  unfold IsSearchedBehind at hc
  split at hc
  · exact Nat.le_of_lt hc.below
  · exact Nat.le_of_eq hc.symm

theorem IsSearchedBehind.unique {c' : Nat} (hc : IsSearchedBehind ls i c) (hc' : IsSearchedBehind ls i c') :
    c = c' := by
  unfold IsSearchedBehind at hc hc'
  split at hc
  · next hopen =>
    rw [if_pos hopen] at hc'
    exact hc.unique hc'
  · next hopen =>
    rw [if_neg hopen] at hc'
    rw [hc, hc']

/-- A settled comment ends before the next part begins. -/
theorem IsSettled.lt (h : IsSettled ls i j) (hij : i < j) (hc : IsSearchedBehind ls i c) : c < j := by
  unfold IsSearchedBehind at hc
  split at hc
  · next hopen =>
    obtain ⟨k, hik, hkj, hclose⟩ := h.comment hopen
    by_contra hcj
    rw [hc.first k hik (by omega)] at hclose
    cases hclose
  · rwa [hc]

/-- An entry is settled whose comment and sentence end in time. -/
theorem isSettled_of_hasSentenceEnd (hc : IsSearchedBehind ls i c) (hcj : c < j) (hd : IsFirstBelow isProseLine ls c d)
    (hend : Prose.HasSentenceEnd (Text.unlines (stretch ls d j))) : IsSettled ls i j where
  comment := by
    intro hopen
    rw [isSearchedBehind_iff_isFirstBelow hopen] at hc
    exact ⟨c, hc.below, hcj, hc.holds⟩
  sentence := by
    intro _ c' d' hc' hd' _
    obtain rfl := hc.unique hc'
    obtain rfl := hd.unique hd'
    exact Or.inl hend

/-- Prose is found at the latest where the next part begins. -/
theorem IsFirstBelow.le_of_opensNext (hd : IsFirstBelow isProseLine ls c d) (hj : holdsAt opensNext ls j = true)
    (hcj : c < j) : d ≤ j := by
  by_contra hdj
  have hline := hd.first j hcj (by omega)
  rw [holdsAt_mono (fun l => isProseLine_of_opensNext) hj] at hline
  cases hline

/-! ### Descriptions that are settled -/

/-- A sentence that begins with a heading does not start like prose. -/
theorem kept_of_opensNext (hd : holdsAt opensNext ls d = true) {s : Text}
    (hs : Prose.firstSentenceOfLines? (ls.drop d) = some s) : Entry.kept (Prose.convert s) = Entry.placeholder := by
  obtain ⟨l, hl, hopen⟩ := exists_line_of_holdsAt hd
  obtain ⟨t, rfl⟩ := eq_cons_of_opensNext hopen
  obtain ⟨hlt, hline⟩ := List.getElem?_eq_some_iff.1 hl
  rw [List.drop_eq_getElem_cons hlt, hline] at hs
  obtain ⟨u, rfl⟩ := Prose.eq_cons_of_firstSentenceOfLines? hs (by decide) (by decide)
  have hhead := Prose.head?_convert (c := '#') (by decide) u
  cases hconvert : Prose.convert ('#' :: u) with
  | nil => rfl
  | cons c v =>
    rw [hconvert] at hhead
    obtain rfl := Option.some.inj hhead
    rfl

/-- The description that some lines give by themselves. -/
def descriptionIn (ls : List Text) : Text :=
  match Prose.firstSentenceOfLines? ls with
  | some s => Entry.kept (Prose.convert s)
  | none => Entry.placeholder

theorem startsLikeProse_append_lineFeed (t u : Text) :
    Entry.startsLikeProse (t ++ '\n' :: u) = Entry.startsLikeProse t := by
  cases t with
  | nil => rfl
  | cons c t => rfl

/-- The line where the next part begins holds a character that is not white space. -/
theorem exists_not_blank_stretch (hj : holdsAt opensNext ls j = true) (hd : d ≤ j) :
    ∃ c ∈ Text.unlines (stretch ls d j), Unicode.isBlank c = false := by
  obtain ⟨l, hl, hopen⟩ := exists_line_of_holdsAt hj
  obtain ⟨t, rfl⟩ := eq_cons_of_opensNext hopen
  have hmem : '#' :: t ∈ stretch ls d j := by
    refine List.mem_of_getElem? (i := j - d) ?_
    rw [stretch, List.getElem?_drop, List.getElem?_take, Nat.add_sub_cancel' hd, if_pos (Nat.lt_succ_self j), hl]
  exact ⟨'#', Text.mem_joined hmem List.mem_cons_self, by decide⟩

/-- A settled description depends on the lines through the next part only. -/
theorem kept_eq_descriptionIn (hspan : IsSpan ls i j) (hsettled : IsSettled ls i j)
    (hnext : holdsAt opensEntry ls (i + 2) = false) (hc : IsSearchedBehind ls i c)
    (hd : IsFirstBelow isProseLine ls c d) {s : Text} (hs : Prose.firstSentenceOfLines? (ls.drop d) = some s) :
    Entry.kept (Prose.convert s) = descriptionIn (stretch ls d j) := by
  have hdj : d ≤ j := hd.le_of_opensNext hspan.next.holds (hsettled.lt hspan.next.below hc)
  have hdrop := drop_eq_stretch_append (lt_length_of_holdsAt hspan.next.holds) hdj
  unfold descriptionIn
  cases hfront : Prose.firstSentenceOfLines? (stretch ls d j) with
  | some t =>
    rw [hdrop, Prose.firstSentenceOfLines?_append hfront] at hs
    obtain rfl := Option.some.inj hs
    rfl
  | none =>
    rcases Nat.lt_or_eq_of_le hdj with hlt | rfl
    · have hend := Prose.firstSentenceOfLines?_eq_none_iff.1 hfront
      have hprose := (hsettled.sentence hnext c d hc hd hlt).resolve_left hend
      rw [hdrop] at hs
      obtain ⟨r, rfl⟩ := Prose.eq_append_of_firstSentenceOfLines? hend
        (exists_not_blank_stretch hspan.next.holds hdj) hs
      rw [Entry.kept, Prose.convert_append_lineFeed, startsLikeProse_append_lineFeed, hprose]
      rfl
    · exact kept_of_opensNext hspan.next.holds hs

/-- Where the next part begins right below the heading, a settled entry has no description. -/
theorem IsDescribedAs.eq_placeholder_of_succ {t : Text} (h : IsDescribedAs ls i t) (hspan : IsSpan ls i (i + 1))
    (hsettled : IsSettled ls i (i + 1)) : t = Entry.placeholder := by
  cases h with
  | placeholder hnext => rfl
  | @sentence c d s hnext hc hd hs =>
    have hci := hsettled.lt hspan.next.below hc
    have hdi := hd.le_of_opensNext hspan.next.holds hci
    have hic := hc.le
    have hcd := hd.below
    obtain rfl : d = i + 1 := by omega
    exact kept_of_opensNext hspan.next.holds hs

/-- A settled description is the same in all documents that agree through the next part. -/
theorem IsDescribedAs.eq_of_agreeThrough {t u : Text} (ha : IsDescribedAs a i t) (hb : IsDescribedAs b i u)
    (hagree : AgreeThrough j a b) (hspan : IsSpan a i j) (hsa : IsSettled a i j) (hsb : IsSettled b i j) : t = u := by
  have hij := hspan.next.below
  have hspan' := hagree.isSpan hspan
  by_cases hi : i + 2 ≤ j
  · have hflag : holdsAt opensEntry a (i + 2) = holdsAt opensEntry b (i + 2) := hagree.holdsAt_eq hi
    cases ha with
    | placeholder hnext =>
      cases hb with
      | placeholder => rfl
      | sentence hnext' =>
        rw [hflag, hnext'] at hnext
        cases hnext
    | sentence hnext hc hd hs =>
      cases hb with
      | placeholder hnext' =>
        rw [hflag, hnext'] at hnext
        cases hnext
      | sentence hnext' hc' hd' hs' =>
        have hcj := hsa.lt hij hc
        have hdj := hd.le_of_opensNext hspan.next.holds hcj
        obtain rfl := (hagree.isSearchedBehind hi (Nat.le_of_lt hcj) hc).unique hc'
        obtain rfl := (hagree.isFirstBelow hdj hd).unique hd'
        rw [kept_eq_descriptionIn hspan hsa hnext hc hd hs, kept_eq_descriptionIn hspan' hsb hnext' hc' hd' hs',
          hagree.stretch_eq]
  · -- the second line below the heading is not among those that the documents share
    obtain rfl : j = i + 1 := by omega
    rw [ha.eq_placeholder_of_succ hspan hsa, hb.eq_placeholder_of_succ hspan' hsb]

/-! ### Descriptions that are not settled -/

section Continued

variable (hj : j < ls.length) (more : List Text)

include hj

theorem agreeThrough_take_append : AgreeThrough j ls (ls.take (j + 1) ++ more) := by
  intro k hk
  have hlen : k < (ls.take (j + 1)).length := by
    rw [List.length_take]
    omega
  rw [List.getElem?_append_left hlen, List.getElem?_take, if_pos (by omega)]

theorem drop_take_append (n : Nat) : (ls.take (j + 1) ++ more).drop (j + 1 + n) = more.drop n := by
  have hlen : (ls.take (j + 1)).length = j + 1 := by
    rw [List.length_take]
    omega
  rw [List.drop_append, hlen, Nat.add_sub_cancel_left, List.drop_eq_nil_of_le (by omega), List.nil_append]

theorem holdsAt_take_append (n : Nat) : holdsAt p (ls.take (j + 1) ++ more) (j + 1 + n) = holdsAt p more n := by
  rw [← Nat.add_zero (j + 1 + n), ← holdsAt_drop, drop_take_append hj, holdsAt_drop, Nat.add_zero]

end Continued

/-- A comment that is open where the next part begins can be closed in front of any description. -/
theorem isDescribedAs_of_unclosed (hspan : IsSpan ls i j) (hopen : holdsAt opensComment ls (i + 2) = true)
    (hclose : ∀ k, i < k → k < j → holdsAt closesComment ls k = false) {t s : Text} (ht : isProseLine t = true)
    (hs : Prose.firstSentenceOfLines? [t] = some s) :
    IsDescribedAs (ls.take (j + 1) ++ ["<!--".toList, "-->".toList, t]) i (Entry.kept (Prose.convert s)) := by
  have hij := hspan.next.below
  have hj := lt_length_of_holdsAt hspan.next.holds
  have hagree := agreeThrough_take_append hj ["<!--".toList, "-->".toList, t]
  have hopen' : holdsAt opensComment (ls.take (j + 1) ++ ["<!--".toList, "-->".toList, t]) (i + 2) = true := by
    by_cases hi : i + 2 ≤ j
    · rw [← hagree.holdsAt_eq hi, hopen]
    · obtain rfl : j = i + 1 := by omega
      exact holdsAt_take_append hj _ 0
  have hc : IsSearchedBehind (ls.take (j + 1) ++ ["<!--".toList, "-->".toList, t]) i (j + 1 + 1) := by
    rw [isSearchedBehind_iff_isFirstBelow hopen']
    refine ⟨by omega, holdsAt_take_append hj _ 1, fun k hik hk => ?_⟩
    rcases Nat.lt_trichotomy k j with hkj | rfl | hkj
    · rw [← hagree.holdsAt_eq (Nat.le_of_lt hkj), hclose k hik hkj]
    · rw [← hagree.holdsAt_eq (Nat.le_refl k), holdsAt_mono (fun l => closesComment_of_opensNext) hspan.next.holds]
    · obtain rfl : k = j + 1 := by omega
      exact holdsAt_take_append hj _ 0
  have hd : IsFirstBelow isProseLine (ls.take (j + 1) ++ ["<!--".toList, "-->".toList, t]) (j + 1 + 1) (j + 1 + 2) := by
    refine ⟨by omega, ?_, fun k hk hk' => by omega⟩
    rw [holdsAt_take_append hj]
    exact ht
  refine .sentence (holdsAt_mono (fun l => opensEntry_of_opensComment) hopen') hc hd ?_
  rw [drop_take_append hj]
  exact hs

/-- A description that is not complete where the next part begins can be completed in any words. -/
theorem exists_isDescribedAs_of_runsOver (hspan : IsSpan ls i j) (hnext : holdsAt opensEntry ls (i + 2) = false)
    (hc : IsSearchedBehind ls i c) (hd : IsFirstBelow isProseLine ls c d) (hdj : d < j)
    (hend : ¬ Prose.HasSentenceEnd (Text.unlines (stretch ls d j)))
    (hprose : Entry.startsLikeProse (Prose.convert (Text.trimStart (Text.unlines (stretch ls d j)))) = true) :
    ∃ q, (q = [] ∨ q = ['\x22']) ∧ ∀ c, c.isAlpha = true →
      IsDescribedAs (ls.take (j + 1) ++ [q ++ [c, '.']]) i
        (Prose.convert (Text.trimStart (Text.unlines (stretch ls d j))) ++ '\n' :: Prose.convert (q ++ [c, '.'])) := by
  have hj := lt_length_of_holdsAt hspan.next.holds
  have hi : i + 2 ≤ j := by
    have hic := hc.le
    have hcd := hd.below
    omega
  obtain ⟨q, hq, hsentence⟩ := Prose.exists_firstSentenceOfLines?_append hend
    (exists_not_blank_stretch hspan.next.holds (Nat.le_of_lt hdj))
  refine ⟨q, hq, fun letter hletter => ?_⟩
  have hagree := agreeThrough_take_append hj [q ++ [letter, '.']]
  have hdrop : (ls.take (j + 1) ++ [q ++ [letter, '.']]).drop d = stretch ls d j ++ [q ++ [letter, '.']] := by
    rw [stretch, List.drop_append_of_le_length]
    rw [List.length_take]
    omega
  have hdescribed : IsDescribedAs (ls.take (j + 1) ++ [q ++ [letter, '.']]) i _ :=
    .sentence (by rw [← hagree.holdsAt_eq hi, hnext])
      (hagree.isSearchedBehind hi (by have hcd := hd.below; omega) hc)
      (hagree.isFirstBelow (Nat.le_of_lt hdj) hd) (by rw [hdrop, hsentence letter hletter])
  rwa [Entry.kept, Prose.convert_append_lineFeed, startsLikeProse_append_lineFeed, if_pos hprose] at hdescribed

/-- Where an entry is not settled, documents that agree through the next part describe it in different ways. -/
theorem exists_isDescribedAs_ne (hspan : IsSpan a i j) (h : ¬ IsSettled a i j) :
    ∃ b b' t t', AgreeThrough j a b ∧ AgreeThrough j a b' ∧ IsDescribedAs b i t ∧ IsDescribedAs b' i t' ∧ t ≠ t' := by
  have hj := lt_length_of_holdsAt hspan.next.holds
  by_cases hcomment : holdsAt opensComment a (i + 2) = true ∧ ∀ k, i < k → k < j → holdsAt closesComment a k = false
  · obtain ⟨hopen, hclose⟩ := hcomment
    exact ⟨_, _, _, _, agreeThrough_take_append hj _, agreeThrough_take_append hj _,
      isDescribedAs_of_unclosed hspan hopen hclose (t := "One.".toList) rfl rfl,
      isDescribedAs_of_unclosed hspan hopen hclose (t := "Two.".toList) rfl rfl, by decide +kernel⟩
  · have hclosed : holdsAt opensComment a (i + 2) = true → ∃ k, i < k ∧ k < j ∧ holdsAt closesComment a k = true := by
      intro hopen
      by_contra hnone
      refine hcomment ⟨hopen, fun k hik hkj => Bool.eq_false_iff.2 fun hclose => hnone ⟨k, hik, hkj, hclose⟩⟩
    have hrunsOver : ¬ (holdsAt opensEntry a (i + 2) = false →
        ∀ c d, IsSearchedBehind a i c → IsFirstBelow isProseLine a c d → d < j →
          Prose.HasSentenceEnd (Text.unlines (stretch a d j)) ∨
            Entry.startsLikeProse (Prose.convert (Text.trimStart (Text.unlines (stretch a d j)))) = false) :=
      fun hsentence => h ⟨hclosed, hsentence⟩
    push Not at hrunsOver
    obtain ⟨hnext, c, d, hc, hd, hdj, hend, hprose⟩ := hrunsOver
    obtain ⟨q, hq, hdescribed⟩ :=
      exists_isDescribedAs_of_runsOver hspan hnext hc hd hdj hend (by simpa using hprose)
    refine ⟨_, _, _, _, agreeThrough_take_append hj _, agreeThrough_take_append hj _, hdescribed 'a' rfl,
      hdescribed 'b' rfl, fun heq => ?_⟩
    have htail := List.append_cancel_left heq
    rcases hq with rfl | rfl
    · exact absurd htail (by decide +kernel)
    · exact absurd htail (by decide +kernel)

/-! ### Entries -/

/-- A description without a period takes in the heading below it and the description of the next entry. -/
theorem not_entries_apart :
    ¬ ∀ (a b : List Text) (i j : Nat), IsSpan a i j → AgreeThrough j a b →
      ∀ e f, entryAt? a i = some e → entryAt? b i = some f → e = f := by
  intro h
  let a := ["### `--x`", "", "Does x", "### `--y`", "", "Does y."].map String.toList
  let b := ["### `--x`", "", "Does x", "### `--y`", "", "Does z."].map String.toList
  have hspan : IsSpan a 0 3 := ⟨⟨_, rfl, "`--x`".toList, rfl, by decide⟩, by decide⟩
  have ha : entryAt? a 0 = some ⟨"--x".toList, "Does x\n### \"--y\"\n\nDoes y.".toList⟩ := by decide +kernel
  have hb : entryAt? b 0 = some ⟨"--x".toList, "Does x\n### \"--y\"\n\nDoes z.".toList⟩ := by decide +kernel
  exact absurd (h a b 0 3 hspan (by decide) _ _ ha hb) (by decide)

/-- **Entries apart.**  Let documents agree through the line where the next part begins.  If the entry above is settled
in both, then it is the same in both.  Where it is not settled, there are documents that agree this far and give
different entries. -/
theorem entries_apart_of_isSettled {a : List Text} {i j : Nat} (hspan : IsSpan a i j) :
    (∀ b, AgreeThrough j a b → IsSettled a i j → IsSettled b i j →
      ∀ e f, entryAt? a i = some e → entryAt? b i = some f → e = f) ∧
    (¬ IsSettled a i j → ∃ b b' e f, AgreeThrough j a b ∧ AgreeThrough j a b' ∧
      entryAt? b i = some e ∧ entryAt? b' i = some f ∧ e ≠ f) := by
  constructor
  · intro b hagree hsa hsb e f he hf
    obtain ⟨l, hl, -, hname, hdescribed⟩ := entryAt?_eq_some_iff.1 he
    obtain ⟨l', hl', -, hname', hdescribed'⟩ := entryAt?_eq_some_iff.1 hf
    obtain rfl : l = l' := by
      rw [hagree i (Nat.le_of_lt hspan.next.below), hl'] at hl
      exact (Option.some.inj hl).symm
    have hnames : e.name = f.name := Option.some.inj (hname.symm.trans hname')
    have hdescriptions : e.description = f.description :=
      hdescribed.eq_of_agreeThrough hdescribed' hagree hspan hsa hsb
    calc e = ⟨e.name, e.description⟩ := rfl
      _ = ⟨f.name, f.description⟩ := by rw [hnames, hdescriptions]
  · intro hsettled
    obtain ⟨b, b', t, t', hb, hb', ht, ht', hne⟩ := exists_isDescribedAs_ne hspan hsettled
    obtain ⟨l, hl, hheading⟩ := hspan.heading
    obtain ⟨name, hname, -⟩ := isOptionHeading_iff.1 hheading
    have hentry {ls : List Text} {t : Text} (hagree : AgreeThrough j a ls) (ht : IsDescribedAs ls i t) :
        entryAt? ls i = some ⟨name, t⟩ :=
      entryAt?_eq_some_iff.2 ⟨l, by rw [← hagree i (Nat.le_of_lt hspan.next.below), hl], hheading, hname, ht⟩
    exact ⟨b, b', _, _, hb, hb', hentry hb ht, hentry hb' ht', fun heq => hne (congrArg Entry.description heq)⟩

/-- An entry with a comment and a sentence of two lines stays as it is when the entry below is taken apart; without its
period it would not. -/
theorem entries_apart_of_two_lines :
    let front := ["### `--x`", "", "<!-- YAML", "-->", "Does x", "in two lines. More.", "### `--y`"].map String.toList
    let a := front ++ ["", "Does y."].map String.toList
    let b := front ++ ["<!-- y", "## Other"].map String.toList
    let unsettled := ["### `--x`", "", "Does x", "### `--y`"].map String.toList
    (∃ e f, entryAt? a 0 = some e ∧ entryAt? b 0 = some f ∧ e = f) ∧
      ∃ c d e f, AgreeThrough 3 unsettled c ∧ AgreeThrough 3 unsettled d ∧
        entryAt? c 0 = some e ∧ entryAt? d 0 = some f ∧ e ≠ f := by
  intro front a b unsettled
  have hspan : IsSpan a 0 6 := ⟨⟨_, rfl, "`--x`".toList, rfl, by decide⟩, by decide⟩
  have hend : Prose.HasSentenceEnd (Text.unlines (stretch a 4 6)) :=
    ⟨"Does x\nin two lines".toList, " More.\n### `--y`".toList, by decide, Or.inr (Or.inl rfl), by decide⟩
  have ha : IsSettled a 0 6 := isSettled_of_hasSentenceEnd (c := 3) (d := 4) (by decide) (by decide) (by decide) hend
  have hb : IsSettled b 0 6 := isSettled_of_hasSentenceEnd (c := 3) (d := 4) (by decide) (by decide) (by decide) hend
  have hspan' : IsSpan unsettled 0 3 := ⟨⟨_, rfl, "`--x`".toList, rfl, by decide⟩, by decide⟩
  have hopen : ¬ IsSettled unsettled 0 3 := by
    intro h
    have hnone : Prose.firstSentenceOfLines? (stretch unsettled 2 3) = none := by decide
    rcases h.sentence (by decide) 0 2 (by decide) (by decide) (by decide) with hend' | hprose
    · exact Prose.firstSentenceOfLines?_eq_none_iff.1 hnone hend'
    · exact absurd hprose (by decide +kernel)
  have hentry : entryAt? a 0 = some ⟨"--x".toList, "Does x\nin two lines.".toList⟩ := by decide +kernel
  have hentry' : entryAt? b 0 = some ⟨"--x".toList, "Does x\nin two lines.".toList⟩ := by decide +kernel
  refine ⟨⟨_, _, hentry, hentry', ?_⟩, (entries_apart_of_isSettled hspan').2 hopen⟩
  exact (entries_apart_of_isSettled hspan).1 b (by decide) ha hb _ _ hentry hentry'

end Manpage
