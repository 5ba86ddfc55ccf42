import Manpage.Proofs.Reference.Walk

/-!
# The layout of an entry

What the reading of a heading depends on is said here by the numbers of lines in the whole document.

* `holdsAt` — a line of some kind stands at a number; `IsFirstBelow` and `NoneBelow` — the first such line below a
  line, and that there is none;
* `IsOptionHeading` — a line that names an entry (`isOptionHeading_iff`);
* `IsSearchedBehind` — the line behind which the description of a heading is looked for;
* `readDescription_of_isSearchedBehind`, `readDescription_of_noneBelow` — the description by this line, and without one;
* `IsDescribedAs` — the description of a heading by its layout, and `entryAt?_eq_some_iff`, the entry that it gives.
-/

namespace Manpage

/-! ### Lines by their numbers -/

/-- Whether a document has a line of the given number, and that line is of the given kind. -/
def holdsAt (p : Text → Bool) (ls : List Text) (k : Nat) : Bool := ls[k]?.any p

/-- The first line of a kind below the line of a number. -/
structure IsFirstBelow (p : Text → Bool) (ls : List Text) (i k : Nat) : Prop where
  below : i < k
  holds : holdsAt p ls k = true
  first : ∀ j, i < j → j < k → holdsAt p ls j = false

instance (p : Text → Bool) (ls : List Text) (i k : Nat) : Decidable (IsFirstBelow p ls i k) :=
  decidable_of_iff (i < k ∧ holdsAt p ls k = true ∧ ∀ j < k, i < j → holdsAt p ls j = false)
    ⟨fun ⟨hbelow, hholds, hfirst⟩ => ⟨hbelow, hholds, fun j hij hjk => hfirst j hjk hij⟩,
      fun h => ⟨h.below, h.holds, fun j hjk hij => h.first j hij hjk⟩⟩

/-- No line below that of a number is of a kind. -/
def NoneBelow (p : Text → Bool) (ls : List Text) (i : Nat) : Prop := ∀ j, i < j → holdsAt p ls j = false

variable {p : Text → Bool} {ls : List Text} {i : Nat}

theorem holdsAt_drop (p : Text → Bool) (ls : List Text) (n m : Nat) :
    holdsAt p (ls.drop n) m = holdsAt p ls (n + m) := by
  rw [holdsAt, holdsAt, List.getElem?_drop]

theorem holdsAt_of_lt {k : Nat} (hk : k < ls.length) : holdsAt p ls k = p ls[k] := by
  rw [holdsAt, List.getElem?_eq_getElem hk, Option.any_some]

theorem lt_length_of_holdsAt {k : Nat} (h : holdsAt p ls k = true) : k < ls.length := by
  by_contra hk
  rw [holdsAt, List.getElem?_eq_none (Nat.le_of_not_lt hk)] at h
  cases h

theorem findIdx?_eq_some_iff_holdsAt {m : Nat} :
    ls.findIdx? p = some m ↔ holdsAt p ls m = true ∧ ∀ j < m, holdsAt p ls j = false := by
  rw [List.findIdx?_eq_some_iff_getElem]
  constructor
  · rintro ⟨hm, hholds, hfirst⟩
    refine ⟨by rw [holdsAt_of_lt hm, hholds], fun j hj => ?_⟩
    rw [holdsAt_of_lt (Nat.lt_trans hj hm)]
    exact Bool.eq_false_iff.2 (hfirst j hj)
  · rintro ⟨hholds, hfirst⟩
    have hm := lt_length_of_holdsAt hholds
    refine ⟨hm, (holdsAt_of_lt hm).symm.trans hholds, fun j hj => ?_⟩
    have hline := (holdsAt_of_lt (Nat.lt_trans hj hm)).symm.trans (hfirst j hj)
    exact Bool.eq_false_iff.1 hline

theorem findIdx?_eq_none_iff_holdsAt : ls.findIdx? p = none ↔ ∀ j, holdsAt p ls j = false := by
  rw [List.findIdx?_eq_none_iff]
  constructor
  · intro h j
    cases hj : ls[j]? with
    | none => rw [holdsAt, hj]; rfl
    | some l => rw [holdsAt, hj]; exact h l (List.mem_of_getElem? hj)
  · intro h l hl
    obtain ⟨j, hj⟩ := List.getElem?_of_mem hl
    have hline := h j
    rwa [holdsAt, hj] at hline

/-- A search among the lines below a line finds the first one there. -/
theorem findIdx?_drop_eq_some_iff {k : Nat} :
    (∃ m, (ls.drop (i + 1)).findIdx? p = some m ∧ k = i + 1 + m) ↔ IsFirstBelow p ls i k := by
  constructor
  · rintro ⟨m, hm, rfl⟩
    obtain ⟨hholds, hfirst⟩ := findIdx?_eq_some_iff_holdsAt.1 hm
    rw [holdsAt_drop] at hholds
    refine ⟨by omega, hholds, fun j hij hj => ?_⟩
    have hline := hfirst (j - (i + 1)) (by omega)
    rwa [holdsAt_drop, Nat.add_sub_cancel' hij] at hline
  · intro h
    have hbelow := h.below
    refine ⟨k - (i + 1), findIdx?_eq_some_iff_holdsAt.2 ⟨?_, fun j hj => ?_⟩, by omega⟩
    · rw [holdsAt_drop, Nat.add_sub_cancel' hbelow]
      exact h.holds
    · rw [holdsAt_drop]
      exact h.first _ (by omega) (by omega)

theorem findIdx?_drop_eq_none_iff : (ls.drop (i + 1)).findIdx? p = none ↔ NoneBelow p ls i := by
  rw [findIdx?_eq_none_iff_holdsAt]
  constructor
  · intro h j hij
    have hline := h (j - (i + 1))
    rwa [holdsAt_drop, Nat.add_sub_cancel' hij] at hline
  · intro h j
    rw [holdsAt_drop]
    exact h _ (by omega)

/-- Below every line there is a first one of a kind or none. -/
theorem exists_isFirstBelow_or_noneBelow (p : Text → Bool) (ls : List Text) (i : Nat) :
    (∃ k, IsFirstBelow p ls i k) ∨ NoneBelow p ls i := by
  cases hfind : (ls.drop (i + 1)).findIdx? p with
  | none => exact Or.inr (findIdx?_drop_eq_none_iff.1 hfind)
  | some m => exact Or.inl ⟨i + 1 + m, findIdx?_drop_eq_some_iff.1 ⟨m, hfind, rfl⟩⟩

theorem IsFirstBelow.unique {k k' : Nat} (h : IsFirstBelow p ls i k) (h' : IsFirstBelow p ls i k') : k = k' := by
  rcases Nat.lt_trichotomy k k' with hlt | heq | hlt
  · have hline := h'.first k h.below hlt
    rw [h.holds] at hline
    cases hline
  · exact heq
  · have hline := h.first k' h'.below hlt
    rw [h'.holds] at hline
    cases hline

/-! ### Headings -/

/-- A line that names an entry: without its backticks the name is neither empty nor a mark of the end of the
options. -/
def IsOptionHeading (l : Text) : Prop :=
  ∃ rest, l = Entry.marker ++ rest ∧ rest.filter (· ≠ '\x60') ∉ [[], ['-'], ['-', '-']]

theorem nameOf?_append (rest : Text) :
    Entry.nameOf? (Entry.marker ++ rest) =
      if rest.filter (· ≠ '\x60') = [] then none else some (rest.filter (· ≠ '\x60')) := by
  simp only [Entry.nameOf?, Text.after?_append]

theorem isOptionHeading_iff {l : Text} :
    IsOptionHeading l ↔ ∃ name, Entry.nameOf? l = some name ∧ Entry.isSentinel name = false := by
  constructor
  · rintro ⟨rest, rfl, hname⟩
    simp only [List.mem_cons, List.not_mem_nil, or_false, not_or] at hname
    refine ⟨_, by rw [nameOf?_append, if_neg hname.1], ?_⟩
    simp only [Entry.isSentinel, Bool.or_eq_false_iff, decide_eq_false_iff_not]
    exact hname.2
  · rintro ⟨name, hname, hsentinel⟩
    cases hafter : Text.after? Entry.marker l with
    | none => simp [Entry.nameOf?, hafter] at hname
    | some rest =>
      obtain rfl := Text.after?_eq_some_iff.1 hafter
      rw [nameOf?_append] at hname
      split at hname
      · cases hname
      · next hne =>
        obtain rfl := Option.some.inj hname
        simp only [Entry.isSentinel, Bool.or_eq_false_iff, decide_eq_false_iff_not] at hsentinel
        refine ⟨rest, rfl, ?_⟩
        simp only [List.mem_cons, List.not_mem_nil, or_false, not_or]
        exact ⟨hne, hsentinel⟩

/-- The line behind which the description of a heading is looked for: the end of the comment, if one opens in the
second line below the heading, and else the heading itself. -/
def IsSearchedBehind (ls : List Text) (i c : Nat) : Prop :=
  if holdsAt opensComment ls (i + 2) = true then IsFirstBelow closesComment ls i c else c = i

instance (ls : List Text) (i c : Nat) : Decidable (IsSearchedBehind ls i c) :=
  inferInstanceAs
    (Decidable (if holdsAt opensComment ls (i + 2) = true then IsFirstBelow closesComment ls i c else c = i))

theorem isSearchedBehind_iff_isFirstBelow {c : Nat} (h : holdsAt opensComment ls (i + 2) = true) :
    IsSearchedBehind ls i c ↔ IsFirstBelow closesComment ls i c := by
  rw [IsSearchedBehind, if_pos h]

theorem isSearchedBehind_iff_eq {c : Nat} (h : holdsAt opensComment ls (i + 2) = false) :
    IsSearchedBehind ls i c ↔ c = i := by
  rw [IsSearchedBehind, if_neg (Bool.eq_false_iff.1 h)]

theorem ofLine?_eq_comment_iff : Lookahead.ofLine? ls[i + 2]? = .comment ↔ holdsAt opensComment ls (i + 2) = true := by
  rw [holdsAt]
  cases ls[i + 2]? with
  | none => simp [Lookahead.ofLine?]
  | some l =>
    simp only [Lookahead.ofLine?, Option.any_some]
    split
    · next h => simp [h]
    · next h =>
      simp only [h]
      split <;> simp

theorem ofLine?_eq_heading_iff : Lookahead.ofLine? ls[i + 2]? = .heading ↔ holdsAt opensEntry ls (i + 2) = true := by
  rw [holdsAt]
  cases ls[i + 2]? with
  | none => simp [Lookahead.ofLine?]
  | some l =>
    simp only [Lookahead.ofLine?, Option.any_some]
    split
    · next h =>
      obtain ⟨t, rfl⟩ := Text.opensWith_iff.1 h
      simp [opensEntry, Text.opensWith, Text.after?, Entry.marker]
    · next h =>
      split
      · next h' => simp [h']
      · next h' => simp [h']

/-! ### The reading of a heading -/

theorem readHeadingAt?_eq (ls : List Text) (i : Nat) :
    readHeadingAt? ls i = ls[i]?.map fun l => readLine i l (ls.drop (i + 1)) := by
  rw [readHeadingAt?, Place.tape, if_pos (Int.natCast_nonneg i), Int.toNat_natCast, drop_all, Int.zero_add]
  cases hi : ls[i]? with
  | none =>
    rw [List.drop_eq_nil_of_le (List.getElem?_eq_none_iff.1 hi)]
    rfl
  | some l =>
    obtain ⟨hlt, rfl⟩ := List.getElem?_eq_some_iff.1 hi
    rw [List.drop_eq_getElem_cons hlt]
    rfl

theorem descriptionAfter_of_noneBelow {c : Nat} (h : NoneBelow isProseLine ls c) :
    descriptionAfter c (Place.all (c + 1) (ls.drop (c + 1))) = .error ⟨.missingDescription, c⟩ := by
  rw [descriptionAfter_all, findIdx?_drop_eq_none_iff.2 h]

theorem descriptionAfter_of_isFirstBelow {c d : Nat} (h : IsFirstBelow isProseLine ls c d) :
    descriptionAfter c (Place.all (c + 1) (ls.drop (c + 1))) =
      (firstSentenceFrom d (ls.drop d)).map Prose.convert := by
  obtain ⟨m, hm, rfl⟩ := findIdx?_drop_eq_some_iff.2 h
  rw [descriptionAfter_all, hm]
  simp only [List.drop_drop]
  rfl

/-- A description is looked for behind the comment, if there is one. -/
theorem readDescription_of_isSearchedBehind {c : Nat} (h : IsSearchedBehind ls i c) :
    readDescription i (ls.drop (i + 1)) = descriptionAfter c (Place.all (c + 1) (ls.drop (c + 1))) := by
  have hahead : (ls.drop (i + 1))[1]? = ls[i + 2]? := List.getElem?_drop
  unfold IsSearchedBehind at h
  unfold readDescription
  rw [hahead]
  split at h
  · next hopen =>
    obtain ⟨m, hm, rfl⟩ := findIdx?_drop_eq_some_iff.2 h
    rw [ofLine?_eq_comment_iff.2 hopen]
    simp only [hm, List.drop_drop]
    rfl
  · next hopen =>
    subst h
    have hcomment : Lookahead.ofLine? ls[c + 2]? ≠ .comment := fun h => hopen (ofLine?_eq_comment_iff.1 h)
    cases hkind : Lookahead.ofLine? ls[c + 2]? with
    | comment => exact absurd hkind hcomment
    | heading => rfl
    | prose => rfl

theorem readDescription_of_noneBelow (hopen : holdsAt opensComment ls (i + 2) = true)
    (hnone : NoneBelow closesComment ls i) :
    readDescription i (ls.drop (i + 1)) = .error ⟨.unterminatedComment, i⟩ := by
  have hahead : (ls.drop (i + 1))[1]? = ls[i + 2]? := List.getElem?_drop
  unfold readDescription
  rw [hahead, ofLine?_eq_comment_iff.2 hopen]
  simp only [findIdx?_drop_eq_none_iff.2 hnone]

/-- There is a line to search behind, unless a comment opens that is never closed. -/
theorem exists_isSearchedBehind_or (ls : List Text) (i : Nat) :
    (∃ c, IsSearchedBehind ls i c) ∨ (holdsAt opensComment ls (i + 2) = true ∧ NoneBelow closesComment ls i) := by
  by_cases hopen : holdsAt opensComment ls (i + 2) = true
  · rcases exists_isFirstBelow_or_noneBelow closesComment ls i with ⟨c, hc⟩ | hnone
    · exact Or.inl ⟨c, (isSearchedBehind_iff_isFirstBelow hopen).2 hc⟩
    · exact Or.inr ⟨hopen, hnone⟩
  · exact Or.inl ⟨i, (isSearchedBehind_iff_eq (Bool.eq_false_iff.2 hopen)).2 rfl⟩

theorem firstSentenceFrom_eq_ok_iff {n : Int} {ls : List Text} {s : Text} :
    firstSentenceFrom n ls = .ok s ↔ Prose.firstSentenceOfLines? ls = some s := by
  rw [firstSentenceFrom]
  cases Prose.firstSentenceOfLines? ls with
  | none => simp
  | some t => simp

/-- A description is the conversion of the first sentence from the first line of prose on. -/
theorem exists_of_readDescription_eq_ok {t : Text} (h : readDescription i (ls.drop (i + 1)) = .ok t) :
    ∃ c d s, IsSearchedBehind ls i c ∧ IsFirstBelow isProseLine ls c d ∧
      Prose.firstSentenceOfLines? (ls.drop d) = some s ∧ t = Prose.convert s := by
  rcases exists_isSearchedBehind_or ls i with ⟨c, hc⟩ | ⟨hopen, hnone⟩
  · rw [readDescription_of_isSearchedBehind hc] at h
    rcases exists_isFirstBelow_or_noneBelow isProseLine ls c with ⟨d, hd⟩ | hnone
    · rw [descriptionAfter_of_isFirstBelow hd] at h
      cases hs : firstSentenceFrom d (ls.drop d) with
      | error m => rw [hs] at h; cases h
      | ok s =>
        rw [hs] at h
        exact ⟨c, d, s, hc, hd, firstSentenceFrom_eq_ok_iff.1 hs, (Except.ok.inj h).symm⟩
    · rw [descriptionAfter_of_noneBelow hnone] at h
      cases h
  · rw [readDescription_of_noneBelow hopen hnone] at h
    cases h

/-! ### The entry of a heading -/

/-- A sentence as a description: one that does not start like prose gives way to the placeholder. -/
def Entry.kept (sentence : Text) : Text :=
  if Entry.startsLikeProse sentence then sentence else Entry.placeholder

/-- How an entry is described: by the placeholder, if the next heading stands in the second line below, and else by the
first sentence from the first line of prose on. -/
inductive IsDescribedAs (ls : List Text) (i : Nat) : Text → Prop
  | placeholder (hnext : holdsAt opensEntry ls (i + 2) = true) : IsDescribedAs ls i Entry.placeholder
  | sentence {c d : Nat} {s : Text} (hnext : holdsAt opensEntry ls (i + 2) = false) (hc : IsSearchedBehind ls i c)
    (hd : IsFirstBelow isProseLine ls c d) (hs : Prose.firstSentenceOfLines? (ls.drop d) = some s) :
    IsDescribedAs ls i (Entry.kept (Prose.convert s))

theorem entryAt?_eq_bind (ls : List Text) (i : Nat) :
    entryAt? ls i = ls[i]?.bind fun l => (readLine i l (ls.drop (i + 1))).toOption.bind Reading.entry? := by
  rw [entryAt?, readHeadingAt?_eq]
  cases ls[i]? with
  | none => rfl
  | some l =>
    simp only [Option.map_some, Option.bind_some]
    cases readLine i l (ls.drop (i + 1)) with
    | error m => rfl
    | ok r => rfl

/-- The entry in a line has the name in that line and the description below it. -/
theorem entryAt?_eq_some_iff {e : Entry} :
    entryAt? ls i = some e ↔
      ∃ l, ls[i]? = some l ∧ IsOptionHeading l ∧ Entry.nameOf? l = some e.name ∧ IsDescribedAs ls i e.description := by
  have hahead : (ls.drop (i + 1))[1]? = ls[i + 2]? := List.getElem?_drop
  constructor
  · intro h
    rw [entryAt?_eq_bind, Option.bind_eq_some_iff] at h
    obtain ⟨l, hl, h⟩ := h
    cases hread : readLine i l (ls.drop (i + 1)) with
    | error m => rw [hread] at h; cases h
    | ok r =>
      rw [hread] at h
      have hname := nameOf?_of_readLine hread h
      cases hs : Entry.isSentinel e.name with
      | true =>
        rw [readLine_of_isSentinel hname hs] at hread
        cases hread
        cases h
      | false =>
        refine ⟨l, hl, isOptionHeading_iff.2 ⟨e.name, hname, hs⟩, hname, ?_⟩
        rw [readLine_of_nameOf?_some hname hs, hahead] at hread
        split at hread
        · next hnext =>
          rw [ofLine?_eq_heading_iff] at hnext
          obtain rfl := Except.ok.inj hread
          have hkept : Entry.placeholder = e.description := congrArg Entry.description (Option.some.inj h)
          rw [← hkept]
          exact .placeholder hnext
        · next hnext =>
          rw [ofLine?_eq_heading_iff] at hnext
          cases hdescription : readDescription i (ls.drop (i + 1)) with
          | error m => rw [hdescription] at hread; cases hread
          | ok t =>
            obtain ⟨c, d, s, hc, hd, hsentence, rfl⟩ := exists_of_readDescription_eq_ok hdescription
            rw [hdescription] at hread
            obtain rfl := Except.ok.inj hread
            have hkept : Entry.kept (Prose.convert s) = e.description :=
              congrArg Entry.description (Option.some.inj h)
            rw [← hkept]
            exact .sentence (Bool.eq_false_iff.2 hnext) hc hd hsentence
  · rintro ⟨l, hl, hheading, hname, hdescription⟩
    obtain ⟨name, hname', hs⟩ := isOptionHeading_iff.1 hheading
    have heq : name = e.name := Option.some.inj (hname'.symm.trans hname)
    have hentry : ∀ t, IsDescribedAs ls i t → entryAt? ls i = some ⟨name, t⟩ := by
      intro t ht
      rw [entryAt?_eq_bind, hl, Option.bind_some, readLine_of_nameOf?_some hname' hs, hahead]
      cases ht with
      | placeholder hnext =>
        rw [if_pos (ofLine?_eq_heading_iff.2 hnext)]
        rfl
      | sentence hnext hc hd hsentence =>
        have hother : ¬ Lookahead.ofLine? ls[i + 2]? = .heading := by
          rw [ofLine?_eq_heading_iff, hnext]
          exact Bool.false_ne_true
        rw [if_neg hother, readDescription_of_isSearchedBehind hc, descriptionAfter_of_isFirstBelow hd,
          firstSentenceFrom_eq_ok_iff.2 hsentence]
        rfl
    rw [hentry e.description hdescription, heq]

end Manpage
