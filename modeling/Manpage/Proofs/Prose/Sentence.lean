import Manpage.Prose.Sentence

/-!
# Where the first sentence ends

* `sentenceFrom?_append` and `firstSentenceOfLines?_append` — the search is local: a sentence that was found in some
  lines is found there whatever lines follow, also if it ended at the end of the text;
* `insideQuotes_of_forall_not_sign` — nothing lies in a quotation before the first sign of one;
* `firstSentenceOfLines?_cons` — a line without such signs whose only period before a space or the line's end is its
  last character is the first sentence of all texts which it opens;
* `HasSentenceEnd` — a period that may end a sentence and lies outside quotation;
  `firstSentenceOfLines?_eq_none_iff` — a text has a first sentence exactly if it has such a period;
* `EndsFirstSentence` — the first such period, and `firstSentenceOfLines?_of_endsFirstSentence`, the sentence that it
  ends;
* `getLast?_of_firstSentenceOfLines?` — a sentence ends with its period;
* `eq_append_of_firstSentenceOfLines?` — a sentence that does not end in the lines it begins with takes them in whole,
  and `exists_firstSentenceOfLines?_append` — what it lacks can be supplied in any words.
-/

namespace Manpage.Prose

open Unicode

/-! ### Locality of the search -/

/-- A line feed after a text lets the same periods of the text end a sentence as the end of the text. -/
theorem endsSentence_append_lineFeed (c : Char) (t u : Text) :
    endsSentence c (t ++ '\n' :: u) = endsSentence c t := by
  cases t with
  | nil => simp [endsSentence]
  | cons d t => rfl

/-- The search goes on behind a line feed only if it found nothing before. -/
theorem sentenceFrom?_append (before t u : Text) :
    sentenceFrom? before (t ++ '\n' :: u) =
      (sentenceFrom? before t).or (sentenceFrom? ('\n' :: t.reverse ++ before) u) := by
  induction t generalizing before with
  | nil =>
    have hfeed : endsSentence '\n' u = false := by cases u <;> rfl
    rw [List.nil_append, sentenceFrom?, sentenceFrom?, hfeed]
    rfl
  | cons c t ih =>
    rw [List.cons_append, sentenceFrom?, sentenceFrom?, endsSentence_append_lineFeed, ih]
    split
    · rfl
    · simp only [List.reverse_cons, List.append_assoc, List.cons_append, List.nil_append]

/-- The first sentence of some lines is that of all texts which they open. -/
theorem firstSentenceOfLines?_append {ls : List Text} {s : Text} (h : firstSentenceOfLines? ls = some s)
    (more : List Text) : firstSentenceOfLines? (ls ++ more) = some s := by
  cases more with
  | nil => rwa [List.append_nil]
  | cons m more =>
    have hls : ls ≠ [] := by
      rintro rfl
      cases h
    rw [firstSentenceOfLines?_eq, firstSentence?] at h ⊢
    obtain ⟨t, ht, rfl⟩ := Option.map_eq_some_iff.1 h
    rw [Text.unlines_append hls (List.cons_ne_nil m more), sentenceFrom?_append, ht, Option.some_or, Option.map_some]

/-! ### Lines without quotation -/

/-- The characters by which quotation is judged. -/
def isQuotationSign (c : Char) : Bool := isQuote c || c = '\x27' || c = '\\'

theorem insideQuotes_of_forall_not_sign {before : Text} (h : ∀ c ∈ before, isQuotationSign c = false) :
    insideQuotes before = false := by
  fun_induction insideQuotes before with
  | case1 => rfl
  | case2 c =>
    have hc := h c List.mem_cons_self
    simp only [isQuotationSign, Bool.or_eq_false_iff] at hc
    exact hc.1.1
  | case3 c before ih =>
    exact ih fun x hx => h x (List.mem_cons_of_mem _ (List.mem_cons_of_mem _ hx))
  | case4 c d before hd hq ih =>
    have hc := h c List.mem_cons_self
    simp only [isQuotationSign, Bool.or_eq_false_iff, decide_eq_false_iff_not] at hc
    simp [hc.1.1, hc.1.2] at hq
  | case5 c d before hd hq ih =>
    exact ih fun x hx => h x (List.mem_cons_of_mem _ hx)

/-- A line feed or the end of the text. -/
def atLineEnd : Text → Bool
  | [] => true
  | c :: _ => c = '\n'

/-- A stretch of a line without quotation, closed by its first period before a space, is the sentence. -/
theorem sentenceFrom?_of_forall_not_sign (before : Text) {t : Text} (after : Text)
    (hbefore : ∀ c ∈ before, isQuotationSign c = false) (ht : ∀ c ∈ t, isQuotationSign c = false)
    (hline : '\n' ∉ t) (hperiod : ¬ ['.', ' '] <:+: t ++ ['.']) (hafter : atLineEnd after = true) :
    sentenceFrom? before (t ++ '.' :: after) = some (before.reverse ++ (t ++ ['.'])) := by
  induction t generalizing before with
  | nil =>
    have hend : endsSentence '.' after = true := by
      cases after with
      | nil => rfl
      | cons d after => simpa [endsSentence, atLineEnd] using Or.inr hafter
    rw [List.nil_append, sentenceFrom?, hend, insideQuotes_of_forall_not_sign hbefore]
    simp
  | cons c t ih =>
    have hmid : endsSentence c (t ++ '.' :: after) = false := by
      cases t with
      | nil => simp [endsSentence]
      | cons d t =>
        simp only [List.cons_append, endsSentence, Bool.and_eq_false_imp, decide_eq_true_eq, Bool.or_eq_false_iff,
          decide_eq_false_iff_not]
        rintro rfl
        refine ⟨?_, ?_⟩
        · rintro rfl
          exact hperiod ⟨[], t ++ ['.'], rfl⟩
        · rintro rfl
          exact hline (List.mem_cons_of_mem _ List.mem_cons_self)
    have hbefore' : ∀ x ∈ c :: before, isQuotationSign x = false :=
      List.forall_mem_cons.2 ⟨ht c List.mem_cons_self, hbefore⟩
    have ht' : ∀ x ∈ t, isQuotationSign x = false := (List.forall_mem_cons.1 ht).2
    have hline' : '\n' ∉ t := fun hmem => hline (List.mem_cons_of_mem _ hmem)
    have hperiod' : ¬ ['.', ' '] <:+: t ++ ['.'] := by
      intro hstep
      exact hperiod (hstep.trans (List.suffix_cons c _).isInfix)
    have hnext := ih (c :: before) hbefore' ht' hline' hperiod'
    rw [List.cons_append, sentenceFrom?, hmid, Bool.false_and, if_neg Bool.false_ne_true, hnext]
    simp

/-- A line without quotation, closed by its first period before a space, is the sentence of all texts which it
opens. -/
theorem firstSentenceOfLines?_cons {l t : Text} {c : Char} (hl : c :: t = l ++ ['.'])
    (hc : Unicode.isBlank c = false) (hsign : ∀ x ∈ l, isQuotationSign x = false) (hline : '\n' ∉ l)
    (hperiod : ¬ ['.', ' '] <:+: l ++ ['.']) (more : List Text) :
    firstSentenceOfLines? ((l ++ ['.']) :: more) = some (l ++ ['.']) := by
  have hone : firstSentenceOfLines? [l ++ ['.']] = some (l ++ ['.']) := by
    have hfrom := sentenceFrom?_of_forall_not_sign [] []
      (fun x hx => absurd hx List.not_mem_nil) hsign hline hperiod rfl
    rw [List.reverse_nil, List.nil_append] at hfrom
    rw [firstSentenceOfLines?, sentenceInLines?, hfrom, Option.map_some, ← hl,
      Text.trim_eq_self hc (by decide) hl]
  exact firstSentenceOfLines?_append hone more

/-! ### Texts with and without a sentence -/

theorem endsSentence_iff {c : Char} {t : Text} :
    endsSentence c t = true ↔ c = '.' ∧ (t = [] ∨ t.head? = some ' ' ∨ t.head? = some '\n') := by
  cases t with
  | nil => simp [endsSentence]
  | cons d t => simp [endsSentence]

/-- A text holds a period that is followed by a space, a line feed or nothing and lies outside quotation. -/
def HasSentenceEnd (t : Text) : Prop :=
  ∃ before after, t = before ++ '.' :: after ∧ (after = [] ∨ after.head? = some ' ' ∨ after.head? = some '\n') ∧
    insideQuotes before.reverse = false

/-- What is found is all that was passed and a front part of what lies ahead, closed by a period. -/
theorem sentenceFrom?_eq_some {before t s : Text} (h : sentenceFrom? before t = some s) :
    ∃ u v, t = u ++ '.' :: v ∧ s = before.reverse ++ (u ++ ['.']) ∧
      (v = [] ∨ v.head? = some ' ' ∨ v.head? = some '\n') ∧ insideQuotes (u.reverse ++ before) = false := by
  fun_induction sentenceFrom? before t with
  | case1 => cases h
  | case2 before c ahead hc =>
    simp only [Bool.and_eq_true, Bool.not_eq_true'] at hc
    obtain ⟨rfl, hahead⟩ := endsSentence_iff.1 hc.1
    obtain rfl := Option.some.inj h
    exact ⟨[], ahead, rfl, List.reverse_cons, hahead, hc.2⟩
  | case3 before c ahead hc ih =>
    obtain ⟨u, v, rfl, rfl, hv, hquote⟩ := ih h
    refine ⟨c :: u, v, rfl, ?_, hv, ?_⟩
    · simp only [List.reverse_cons, List.append_assoc, List.cons_append, List.nil_append]
    · rwa [List.reverse_cons, List.append_assoc, List.singleton_append]

/-- The search fails only if no period ahead could have ended it. -/
theorem sentenceFrom?_eq_none {before t : Text} (h : sentenceFrom? before t = none) (u v : Text)
    (ht : t = u ++ '.' :: v) (hv : v = [] ∨ v.head? = some ' ' ∨ v.head? = some '\n') :
    insideQuotes (u.reverse ++ before) = true := by
  induction u generalizing before t with
  | nil =>
    subst ht
    have hend : endsSentence '.' v = true := endsSentence_iff.2 ⟨rfl, hv⟩
    rw [List.nil_append, sentenceFrom?, hend, Bool.true_and] at h
    split at h
    · cases h
    · next hquote => simpa using hquote
  | cons c u ih =>
    subst ht
    rw [List.cons_append, sentenceFrom?] at h
    split at h
    · cases h
    · rw [List.reverse_cons, List.append_assoc, List.singleton_append]
      exact ih h rfl

/-- A text has a first sentence exactly if it has the end of one. -/
theorem firstSentenceOfLines?_eq_none_iff {ls : List Text} :
    firstSentenceOfLines? ls = none ↔ ¬ HasSentenceEnd (Text.unlines ls) := by
  rw [firstSentenceOfLines?_eq, firstSentence?, Option.map_eq_none_iff]
  constructor
  · rintro h ⟨u, v, ht, hv, hquote⟩
    have hinside := sentenceFrom?_eq_none h u v ht hv
    rw [List.append_nil, hquote] at hinside
    cases hinside
  · intro h
    cases hfrom : sentenceFrom? [] (Text.unlines ls) with
    | none => rfl
    | some s =>
      obtain ⟨u, v, ht, -, hv, hquote⟩ := sentenceFrom?_eq_some hfrom
      rw [List.append_nil] at hquote
      exact absurd ⟨u, v, ht, hv, hquote⟩ h

/-- A period between the two texts is the first that may end a sentence and lies outside quotation. -/
structure EndsFirstSentence (before after : Text) : Prop where
  followed : after = [] ∨ after.head? = some ' ' ∨ after.head? = some '\n'
  unquoted : insideQuotes before.reverse = false
  first : ∀ n < before.length, before[n]? = some '.' → before[n + 1]? = some ' ' ∨ before[n + 1]? = some '\n' →
    insideQuotes (before.take n).reverse = true

instance (before after : Text) : Decidable (EndsFirstSentence before after) :=
  decidable_of_iff
    ((after = [] ∨ after.head? = some ' ' ∨ after.head? = some '\n') ∧ insideQuotes before.reverse = false ∧
      ∀ n < before.length, before[n]? = some '.' → before[n + 1]? = some ' ' ∨ before[n + 1]? = some '\n' →
        insideQuotes (before.take n).reverse = true)
    ⟨fun ⟨hfollowed, hunquoted, hfirst⟩ => ⟨hfollowed, hunquoted, hfirst⟩,
      fun h => ⟨h.followed, h.unquoted, h.first⟩⟩

/-- The search stops at the first period ahead that may end a sentence and lies outside quotation. -/
theorem sentenceFrom?_of_first {passed u v : Text} (hv : v = [] ∨ v.head? = some ' ' ∨ v.head? = some '\n')
    (hu : insideQuotes (u.reverse ++ passed) = false)
    (hfirst : ∀ n < u.length, u[n]? = some '.' → u[n + 1]? = some ' ' ∨ u[n + 1]? = some '\n' →
      insideQuotes ((u.take n).reverse ++ passed) = true) :
    sentenceFrom? passed (u ++ '.' :: v) = some (passed.reverse ++ (u ++ ['.'])) := by
  induction u generalizing passed with
  | nil =>
    rw [List.reverse_nil, List.nil_append] at hu
    rw [List.nil_append, sentenceFrom?, endsSentence_iff.2 ⟨rfl, hv⟩, hu]
    simp
  | cons c u ih =>
    have hstop : (endsSentence c (u ++ '.' :: v) && !insideQuotes passed) = false := by
      rw [Bool.and_eq_false_imp, endsSentence_iff]
      rintro ⟨rfl, hnil | hnext⟩
      · cases u <;> cases hnil
      · have hfollowed : u[0]? = some ' ' ∨ u[0]? = some '\n' := by
          cases u with
          | nil => simp at hnext
          | cons d u => simpa using hnext
        have hquoted := hfirst 0 (Nat.succ_pos _) rfl hfollowed
        rw [List.take_zero, List.reverse_nil, List.nil_append] at hquoted
        rw [hquoted]
        rfl
    have hnext := @ih (c :: passed) (by simpa using hu) fun n hn hperiod hblank => by
      have hquoted := hfirst (n + 1) (Nat.succ_lt_succ hn) hperiod hblank
      simpa using hquoted
    rw [List.cons_append, sentenceFrom?, hstop, if_neg Bool.false_ne_true, hnext]
    simp

/-- The first sentence of a text that opens with no white space ends at the first period that may end one. -/
theorem firstSentenceOfLines?_of_endsFirstSentence {ls : List Text} {c : Char} {t after : Text}
    (hls : Text.unlines ls = c :: t ++ '.' :: after) (hc : isBlank c = false) (h : EndsFirstSentence (c :: t) after) :
    firstSentenceOfLines? ls = some (c :: t ++ ['.']) := by
  have hfrom := @sentenceFrom?_of_first [] (c :: t) after h.followed
    (by simpa only [List.append_nil] using h.unquoted) (by simpa only [List.append_nil] using h.first)
  rw [List.reverse_nil, List.nil_append] at hfrom
  rw [firstSentenceOfLines?_eq, firstSentence?, hls, hfrom, Option.map_some]
  exact congrArg some (Text.trim_eq_self hc (by decide) List.cons_append.symm)

/-- A sentence keeps the first character of its first line, if that is neither white space nor a period. -/
theorem eq_cons_of_firstSentenceOfLines? {c : Char} {t s : Text} {ls : List Text}
    (h : firstSentenceOfLines? ((c :: t) :: ls) = some s) (hblank : isBlank c = false) (hperiod : c ≠ '.') :
    ∃ u, s = c :: u := by
  obtain ⟨w, hw⟩ : ∃ w, Text.unlines ((c :: t) :: ls) = c :: w := by
    cases ls with
    | nil => exact ⟨t, rfl⟩
    | cons l ls => exact ⟨_, rfl⟩
  rw [firstSentenceOfLines?_eq, firstSentence?, hw] at h
  obtain ⟨s', hs', rfl⟩ := Option.map_eq_some_iff.1 h
  obtain ⟨u, v, hsplit, rfl, -, -⟩ := sentenceFrom?_eq_some hs'
  cases u with
  | nil => exact absurd (List.cons.inj hsplit).1 hperiod
  | cons d u =>
    obtain rfl := (List.cons.inj hsplit).1
    refine ⟨u ++ ['.'], ?_⟩
    rw [List.reverse_nil, List.nil_append, List.cons_append]
    exact Text.trim_eq_self hblank (by decide) (List.cons_append).symm

/-- A sentence ends with its period. -/
theorem getLast?_of_firstSentenceOfLines? {ls : List Text} {s : Text} (h : firstSentenceOfLines? ls = some s) :
    s.getLast? = some '.' := by
  rw [firstSentenceOfLines?_eq, firstSentence?] at h
  obtain ⟨t, ht, rfl⟩ := Option.map_eq_some_iff.1 h
  obtain ⟨u, v, -, rfl, -, -⟩ := sentenceFrom?_eq_some ht
  refine Text.getLast?_trim ?_ (by decide)
  rw [List.reverse_nil, List.nil_append, List.getLast?_concat]

section Continued

variable {ls : List Text} (hend : ¬ HasSentenceEnd (Text.unlines ls))
  (hword : ∃ c ∈ Text.unlines ls, isBlank c = false)

include hend hword

/-- Behind lines that do not end their sentence the search goes on. -/
theorem firstSentenceOfLines?_append_of_not {more : List Text} (hmore : more ≠ []) :
    firstSentenceOfLines? (ls ++ more) =
      (sentenceFrom? ('\n' :: (Text.unlines ls).reverse) (Text.unlines more)).map Text.trim := by
  have hls : ls ≠ [] := by
    rintro rfl
    obtain ⟨c, hc, -⟩ := hword
    exact List.not_mem_nil hc
  have hfront : sentenceFrom? [] (Text.unlines ls) = none := by
    have hnone := firstSentenceOfLines?_eq_none_iff.2 hend
    rwa [firstSentenceOfLines?_eq, firstSentence?, Option.map_eq_none_iff] at hnone
  rw [firstSentenceOfLines?_eq, firstSentence?, Text.unlines_append hls hmore, sentenceFrom?_append, hfront,
    Option.none_or, List.append_nil]

omit hend in
theorem trim_append_period (u : Text) :
    Text.trim (Text.unlines ls ++ '\n' :: (u ++ ['.'])) =
      Text.trimStart (Text.unlines ls) ++ '\n' :: (u ++ ['.']) := by
  rw [Text.trim, Text.trimStart_append hword, ← List.cons_append, ← List.append_assoc,
    Text.trimEnd_append_of_not_blank _ (by decide)]

/-- A sentence that does not end in the lines it begins with takes them in whole and goes on. -/
theorem eq_append_of_firstSentenceOfLines? {more : List Text} {s : Text}
    (h : firstSentenceOfLines? (ls ++ more) = some s) : ∃ r, s = Text.trimStart (Text.unlines ls) ++ '\n' :: r := by
  have hmore : more ≠ [] := by
    rintro rfl
    rw [List.append_nil, firstSentenceOfLines?_eq_none_iff.2 hend] at h
    cases h
  rw [firstSentenceOfLines?_append_of_not hend hword hmore] at h
  obtain ⟨t, ht, rfl⟩ := Option.map_eq_some_iff.1 h
  obtain ⟨u, v, -, rfl, -, -⟩ := sentenceFrom?_eq_some ht
  refine ⟨u ++ ['.'], ?_⟩
  rw [List.reverse_cons, List.reverse_reverse, List.append_assoc, List.singleton_append, trim_append_period hword]

/-- What is missing to a sentence can be supplied in any words, behind a double quote if a quotation is open. -/
theorem exists_firstSentenceOfLines?_append :
    ∃ q, (q = [] ∨ q = ['\x22']) ∧ ∀ c, c.isAlpha = true →
      firstSentenceOfLines? (ls ++ [q ++ [c, '.']]) =
        some (Text.trimStart (Text.unlines ls) ++ '\n' :: (q ++ [c, '.'])) := by
  have hletter {c : Char} (hc : c.isAlpha = true) : isQuote c = false ∧ c ≠ '\x27' ∧ c ≠ '.' := by
    refine ⟨?_, ?_, ?_⟩
    · rw [isQuote, Bool.or_eq_false_iff, decide_eq_false_iff_not, decide_eq_false_iff_not]
      constructor
      · rintro rfl
        exact absurd hc (by decide)
      · rintro rfl
        exact absurd hc (by decide)
    · rintro rfl
      exact absurd hc (by decide)
    · rintro rfl
      exact absurd hc (by decide)
  have hclose (q : Text) (c : Char) (hc : c.isAlpha = true)
      (hfrom : sentenceFrom? ('\n' :: (Text.unlines ls).reverse) (q ++ [c, '.']) =
        some (Text.unlines ls ++ '\n' :: (q ++ [c, '.']))) :
      firstSentenceOfLines? (ls ++ [q ++ [c, '.']]) =
        some (Text.trimStart (Text.unlines ls) ++ '\n' :: (q ++ [c, '.'])) := by
    have htrim := trim_append_period hword (q ++ [c])
    rw [List.append_assoc, List.singleton_append] at htrim
    rw [firstSentenceOfLines?_append_of_not hend hword (List.cons_ne_nil _ _)]
    show (sentenceFrom? ('\n' :: (Text.unlines ls).reverse) (q ++ [c, '.'])).map Text.trim = _
    rw [hfrom, Option.map_some, htrim]
  -- the quotation that is open behind the lines, if any, is closed first
  cases hquote : insideQuotes ('\n' :: (Text.unlines ls).reverse) with
  | false =>
    refine ⟨[], Or.inl rfl, fun c hc => hclose [] c hc ?_⟩
    obtain ⟨hq, happ, hperiod⟩ := hletter hc
    simp [sentenceFrom?, endsSentence, insideQuotes, hq, happ, hperiod, hquote]
  | true =>
    refine ⟨['\x22'], Or.inr rfl, fun c hc => hclose ['\x22'] c hc ?_⟩
    obtain ⟨hq, happ, hperiod⟩ := hletter hc
    have hmark : isQuote '\x22' = true := rfl
    simp [sentenceFrom?, endsSentence, insideQuotes, hq, happ, hperiod, hquote, hmark]

end Continued

end Manpage.Prose
