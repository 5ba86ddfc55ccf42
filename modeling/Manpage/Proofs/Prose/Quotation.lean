import Manpage.Proofs.Prose.OnePass

/-!
# Quotations within a sentence

A quotation hides the periods in it and no others, once it is closed.  Double quotes and backticks close what they open.
An apostrophe opens a quotation behind a space, and only behind a space does another one close it.

* `onePass?_append_of_forall_not_sign` — the pass over a stretch without signs of quotation: it stays inside or outside,
  and no period stops it inside; `onePass?_append_cons` — the same with a mark behind the stretch;
* `onePass?_opening`, `onePass?_closing`, `onePass?_words` — the pass from part to part of a sentence with a quotation;
* `inOnePass?_quoting`, `inOnePass?_quoting_apostrophe` — so such a sentence ends with its period, if the quotation is
  closed, and `inOnePass?_eq_none_of_unclosed` — with an apostrophe that closes nothing no sentence is found;
* `firstSentenceFrom_quoting` — the same of the first sentence of a document, and `not_firstSentenceFrom_quoting`, a word
  between apostrophes.
-/

namespace Manpage

namespace Prose

/-! ### The pass over a stretch and over a mark -/

theorem flipsQuotation_of_not_sign {c : Char} (h : isQuotationSign c = false) (previous? : Option Char) :
    flipsQuotation previous? c = false := by
  simp only [isQuotationSign, isQuote, Bool.or_eq_false_iff, decide_eq_false_iff_not] at h
  obtain ⟨⟨⟨hdouble, htick⟩, happ⟩, -⟩ := h
  simp [flipsQuotation, hdouble, htick, happ]

/-- A character that is no period, or any character within a quotation, is passed. -/
theorem onePass?_cons {inside : Bool} {c : Char} (h : inside = true ∨ c ≠ '.') (previous? : Option Char) (u : Text) :
    onePass? inside previous? (c :: u) =
      (onePass? (inside ^^ flipsQuotation previous? c) (some c) u).map (c :: ·) := by
  rw [onePass?, if_neg]
  rintro ⟨hinside, hc, -⟩
  rcases h with h | h
  · rw [hinside] at h
    cases h
  · exact h hc

/-- A stretch without signs of quotation is passed over, if it is quoted or has no period. -/
theorem onePass?_append_of_forall_not_sign {inside : Bool} {t : Text} (ht : ∀ c ∈ t, isQuotationSign c = false)
    (hperiod : inside = true ∨ '.' ∉ t) (previous? : Option Char) (u : Text) :
    onePass? inside previous? (t ++ u) = (onePass? inside (t.getLast?.or previous?) u).map (t ++ ·) := by
  induction t generalizing previous? with
  | nil => simp
  | cons c t ih =>
    obtain ⟨hc, ht⟩ := List.forall_mem_cons.1 ht
    have hstop : inside = true ∨ c ≠ '.' :=
      hperiod.imp_right fun hmem heq => hmem (heq ▸ List.mem_cons_self)
    have hrest : inside = true ∨ '.' ∉ t := hperiod.imp_right fun hmem h => hmem (List.mem_cons_of_mem c h)
    have hlast : t.getLast?.or (some c) = (c :: t).getLast?.or previous? := by
      rw [List.getLast?_cons, Option.some_or]
      cases t.getLast? with
      | none => rfl
      | some d => rfl
    rw [List.cons_append, onePass?_cons hstop, flipsQuotation_of_not_sign hc, Bool.xor_false, ih ht hrest, hlast,
      Option.map_map]
    rfl

/-- A stretch without signs of quotation is passed over, and then the mark behind it. -/
theorem onePass?_append_cons {inside : Bool} {t : Text} (ht : ∀ c ∈ t, isQuotationSign c = false)
    (hperiod : inside = true ∨ '.' ∉ t) {mark : Char} (hmark : mark ≠ '.') (previous? : Option Char) (u : Text) :
    onePass? inside previous? (t ++ mark :: u) =
      (onePass? (inside ^^ flipsQuotation (t.getLast?.or previous?) mark) (some mark) u).map (t ++ mark :: ·) := by
  rw [onePass?_append_of_forall_not_sign ht hperiod, onePass?_cons (Or.inr hmark), Option.map_map]
  rfl

/-- Outside quotation the pass stops at the first period before a space. -/
theorem onePass?_append_period {t : Text} (ht : ∀ c ∈ t, isQuotationSign c = false) (hperiod : '.' ∉ t)
    (previous? : Option Char) (rest : Text) :
    onePass? false previous? (t ++ '.' :: ' ' :: rest) = some (t ++ ['.']) := by
  have hstop (previous? : Option Char) : onePass? false previous? ('.' :: ' ' :: rest) = some ['.'] := by
    simp [onePass?]
  rw [onePass?_append_of_forall_not_sign ht (Or.inr hperiod), hstop, Option.map_some]

/-- In a quotation that nothing closes the pass does not stop. -/
theorem onePass?_eq_none_of_forall_not_sign {t : Text} (ht : ∀ c ∈ t, isQuotationSign c = false)
    (previous? : Option Char) : onePass? true previous? t = none := by
  have hpass := onePass?_append_of_forall_not_sign ht (Or.inl rfl) previous? []
  rwa [List.append_nil] at hpass

/-! ### Sentences with a quotation -/

/-- A sentence with a quotation in it: words, a space, the quotation between the mark that opens it and what is to close
it, a space, more words and a period. -/
def quoting (a : Text) (opening : Char) (q closing b : Text) : Text :=
  a ++ ' ' :: opening :: (q ++ (closing ++ ' ' :: (b ++ ['.'])))

theorem flipsQuotation_of_isQuote {c : Char} (hc : isQuote c = true) {previous? : Option Char}
    (h : previous? ≠ some '\\') : flipsQuotation previous? c = true := by
  simp only [isQuote, Bool.or_eq_true, decide_eq_true_eq] at hc
  rcases hc with rfl | rfl
  · simp [flipsQuotation, h]
  · simp [flipsQuotation, h]

/-- An apostrophe opens or closes a quotation behind a space only. -/
theorem flipsQuotation_apostrophe (previous? : Option Char) :
    flipsQuotation previous? '\x27' = decide (previous? = some ' ') := by
  simp [flipsQuotation]

section Quoting

variable {a q b : Text}

/-- The pass enters a quotation that opens behind a space. -/
theorem onePass?_opening (ha : ∀ c ∈ a, isQuotationSign c = false) (haperiod : '.' ∉ a) {mark : Char}
    (hperiod : mark ≠ '.') (hmark : flipsQuotation (some ' ') mark = true) (u : Text) :
    onePass? false none (a ++ ' ' :: mark :: u) = (onePass? true (some mark) u).map (a ++ ' ' :: mark :: ·) := by
  have hfront : ∀ c ∈ a ++ [' '], isQuotationSign c = false :=
    List.forall_mem_append.2 ⟨ha, List.forall_mem_singleton.2 rfl⟩
  have hfrontPeriod : false = true ∨ '.' ∉ a ++ [' '] := Or.inr (by simpa using haperiod)
  have hpass := onePass?_append_cons hfront hfrontPeriod hperiod none u
  rw [List.getLast?_concat, Option.some_or, hmark] at hpass
  simpa using hpass

/-- The pass leaves a quotation with a mark that flips behind the words quoted. -/
theorem onePass?_closing (hq : ∀ c ∈ q, isQuotationSign c = false) {mark : Char} (hperiod : mark ≠ '.')
    {opening : Char} (hmark : flipsQuotation (q.getLast?.or (some opening)) mark = true) (u : Text) :
    onePass? true (some opening) (q ++ mark :: u) = (onePass? false (some mark) u).map (q ++ mark :: ·) := by
  rw [onePass?_append_cons hq (Or.inl rfl) hperiod, hmark]
  rfl

/-- Outside quotation the pass ends with the words behind the mark and their period. -/
theorem onePass?_words (hb : ∀ c ∈ b, isQuotationSign c = false) (hbperiod : '.' ∉ b) (previous? : Option Char)
    (rest : Text) : onePass? false previous? (' ' :: (b ++ '.' :: ' ' :: rest)) = some (' ' :: (b ++ ['.'])) := by
  have hrear : ∀ c ∈ ' ' :: b, isQuotationSign c = false := List.forall_mem_cons.2 ⟨rfl, hb⟩
  have hrearPeriod : '.' ∉ ' ' :: b := by simpa using hbperiod
  exact onePass?_append_period hrear hrearPeriod previous? rest

variable (ha : ∀ c ∈ a, isQuotationSign c = false) (haperiod : '.' ∉ a) (hq : ∀ c ∈ q, isQuotationSign c = false)
  (hb : ∀ c ∈ b, isQuotationSign c = false)

include ha haperiod hq hb

/-- A double quote or backtick closes the quotation that it opened. -/
theorem inOnePass?_quoting (hbperiod : '.' ∉ b) {mark : Char} (hmark : isQuote mark = true) (rest : Text) :
    inOnePass? (quoting a mark q [mark] b ++ ' ' :: rest) = some (Text.trim (quoting a mark q [mark] b)) := by
  have hsplit : quoting a mark q [mark] b ++ ' ' :: rest =
      a ++ ' ' :: mark :: (q ++ mark :: ' ' :: (b ++ '.' :: ' ' :: rest)) := by simp [quoting]
  have hperiod : mark ≠ '.' := by
    rintro rfl
    exact absurd hmark (by decide)
  have hlast : q.getLast?.or (some mark) ≠ some '\\' := by
    cases hq' : q.getLast? with
    | none =>
      rintro ⟨⟩
      exact absurd hmark (by decide)
    | some c =>
      rintro ⟨⟩
      exact absurd (hq _ (List.mem_of_getLast? hq')) (by decide)
  rw [inOnePass?, hsplit, onePass?_opening ha haperiod hperiod (flipsQuotation_of_isQuote hmark (by decide)),
    onePass?_closing hq hperiod (flipsQuotation_of_isQuote hmark hlast), onePass?_words hb hbperiod]
  rfl

/-- An apostrophe behind a space closes the quotation that another one opened. -/
theorem inOnePass?_quoting_apostrophe (hbperiod : '.' ∉ b) (rest : Text) :
    inOnePass? (quoting a '\x27' q [' ', '\x27'] b ++ ' ' :: rest) =
      some (Text.trim (quoting a '\x27' q [' ', '\x27'] b)) := by
  have hsplit : quoting a '\x27' q [' ', '\x27'] b ++ ' ' :: rest =
      a ++ ' ' :: '\x27' :: (q ++ [' '] ++ '\x27' :: ' ' :: (b ++ '.' :: ' ' :: rest)) := by simp [quoting]
  have hspaced : ∀ c ∈ q ++ [' '], isQuotationSign c = false :=
    List.forall_mem_append.2 ⟨hq, List.forall_mem_singleton.2 rfl⟩
  have hlast : flipsQuotation ((q ++ [' ']).getLast?.or (some '\x27')) '\x27' = true := by
    rw [List.getLast?_concat]
    rfl
  rw [inOnePass?, hsplit, onePass?_opening ha haperiod (by decide) rfl,
    onePass?_closing hspaced (by decide) hlast, onePass?_words hb hbperiod]
  simp [quoting]

/-- An apostrophe behind another character leaves the quotation open, and no period ends the sentence. -/
theorem inOnePass?_eq_none_of_unclosed (hend : q.getLast? ≠ some ' ') {rest : Text}
    (hrest : ∀ c ∈ rest, isQuotationSign c = false) :
    inOnePass? (quoting a '\x27' q ['\x27'] b ++ ' ' :: rest) = none := by
  have hsplit : quoting a '\x27' q ['\x27'] b ++ ' ' :: rest =
      a ++ ' ' :: '\x27' :: (q ++ '\x27' :: (' ' :: (b ++ '.' :: ' ' :: rest))) := by simp [quoting]
  have hlast : flipsQuotation (q.getLast?.or (some '\x27')) '\x27' = false := by
    rw [flipsQuotation_apostrophe, decide_eq_false_iff_not]
    cases hq' : q.getLast? with
    | none => decide
    | some c => rwa [Option.some_or, ← hq']
  have hrear : ∀ c ∈ ' ' :: (b ++ '.' :: ' ' :: rest), isQuotationSign c = false := by
    simp only [List.forall_mem_cons, List.forall_mem_append]
    exact ⟨rfl, hb, rfl, rfl, hrest⟩
  rw [inOnePass?, hsplit, onePass?_opening ha haperiod (by decide) rfl,
    onePass?_append_cons hq (Or.inl rfl) (by decide), hlast, Bool.xor_false,
    onePass?_eq_none_of_forall_not_sign hrear]
  rfl

end Quoting

end Prose

open Prose

theorem firstSentenceFrom_singleton (n : Int) (l : Text) :
    firstSentenceFrom n [l] = match inOnePass? l with
      | some s => .ok s
      | none => .error ⟨.noSentence, n⟩ := by
  rw [firstSentenceFrom, firstSentenceOfLines?_eq, firstSentence?_eq_inOnePass?]
  rfl

/-- An apostrophe at the end of a word closes no quotation, so that the whole line is taken to be quoted. -/
theorem not_firstSentenceFrom_quoting :
    ¬ ∀ (mark : Char) (a q b rest : Text), mark ∈ ['\x22', '\x60', '\x27'] →
      (∀ c ∈ a ++ q ++ b ++ rest, isQuotationSign c = false ∧ c ≠ '\n') → '.' ∉ a → '.' ∉ b → q ≠ [] → b ≠ [] →
      q.head? ≠ some ' ' → q.getLast? ≠ some ' ' →
      firstSentenceFrom 0 [quoting a mark q [mark] b ++ ' ' :: rest] = .ok (Text.trim (quoting a mark q [mark] b)) := by
  intro h
  have hplain : ∀ c ∈ "Sayx. yzDone.".toList, isQuotationSign c = false ∧ c ≠ '\n' := by
    have hall : "Sayx. yzDone.".toList.all (fun c => !isQuotationSign c && c != '\n') = true := by decide
    simpa using hall
  have hsay := h '\x27' "Say".toList "x. y".toList "z".toList "Done.".toList (by decide) hplain (by decide)
    (by decide) (by decide) (by decide) (by decide) (by decide)
  have hnone : firstSentenceFrom 0 ["Say 'x. y' z. Done.".toList] = .error ⟨.noSentence, 0⟩ := rfl
  cases hnone.symm.trans hsay

/-- **A quotation hides only its own inside.**  Let words without a period stand in front of a quotation and behind it,
and let none of them, nor what is quoted, hold a sign of quotation.  If double quotes or backticks stand around the
quotation, or apostrophes of which the second too stands behind a space, then the sentence ends with the first period
behind the quotation, whatever follows.  If the second apostrophe stands behind another character, then it closes
nothing, and no sentence is found unless a further sign of quotation follows. -/
theorem firstSentenceFrom_quoting {a q b : Text} (ha : ∀ c ∈ a, isQuotationSign c = false) (haperiod : '.' ∉ a)
    (hq : ∀ c ∈ q, isQuotationSign c = false) (hb : ∀ c ∈ b, isQuotationSign c = false) (hbperiod : '.' ∉ b)
    (rest : Text) :
    (∀ mark, isQuote mark = true → firstSentenceFrom 0 [quoting a mark q [mark] b ++ ' ' :: rest] =
        .ok (Text.trim (quoting a mark q [mark] b))) ∧
      firstSentenceFrom 0 [quoting a '\x27' q [' ', '\x27'] b ++ ' ' :: rest] =
        .ok (Text.trim (quoting a '\x27' q [' ', '\x27'] b)) ∧
      (q.getLast? ≠ some ' ' → (∀ c ∈ rest, isQuotationSign c = false) →
        (firstSentenceFrom 0 [quoting a '\x27' q ['\x27'] b ++ ' ' :: rest]).mapError Malformed.diagnostic =
          .error ⟨"Could not find sentence.".toList, some 0⟩) := by
  simp only [firstSentenceFrom_singleton]
  refine ⟨fun mark hmark => ?_, ?_, fun hend hrest => ?_⟩
  · rw [inOnePass?_quoting ha haperiod hq hb hbperiod hmark]
  · rw [inOnePass?_quoting_apostrophe ha haperiod hq hb hbperiod]
  · rw [inOnePass?_eq_none_of_unclosed ha haperiod hq hb hend hrest]
    rfl

/-- A sentence with a sentence quoted in it, in double quotes and in apostrophes. -/
theorem firstSentenceFrom_of_quoted_sentence :
    firstSentenceFrom 0 ["Say \"x. y\" z. Done.".toList] = .ok "Say \"x. y\" z.".toList ∧
      firstSentenceFrom 0 ["Say 'x. y ' z. Done.".toList] = .ok "Say 'x. y ' z.".toList ∧
      (firstSentenceFrom 0 ["Say 'x. y' z. Done.".toList]).mapError Malformed.diagnostic =
        .error ⟨"Could not find sentence.".toList, some 0⟩ := by
  have hplain {t : Text} (h : t.all (!isQuotationSign ·) = true) : ∀ c ∈ t, isQuotationSign c = false := by
    simpa using h
  obtain ⟨hquote, hspaced, hopen⟩ := firstSentenceFrom_quoting (a := "Say".toList) (q := "x. y".toList)
    (b := "z".toList) (hplain (by decide)) (by decide) (hplain (by decide)) (hplain (by decide)) (by decide)
    "Done.".toList
  exact ⟨hquote '\x22' rfl, hspaced, hopen (by decide) (hplain (by decide))⟩

end Manpage
