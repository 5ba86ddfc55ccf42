import Manpage.Proofs.Prose.Sentence
import Manpage.Reference.Entry

/-!
# The first sentence in one pass

The end of a sentence is judged by a scan back over all that stands before it, anew at each period.  One pass from left
to right, with a Boolean for the quotation, finds the same.

* `flipsQuotation` — whether a character opens or closes a quotation, by the character right before it;
* `insideQuotes_cons` — the scan back, taken one character further: it ends in the other answer exactly if that
  character flips; `insideQuotes_replicate_append`: so backslashes do not count, however many they are;
* `onePass?` — the pass, and `sentenceFrom?_eq_onePass?`: the two searches stop at the same period;
* `firstSentenceFrom_eq_inOnePass` — so the first sentence from a line on is that of the pass, and where there is none,
  the defect is the same.
-/

namespace Manpage

namespace Prose

/-! ### One character further -/

/-- Whether a character opens or closes a quotation: a double quote or a backtick that is not right behind a backslash,
or an apostrophe right behind a space. -/
def flipsQuotation (previous? : Option Char) (c : Char) : Bool :=
  ((c = '\x22' || c = '\x60') && previous? ≠ some '\\') || (c = '\x27' && previous? = some ' ')

theorem flipsQuotation_behind_backslash (c : Char) : flipsQuotation (some '\\') c = false := by
  simp [flipsQuotation]

theorem flipsQuotation_backslash (previous? : Option Char) : flipsQuotation previous? '\\' = false := by
  simp [flipsQuotation]

theorem insideQuotes_cons_backslash (c : Char) (before : Text) :
    insideQuotes (c :: '\\' :: before) = insideQuotes before := by
  rw [insideQuotes, if_pos rfl]

theorem insideQuotes_cons_cons {d : Char} (hd : d ≠ '\\') (c : Char) (before : Text) :
    insideQuotes (c :: d :: before) = (insideQuotes (d :: before) ^^ flipsQuotation (some d) c) := by
  have hflips : flipsQuotation (some d) c = (isQuote c || (c = '\x27' && d = ' ')) := by
    simp [flipsQuotation, isQuote, hd]
  rw [insideQuotes, if_neg hd, ← hflips]
  cases flipsQuotation (some d) c <;> simp

/-- A backslash right before the place that is judged does not count. -/
theorem insideQuotes_backslash_cons (before : Text) : insideQuotes ('\\' :: before) = insideQuotes before := by
  -- in a run of backslashes the scan steps over two at a time, and each step is an instance of the hypothesis
  induction before with
  | nil => rfl
  | cons d before ih =>
    by_cases hd : d = '\\'
    · subst hd
      rw [insideQuotes_cons_backslash, ih]
    · rw [insideQuotes_cons_cons hd, flipsQuotation_backslash, Bool.xor_false]

/-- Taken one character further, the scan back gives the other answer exactly if that character flips. -/
theorem insideQuotes_cons (c : Char) (before : Text) :
    insideQuotes (c :: before) = (insideQuotes before ^^ flipsQuotation before.head? c) := by
  cases before with
  | nil => simp [insideQuotes, isQuote, flipsQuotation]
  | cons d before =>
    by_cases hd : d = '\\'
    · subst hd
      rw [insideQuotes_cons_backslash, insideQuotes_backslash_cons, List.head?_cons, flipsQuotation_behind_backslash,
        Bool.xor_false]
    · exact insideQuotes_cons_cons hd c before

/-- Any number of backslashes leaves the quotation as it is. -/
theorem insideQuotes_replicate_append (n : Nat) (before : Text) :
    insideQuotes (List.replicate n '\\' ++ before) = insideQuotes before := by
  induction n with
  | zero => rfl
  | succ n ih => rw [List.replicate_succ, List.cons_append, insideQuotes_backslash_cons, ih]

/-! ### The pass -/

/-- The text ahead up to the first period outside quotation that is followed by a space, a line feed or nothing, in one
pass that knows whether it is in a quotation and which character it has just passed. -/
def onePass? (inside : Bool) (previous? : Option Char) : (ahead : Text) → Option Text
  | [] => none
  | c :: ahead =>
    if inside = false ∧ c = '.' ∧ (ahead = [] ∨ ahead.head? = some ' ' ∨ ahead.head? = some '\n') then some ['.']
    else (onePass? (inside ^^ flipsQuotation previous? c) (some c) ahead).map (c :: ·)

/-- The first sentence of a text by one pass that starts outside quotation, without white space at its ends. -/
def inOnePass? (t : Text) : Option Text := (onePass? false none t).map Text.trim

/-- The scan back and the pass stop at the same period. -/
theorem sentenceFrom?_eq_onePass? (before ahead : Text) :
    sentenceFrom? before ahead =
      (onePass? (insideQuotes before) before.head? ahead).map (before.reverse ++ ·) := by
  -- the invariant is that the Boolean of the pass is what the scan back finds at the place that is reached
  induction ahead generalizing before with
  | nil => rfl
  | cons c ahead ih =>
    have hstop : (endsSentence c ahead && !insideQuotes before) = true ↔
        insideQuotes before = false ∧ c = '.' ∧
          (ahead = [] ∨ ahead.head? = some ' ' ∨ ahead.head? = some '\n') := by
      rw [Bool.and_eq_true, Bool.not_eq_true', endsSentence_iff, and_comm]
    rw [sentenceFrom?, onePass?]
    by_cases h : (endsSentence c ahead && !insideQuotes before) = true
    · obtain ⟨-, rfl, -⟩ := hstop.1 h
      rw [if_pos h, if_pos (hstop.1 h), Option.map_some, List.reverse_cons]
    · rw [if_neg h, if_neg (mt hstop.2 h), ih, insideQuotes_cons, List.head?_cons, Option.map_map]
      congr 1
      funext s
      simp

theorem firstSentence?_eq_inOnePass? (t : Text) : firstSentence? t = inOnePass? t := by
  rw [firstSentence?, sentenceFrom?_eq_onePass?, inOnePass?, Option.map_map]
  rfl

end Prose

/-- **The scan back equals one pass.**  From any line of a document on, counted from its front or its end, the first
sentence is the one that a single pass over the joined lines finds; and where the pass finds none, the defect that is
reported says so at that line.  A character behind backslashes leaves the quotation as it is, whatever the number of
the backslashes. -/
theorem firstSentenceFrom_eq_inOnePass (ls : List Text) (start : Int) :
    ((firstSentenceFrom start (linesFrom ls start)).mapError Malformed.diagnostic =
      match Prose.inOnePass? (Text.unlines (linesFrom ls start)) with
      | some s => .ok s
      | none => .error ⟨"Could not find sentence.".toList, some start⟩) ∧
    ∀ (before : Text) (n : Nat) (c : Char),
      Prose.insideQuotes (c :: (List.replicate (n + 1) '\\' ++ before)) = Prose.insideQuotes before := by
  constructor
  · rw [firstSentenceFrom, Prose.firstSentenceOfLines?_eq, Prose.firstSentence?_eq_inOnePass?]
    cases Prose.inOnePass? (Text.unlines (linesFrom ls start)) with
    | none => rfl
    | some s => rfl
  · intro before n c
    rw [List.replicate_succ, List.cons_append, Prose.insideQuotes_cons_backslash, Prose.insideQuotes_replicate_append]

end Manpage
