import Manpage.Text.Trim

/-!
# The first sentence of a text

A sentence ends with a period that is followed by a space, a line feed or the end of the text, unless the period
stands in a quotation.  Double quotes and backticks open and close a quotation, as does an apostrophe after a space;
other apostrophes belong to contractions and possessives.  A backslash takes the character after it out of this
count.

* `insideQuotes` — whether a position lies in a quotation, judged from the text before it alone;
* `endsSentence` — whether a period at a place could end a sentence;
* `firstSentence?` — the first sentence, trimmed;
* `firstSentenceOfLines?` — the same for a text in lines, of which it looks only at those that the sentence needs
  (`firstSentenceOfLines?_eq`: it is the first sentence of the joined lines).
-/

namespace Manpage.Prose

/-- A double quote or a backtick. -/
def isQuote (c : Char) : Bool := c = '\x22' || c = '\x60'

/-- Whether the place after the given text lies in a quotation.  The text is given back to front: its last character
comes first, and an escaped character is passed over together with its backslash. -/
def insideQuotes : (before : Text) → Bool
  | [] => false
  | [c] => isQuote c
  | c :: d :: before =>
    if d = '\\' then insideQuotes before
    else if isQuote c || (c = '\x27' && d = ' ') then !insideQuotes (d :: before)
    else insideQuotes (d :: before)

/-- Whether the character, followed by the given text, is a period that may end a sentence. -/
def endsSentence (c : Char) : (after : Text) → Bool
  | [] => c = '.'
  | d :: _ => c = '.' && (d = ' ' || d = '\n')

/-- The text up to the first period that ends a sentence outside quotation, for a text cut in two: what was passed,
back to front, and what lies ahead. -/
def sentenceFrom? (before : Text) : (ahead : Text) → Option Text
  | [] => none
  | c :: ahead =>
    if endsSentence c ahead && !insideQuotes before then some (c :: before).reverse
    else sentenceFrom? (c :: before) ahead

/-- The first sentence of a text with its period, without white space at its ends. -/
def firstSentence? (t : Text) : Option Text := (sentenceFrom? [] t).map Text.trim

/-! ### Texts in lines -/

/-- The text up to the first period that ends a sentence outside quotation, after what was passed, back to front, for
what lies ahead in lines. -/
def sentenceInLines? (before : Text) : (ahead : List Text) → Option Text
  | [] => none
  | [l] => sentenceFrom? before l
  | l :: m :: ls =>
    match sentenceFrom? before (l ++ ['\n']) with
    | some s => some s
    | none => sentenceInLines? ('\n' :: l.reverse ++ before) (m :: ls)

/-- The first sentence of a text in lines. -/
def firstSentenceOfLines? (ls : List Text) : Option Text := (sentenceInLines? [] ls).map Text.trim

/-- A line feed ends the search in what stands before it. -/
theorem sentenceFrom?_append_lineFeed (before l t : Text) :
    sentenceFrom? before (l ++ '\n' :: t) =
      (sentenceFrom? before (l ++ ['\n'])).or (sentenceFrom? ('\n' :: l.reverse ++ before) t) := by
  induction l generalizing before with
  | nil => cases t <;> simp [sentenceFrom?, endsSentence]
  | cons c l ih =>
    have hahead : endsSentence c (l ++ '\n' :: t) = endsSentence c (l ++ ['\n']) := by
      cases l <;> rfl
    simp only [List.cons_append, sentenceFrom?, hahead, ih, List.reverse_cons, List.append_assoc]
    split <;> simp

theorem sentenceInLines?_eq (before : Text) (ls : List Text) :
    sentenceInLines? before ls = sentenceFrom? before (Text.unlines ls) := by
  fun_induction sentenceInLines? before ls with
  | case1 => rfl
  | case2 => rfl
  | case3 before l m ls s hs =>
    have h := sentenceFrom?_append_lineFeed before l (Text.unlines (m :: ls))
    rw [hs, Option.some_or] at h
    rw [← h]
    simp [Text.unlines, Text.joined]
  | case4 before l m ls hn ih =>
    have h := sentenceFrom?_append_lineFeed before l (Text.unlines (m :: ls))
    rw [hn, Option.none_or] at h
    rw [ih, ← h]
    simp [Text.unlines, Text.joined]

/-- The first sentence of a text in lines is that of the lines joined. -/
theorem firstSentenceOfLines?_eq (ls : List Text) : firstSentenceOfLines? ls = firstSentence? (Text.unlines ls) := by
  rw [firstSentenceOfLines?, sentenceInLines?_eq, firstSentence?]

end Manpage.Prose
