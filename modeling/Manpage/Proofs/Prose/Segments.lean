import Manpage.Proofs.Prose.Spans

/-!
# Well-formed markup

Markup is well-formed if every mark in it belongs to a span.  The passes of the conversion run one after the other, each
from left to right with an eye to its own marks; on such a text they find the spans as they were written, also where
the marks of one touch those of the next.

* `Words`, `Phrase` — texts without marks, and such texts on one line;
* `Segment` — a stretch of plain text or a span, with what is `written` for it and what is `shown` of it;
* `rewrite_flatMap` — a pass that takes one segment off the front of a text takes off all of them;
* `boldPass_written`, `linkPass_afterBold` — what each pass makes of the segments;
* `convert_flatMap_written` — so the conversion shows each segment, one after the other.
-/

namespace Manpage.Prose

/-! ### Texts without marks -/

/-- The characters of spans and quotations. -/
def marks : Text := ['*', '[', ']', '(', ')', '\x60', '\x22', '\x27']

/-- A text without marks. -/
structure Words where
  text : Text
  unmarked : ∀ c ∈ text, c ∉ marks

/-- A text without marks on one line. -/
structure Phrase extends Words where
  line : '\n' ∉ text

/-- A text that is found to have no marks. -/
def Words.ofAll (t : Text) (h : t.all (fun c => c ∉ marks) = true) : Words := ⟨t, by simpa using h⟩

/-- A text on one line that is found to have no marks. -/
def Phrase.ofAll (t : Text) (h : t.all (fun c => c ∉ marks) = true) (line : '\n' ∉ t) : Phrase := ⟨.ofAll t h, line⟩

theorem Words.not_mem (w : Words) {c : Char} (hc : c ∈ marks) : c ∉ w.text := fun hmem => w.unmarked c hmem hc

/-! ### Segments -/

/-- What stands behind the label of a link: an address in round brackets or a reference in square ones. -/
inductive Target where
  | address (place : Phrase)
  | reference (place : Phrase)

def Target.written : Target → Text
  | .address place => '(' :: (place.text ++ [')'])
  | .reference place => '[' :: (place.text ++ [']'])

/-- A stretch of inline markup. -/
inductive Segment where
  | plain (words : Words)
  | code (words : Words)
  | bold (phrase : Phrase)
  | link (label : Phrase) (target : Target)
  | codeLink (label : Phrase) (target : Target)

/-- The Markdown of a segment. -/
def Segment.written : Segment → Text
  | .plain words => words.text
  | .code words => '\x60' :: (words.text ++ ['\x60'])
  | .bold phrase => '*' :: '*' :: (phrase.text ++ ['*', '*'])
  | .link label target => '[' :: (label.text ++ ']' :: target.written)
  | .codeLink label target => '[' :: '\x60' :: (label.text ++ '\x60' :: ']' :: target.written)

/-- What the manual page has for a segment. -/
def Segment.shown : Segment → Text
  | .plain words => words.text
  | .code words => '\x22' :: (words.text ++ ['\x22'])
  | .bold phrase => '.' :: 'B' :: ' ' :: phrase.text
  | .link label _ => label.text
  | .codeLink label _ => '\x22' :: (label.text ++ ['\x22'])

/-- A segment after the pass for bold text. -/
def Segment.afterBold : Segment → Text
  | .bold phrase => '.' :: 'B' :: ' ' :: phrase.text
  | s => s.written

/-- A segment after the passes for bold text and for links. -/
def Segment.afterLinks : Segment → Text
  | .link label _ => label.text
  | .codeLink label _ => '\x60' :: (label.text ++ ['\x60'])
  | s => s.afterBold

/-! ### One pass over the segments -/

/-- A rewriting that takes a segment off the front of any text takes off all of them. -/
theorem rewrite_flatMap {f : Text → Text} {g h : Segment → Text} (hnil : f [] = [])
    (hstep : ∀ s u, f (g s ++ u) = h s ++ f u) (ss : List Segment) : f (ss.flatMap g) = ss.flatMap h := by
  induction ss with
  | nil => exact hnil
  | cons s ss ih => rw [List.flatMap_cons, List.flatMap_cons, hstep, ih]

theorem Target.star_not_mem_written (t : Target) : '*' ∉ t.written := by
  cases t with
  | address place => simp [Target.written, place.not_mem (c := '*') (by decide)]
  | reference place => simp [Target.written, place.not_mem (c := '*') (by decide)]

/-- The first segment is rewritten by the pass for bold text, whatever follows it. -/
theorem boldPass_written_append (s : Segment) (u : Text) : boldPass (s.written ++ u) = s.afterBold ++ boldPass u := by
  cases s with
  | bold phrase =>
    have hspan := boldSpan?_append (phrase.not_mem (c := '*') (by decide)) phrase.line u
    simpa [Segment.written, Segment.afterBold] using boldPass_of_boldSpan?_some hspan
  | plain words => exact boldPass_append_of_not_mem (words.not_mem (by decide)) u
  | code words =>
    have hfree := words.not_mem (c := '*') (by decide)
    exact boldPass_append_of_not_mem (by simp [Segment.written, hfree]) u
  | link label target =>
    have hfree := label.not_mem (c := '*') (by decide)
    exact boldPass_append_of_not_mem (by simp [Segment.written, hfree, target.star_not_mem_written]) u
  | codeLink label target =>
    have hfree := label.not_mem (c := '*') (by decide)
    exact boldPass_append_of_not_mem (by simp [Segment.written, hfree, target.star_not_mem_written]) u

/-- A phrase in the place of a target ends at the bracket behind it. -/
theorem Phrase.afterTarget?_append (place : Phrase) {k : Char} (hk : k = ')' ∨ k = ']') (u : Text) :
    afterTarget? (place.text ++ k :: u) = some u :=
  Prose.afterTarget?_append (place.not_mem (by decide)) (place.not_mem (by decide)) place.line hk u

/-- A label without closing brackets and the target behind it are read as a link, whatever follows them. -/
theorem link?_written_append {s : Text} (hbracket : ']' ∉ s) (hline : '\n' ∉ s) (t : Target) (u : Text) :
    link? (s ++ ']' :: (t.written ++ u)) = some (s, u) := by
  cases t with
  | address place =>
    have hlabel := label?_append hbracket hline (Or.inl rfl) (place.text ++ ')' :: u)
    simpa [Target.written, place.afterTarget?_append (Or.inl rfl)] using link?_of_label? hlabel
  | reference place =>
    have hlabel := label?_append hbracket hline (Or.inr rfl) (place.text ++ ']' :: u)
    simpa [Target.written, place.afterTarget?_append (Or.inr rfl)] using link?_of_label? hlabel

/-- The first segment is rewritten by the pass for links, whatever follows it. -/
theorem linkPass_afterBold_append (s : Segment) (u : Text) :
    linkPass (s.afterBold ++ u) = s.afterLinks ++ linkPass u := by
  cases s with
  | link label target =>
    have hlink := link?_written_append (label.not_mem (c := ']') (by decide)) label.line target u
    simpa [Segment.afterBold, Segment.afterLinks, Segment.written] using linkPass_of_link?_some hlink
  | codeLink label target =>
    have hfree := label.not_mem (c := ']') (by decide)
    have hlink := link?_written_append (s := '\x60' :: (label.text ++ ['\x60'])) (by simp [hfree])
      (by simp [label.line]) target u
    simpa [Segment.afterBold, Segment.afterLinks, Segment.written] using linkPass_of_link?_some hlink
  | plain words => exact linkPass_append_of_not_mem (words.not_mem (by decide)) u
  | code words =>
    have hfree := words.not_mem (c := '[') (by decide)
    exact linkPass_append_of_not_mem (by simp [Segment.afterBold, Segment.written, hfree]) u
  | bold phrase =>
    have hfree := phrase.not_mem (c := '[') (by decide)
    exact linkPass_append_of_not_mem (by simp [Segment.afterBold, hfree]) u

theorem boldPass_written (ss : List Segment) : boldPass (ss.flatMap Segment.written) = ss.flatMap Segment.afterBold :=
  rewrite_flatMap (by rw [boldPass]) boldPass_written_append ss

theorem linkPass_afterBold (ss : List Segment) :
    linkPass (ss.flatMap Segment.afterBold) = ss.flatMap Segment.afterLinks :=
  rewrite_flatMap (by rw [linkPass]) linkPass_afterBold_append ss

/-! ### Backticks -/

theorem Words.isQuotationMark_eq_false (w : Words) : ∀ c ∈ w.text, isQuotationMark c = false := by
  intro c hc
  have hmark := w.unmarked c hc
  simp only [marks, List.mem_cons, List.not_mem_nil, or_false, not_or] at hmark
  simp [isQuotationMark, hmark]

theorem Target.isQuotationMark_eq_false (t : Target) : ∀ c ∈ t.written, isQuotationMark c = false := by
  cases t with
  | address place =>
    simp only [Target.written, List.forall_mem_cons, List.forall_mem_append]
    exact ⟨rfl, place.isQuotationMark_eq_false, rfl, List.forall_mem_nil _⟩
  | reference place =>
    simp only [Target.written, List.forall_mem_cons, List.forall_mem_append]
    exact ⟨rfl, place.isQuotationMark_eq_false, rfl, List.forall_mem_nil _⟩

/-- A segment is written without quotation marks. -/
theorem Segment.isQuotationMark_eq_false (s : Segment) : ∀ c ∈ s.written, isQuotationMark c = false := by
  cases s with
  | plain words => exact words.isQuotationMark_eq_false
  | code words =>
    simp only [Segment.written, List.forall_mem_cons, List.forall_mem_append]
    exact ⟨rfl, words.isQuotationMark_eq_false, rfl, List.forall_mem_nil _⟩
  | bold phrase =>
    simp only [Segment.written, List.forall_mem_cons, List.forall_mem_append]
    exact ⟨rfl, rfl, phrase.isQuotationMark_eq_false, rfl, rfl, List.forall_mem_nil _⟩
  | link label target =>
    simp only [Segment.written, List.forall_mem_cons, List.forall_mem_append]
    exact ⟨rfl, label.isQuotationMark_eq_false, rfl, target.isQuotationMark_eq_false⟩
  | codeLink label target =>
    simp only [Segment.written, List.forall_mem_cons, List.forall_mem_append]
    exact ⟨rfl, rfl, label.isQuotationMark_eq_false, rfl, rfl, target.isQuotationMark_eq_false⟩

/-- What the passes for spans leave of a segment is shown once its backticks have become double quotes. -/
theorem Segment.map_plainQuote_afterLinks (s : Segment) : s.afterLinks.map plainQuote = s.shown := by
  have hwords (w : Words) : w.text.map plainQuote = w.text := map_plainQuote_of_not_mem (w.not_mem (by decide))
  cases s with
  | plain words => exact hwords words
  | code words =>
    simp only [Segment.afterLinks, Segment.afterBold, Segment.written, List.map_cons, List.map_append, hwords]
    rfl
  | bold phrase =>
    simp only [Segment.afterLinks, Segment.afterBold, List.map_cons, hwords]
    rfl
  | link label target => exact hwords label.toWords
  | codeLink label target =>
    simp only [Segment.afterLinks, List.map_cons, List.map_append, hwords]
    rfl

/-- **Conversion of well-formed markup.**  The segments of a text are converted each on its own: plain text stays, code
is put in double quotes, bold text is put behind its macro, and of a link the label is left. -/
theorem convert_flatMap_written (ss : List Segment) :
    convert (ss.flatMap Segment.written) = ss.flatMap Segment.shown := by
  have hquote : ∀ c ∈ ss.flatMap Segment.written, isQuotationMark c = false := by
    intro c hc
    obtain ⟨s, -, hs⟩ := List.mem_flatMap.1 hc
    exact s.isQuotationMark_eq_false c hs
  calc convert (ss.flatMap Segment.written)
      = (linkPass (boldPass (ss.flatMap Segment.written))).map plainQuote := convert_of_forall_not_quotationMark hquote
    _ = (ss.flatMap Segment.afterLinks).map plainQuote := by rw [boldPass_written, linkPass_afterBold]
    _ = ss.flatMap fun s => s.afterLinks.map plainQuote := List.map_flatMap
    _ = ss.flatMap Segment.shown := by simp only [Segment.map_plainQuote_afterLinks]

/-- A segment of each form, with marks of neighbouring spans that touch, and an empty one. -/
def touchingSpans : List Segment :=
  [.plain (.ofAll "see ".toList rfl), .code (.ofAll "a".toList rfl), .code (.ofAll [] rfl),
    .bold (.ofAll "b".toList rfl (by decide)), .bold (.ofAll "c".toList rfl (by decide)),
    .codeLink (.ofAll "d".toList rfl (by decide)) (.reference (.ofAll [] rfl (by decide))),
    .link (.ofAll "e".toList rfl (by decide)) (.address (.ofAll "f".toList rfl (by decide))),
    .codeLink (.ofAll "g".toList rfl (by decide)) (.address (.ofAll "h".toList rfl (by decide))),
    .link (.ofAll "i".toList rfl (by decide)) (.reference (.ofAll "j".toList rfl (by decide)))]

/-- Spans are told apart where their marks touch. -/
theorem convert_touchingSpans :
    touchingSpans.flatMap Segment.written = "see `a```**b****c**[`d`][][e](f)[`g`](h)[i][j]".toList ∧
      convert "see `a```**b****c**[`d`][][e](f)[`g`](h)[i][j]".toList = "see \"a\"\"\".B b.B c\"d\"e\"g\"i".toList :=
  ⟨rfl, convert_flatMap_written touchingSpans⟩

end Manpage.Prose
