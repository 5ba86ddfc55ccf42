import Manpage.Proofs.Prose.Segments
import Manpage.Proofs.Reference.Layout

/-!
# Descriptions that open with markup

Whether a description starts like prose is judged after its conversion.  So a sentence that opens with a span is kept or
discarded for what the span becomes: code and links become words, while bold text becomes a macro.

* `Caption`, `Destination`, `LeadingSpan` — a span in front of a sentence, and what is `written` for it;
* `LeadingSpan.isKept` — code, and links on one line;
* `head?_convert_of_linkPass`, `head?_convert_of_boldPass` — how a converted text begins, by what the passes for spans
  begin it with;
* `startsLikeProse_convert_append` — a sentence starts like prose exactly if the span in front of it is kept;
* `OpensWithSpan` — a heading above such a sentence, and `entryAt?_of_opensWithSpan`, the entry that it gives;
  `not_entryAt?_of_opensWithSpan`, a sentence that opens with bold text.
-/

namespace Manpage

namespace Prose

/-! ### Spans in front of a sentence -/

/-- The text of a span: it starts with an ASCII letter or a digit and holds no marks. -/
structure Caption extends Words where
  starts : ∃ c t, text = c :: t ∧ c.isAlphanum = true

/-- What stands behind the label of a link, with the brackets around it.  It ends with the first closing bracket. -/
structure Destination where
  opening : Char
  text : Text
  closing : Char
  opens : opening = '(' ∨ opening = '['
  closes : closing = ')' ∨ closing = ']'
  free : ')' ∉ text ∧ ']' ∉ text

def Destination.written (d : Destination) : Text := d.opening :: (d.text ++ [d.closing])

/-- A span with which a sentence opens. -/
inductive LeadingSpan where
  | code (caption : Caption)
  | bold (caption : Caption)
  | link (caption : Caption) (destination : Destination)

def LeadingSpan.written : LeadingSpan → Text
  | .code caption => '\x60' :: (caption.text ++ ['\x60'])
  | .bold caption => '*' :: '*' :: (caption.text ++ ['*', '*'])
  | .link caption destination => '[' :: (caption.text ++ ']' :: destination.written)

/-- A span opens with a mark of its kind. -/
theorem LeadingSpan.exists_written (s : LeadingSpan) : ∃ c t, s.written = c :: t ∧ c ∈ ['\x60', '*', '['] := by
  cases s with
  | code caption => exact ⟨'\x60', _, rfl, by decide⟩
  | bold caption => exact ⟨'*', _, rfl, by decide⟩
  | link caption d => exact ⟨'[', _, rfl, by decide⟩

/-- Whether a sentence that opens with the span starts like prose when it is converted. -/
def LeadingSpan.isKept : LeadingSpan → Bool
  | .code _ => true
  | .bold _ => false
  | .link caption destination => '\n' ∉ caption.text && '\n' ∉ destination.text

/-! ### How a converted text begins -/

theorem head?_convert_of_linkPass {t u : Text} {c : Char} (h : linkPass (boldPass t) = c :: u) (hc : c ≠ '\x60') :
    (convert t).head? = some c := by
  rw [convert, List.head?_map, head?_closingPass, h, openingPass_cons hc, List.head?_cons, Option.map_some, plainQuote,
    if_neg hc]

theorem head?_convert_of_boldPass {t u : Text} {c : Char} (h : boldPass t = c :: u) (hbracket : c ≠ '[')
    (hc : c ≠ '\x60') : (convert t).head? = some c :=
  head?_convert_of_linkPass (by rw [h, linkPass_cons hbracket]) hc

theorem startsLikeProse_of_head? {t : Text} {c : Char} (h : t.head? = some c) :
    Entry.startsLikeProse t = (c.isAlphanum || isQuotationMark c) := by
  obtain ⟨u, rfl⟩ := List.head?_eq_some_iff.1 h
  rfl

/-- An ASCII letter or digit is no mark. -/
theorem not_mem_marks_of_isAlphanum {c : Char} (h : c.isAlphanum = true) : c ∉ marks := by
  have hall : marks.all (fun d => !d.isAlphanum) = true := by decide
  intro hmem
  have hmark := List.all_eq_true.1 hall c hmem
  rw [h] at hmark
  cases hmark

/-- A text that opens with two asterisks becomes a macro or keeps them. -/
theorem startsLikeProse_convert_bold (t : Text) : Entry.startsLikeProse (convert ('*' :: '*' :: t)) = false := by
  cases hspan : boldSpan? t with
  | none =>
    have hhead := head?_convert_of_boldPass (boldPass_of_boldSpan?_none hspan) (by decide) (by decide)
    rw [startsLikeProse_of_head? hhead]
    rfl
  | some p =>
    have hhead := head?_convert_of_boldPass (boldPass_of_boldSpan?_some hspan) (by decide) (by decide)
    rw [startsLikeProse_of_head? hhead]
    rfl

/-- A backtick in front of a letter or a digit becomes a double quote. -/
theorem startsLikeProse_convert_code {c : Char} (hc : c.isAlphanum = true) (t : Text) :
    Entry.startsLikeProse (convert ('\x60' :: c :: t)) = true := by
  have hmark := not_mem_marks_of_isAlphanum hc
  simp only [marks, List.mem_cons, List.not_mem_nil, or_false, not_or] at hmark
  have hbold : boldPass ('\x60' :: c :: t) = '\x60' :: c :: boldPass t := by
    rw [boldPass_cons fun _ heq => absurd heq (by decide), boldPass_cons fun _ heq => absurd heq hmark.1]
  have hlink : linkPass (boldPass ('\x60' :: c :: t)) = '\x60' :: c :: linkPass (boldPass t) := by
    rw [hbold, linkPass_cons (by decide), linkPass_cons hmark.2.1]
  have hopening (u : Text) : openingPass ('\x60' :: c :: u) = '\x60' :: openingPass (c :: u) := by
    rw [openingPass, if_neg]
    simp [isQuotationMark, hmark]
  have hhead : (convert ('\x60' :: c :: t)).head? = some '\x22' := by
    rw [convert, List.head?_map, head?_closingPass, hlink, hopening]
    rfl
  rw [startsLikeProse_of_head? hhead]
  rfl

/-! ### Links -/

theorem label?_eq_none_of_not_mem {t : Text} (h : ']' ∉ t) : label? t = none := by
  cases hlabel : label? t with
  | none => rfl
  | some p =>
    obtain ⟨s, r⟩ := p
    obtain ⟨c, rfl, -⟩ := eq_append_of_label? hlabel
    exact absurd (List.mem_append_right s List.mem_cons_self) h

theorem afterTarget?_eq_none_of_not_mem {t : Text} (hround : ')' ∉ t) (hsquare : ']' ∉ t) : afterTarget? t = none := by
  cases htarget : afterTarget? t with
  | none => rfl
  | some r =>
    obtain ⟨m, k, rfl, hk | hk, -⟩ := eq_append_of_afterTarget? htarget
    · exact absurd (List.mem_append_right m (hk ▸ List.mem_cons_self)) hround
    · exact absurd (List.mem_append_right m (hk ▸ List.mem_cons_self)) hsquare

/-- The pass for bold text brings no brackets and no line feeds into a text. -/
theorem not_mem_boldPass {c : Char} (hc : c ∈ [')', ']', '\n']) {t : Text} (h : c ∉ t) : c ∉ boldPass t := by
  intro hmem
  rcases mem_boldPass hmem with hmem | hmem
  · exact h hmem
  · simp only [List.mem_cons, List.not_mem_nil, or_false] at hc hmem
    grind

/-- An opening bracket behind which no link closes stays in front. -/
theorem head?_convert_of_link?_none {t : Text} (h : link? (boldPass t) = none) :
    (convert ('[' :: t)).head? = some '[' := by
  have hbold : boldPass ('[' :: t) = '[' :: boldPass t := boldPass_cons fun _ heq => absurd heq (by decide)
  exact head?_convert_of_linkPass (by rw [hbold, linkPass_of_link?_none h]) (by decide)

section Link

variable (caption : Caption) (d : Destination)

theorem boldPass_label (t : Text) :
    boldPass (caption.text ++ ']' :: d.opening :: t) = caption.text ++ ']' :: d.opening :: boldPass t := by
  have hopening : d.opening ≠ '*' := by
    rcases d.opens with h | h
    · rw [h]; decide
    · rw [h]; decide
  rw [boldPass_append_of_not_mem (caption.not_mem (by decide)), boldPass_cons fun _ heq => absurd heq (by decide),
    boldPass_cons fun _ heq => absurd heq hopening]

/-- A link on one line is read as one, also where the pass for bold text has changed its target. -/
theorem link?_boldPass (hlabel : '\n' ∉ caption.text) (htarget : '\n' ∉ d.text) {u : Text} (hu : '*' ∉ u) :
    link? (boldPass (caption.text ++ ']' :: (d.written ++ u))) = some (caption.text, u) := by
  have hrear : '*' ∉ d.closing :: u := by
    rw [List.mem_cons, not_or]
    refine ⟨?_, hu⟩
    rcases d.closes with h | h
    · rw [h]; decide
    · rw [h]; decide
  have hsplit : caption.text ++ ']' :: (d.written ++ u) =
      caption.text ++ ']' :: d.opening :: (d.text ++ d.closing :: u) := by simp [Destination.written]
  have hread := label?_append (caption.not_mem (by decide)) hlabel d.opens (boldPass d.text ++ d.closing :: u)
  rw [hsplit, boldPass_label, boldPass_append_cons_of_not_mem hrear, link?_of_label? hread,
    afterTarget?_append (not_mem_boldPass (by decide) d.free.1) (not_mem_boldPass (by decide) d.free.2)
      (not_mem_boldPass (by decide) htarget) d.closes, Option.map_some]

/-- A link on one line leaves its label in front. -/
theorem head?_convert_link (hlabel : '\n' ∉ caption.text) (htarget : '\n' ∉ d.text) {u : Text} (hu : '*' ∉ u) :
    (convert ((LeadingSpan.link caption d).written ++ u)).head? = caption.text.head? := by
  obtain ⟨c, t, htext, hc⟩ := caption.starts
  have hmark := not_mem_marks_of_isAlphanum hc
  simp only [marks, List.mem_cons, List.not_mem_nil, or_false, not_or] at hmark
  have hbold : boldPass ((LeadingSpan.link caption d).written ++ u) =
      '[' :: boldPass (caption.text ++ ']' :: (d.written ++ u)) := by
    rw [LeadingSpan.written, List.cons_append, boldPass_cons fun _ heq => absurd heq (by decide), List.append_assoc,
      List.cons_append]
  have hpasses : linkPass (boldPass ((LeadingSpan.link caption d).written ++ u)) = c :: (t ++ linkPass u) := by
    rw [hbold, linkPass_of_link?_some (link?_boldPass caption d hlabel htarget hu), htext, List.cons_append]
  rw [head?_convert_of_linkPass hpasses hmark.2.2.2.2.2.1, htext, List.head?_cons]

/-- A link that goes on behind the end of its line is none, so that its bracket stays in front. -/
theorem head?_convert_broken_link (h : '\n' ∈ caption.text ∨ '\n' ∈ d.text) (u : Text) :
    (convert ((LeadingSpan.link caption d).written ++ u)).head? = some '[' := by
  -- the first line, in which nothing closes the link, is converted on its own
  have hfirst (l r : Text) (hnone : link? (boldPass l) = none)
      (heq : (LeadingSpan.link caption d).written ++ u = '[' :: (l ++ '\n' :: r)) :
      (convert ((LeadingSpan.link caption d).written ++ u)).head? = some '[' := by
    rw [heq, ← List.cons_append, convert_append_lineFeed, List.head?_append, head?_convert_of_link?_none hnone,
      Option.some_or]
  by_cases hlabel : '\n' ∈ caption.text
  · obtain ⟨l, r, htext⟩ := List.append_of_mem hlabel
    have hbracket : ']' ∉ l := fun hmem =>
      caption.not_mem (c := ']') (by decide) (htext ▸ List.mem_append_left _ hmem)
    refine hfirst l (r ++ ']' :: (d.written ++ u)) ?_ (by simp [LeadingSpan.written, htext])
    rw [link?, label?_eq_none_of_not_mem (not_mem_boldPass (by decide) hbracket)]
  · obtain ⟨l, r, htext⟩ := List.append_of_mem (h.resolve_left hlabel)
    have hround : ')' ∉ l := fun hmem => d.free.1 (htext ▸ List.mem_append_left _ hmem)
    have hsquare : ']' ∉ l := fun hmem => d.free.2 (htext ▸ List.mem_append_left _ hmem)
    refine hfirst (caption.text ++ ']' :: d.opening :: l) (r ++ d.closing :: u) ?_
      (by simp [LeadingSpan.written, Destination.written, htext])
    rw [boldPass_label, link?_of_label? (label?_append (caption.not_mem (by decide)) hlabel d.opens _),
      afterTarget?_eq_none_of_not_mem (not_mem_boldPass (by decide) hround) (not_mem_boldPass (by decide) hsquare),
      Option.map_none]

end Link

/-- A sentence that opens with a span starts like prose, once it is converted, exactly if the span is kept. -/
theorem startsLikeProse_convert_append (s : LeadingSpan) {u : Text} (hu : '*' ∉ u) :
    Entry.startsLikeProse (convert (s.written ++ u)) = s.isKept := by
  cases s with
  | code caption =>
    obtain ⟨c, t, htext, hc⟩ := caption.starts
    have hcode := startsLikeProse_convert_code hc (t ++ '\x60' :: u)
    simpa [LeadingSpan.written, LeadingSpan.isKept, htext] using hcode
  | bold caption => exact startsLikeProse_convert_bold _
  | link caption d =>
    cases hkept : (LeadingSpan.link caption d).isKept with
    | true =>
      simp only [LeadingSpan.isKept, Bool.and_eq_true, decide_eq_true_eq] at hkept
      obtain ⟨c, t, htext, hc⟩ := caption.starts
      have hhead := head?_convert_link caption d hkept.1 hkept.2 hu
      rw [htext, List.head?_cons] at hhead
      rw [startsLikeProse_of_head? hhead, hc, Bool.true_or]
    | false =>
      have hbroken : '\n' ∈ caption.text ∨ '\n' ∈ d.text := by
        simpa [LeadingSpan.isKept, Classical.or_iff_not_imp_left] using hkept
      rw [startsLikeProse_of_head? (head?_convert_broken_link caption d hbroken u)]
      rfl

end Prose

open Prose

/-! ### The entry -/

/-- The heading of an entry of a name, an empty line, and lines whose first sentence opens with a span, behind which it
goes on in plain words up to its period. -/
structure OpensWithSpan (ls : List Text) (i : Nat) (name : Text) (s : LeadingSpan) (q : Words) (after : Text) :
    Prop where
  heading : ∃ l, ls[i]? = some l ∧ IsOptionHeading l ∧ Entry.nameOf? l = some name
  empty : ls[i + 1]? = some []
  text : Text.unlines (ls.drop (i + 2)) = s.written ++ q.text ++ '.' :: after
  ends : EndsFirstSentence (s.written ++ q.text) after

variable {ls : List Text} {i : Nat} {name : Text} {s : LeadingSpan} {q : Words} {after : Text}

/-- The sentence begins in the second line below the heading, which is therefore prose and nothing else. -/
theorem OpensWithSpan.exists_line (h : OpensWithSpan ls i name s q after) :
    ∃ l, ls[i + 2]? = some l ∧ isProseLine l = true ∧ opensEntry l = false ∧ opensComment l = false := by
  obtain ⟨c, t, hwritten, hc⟩ := s.exists_written
  have htext := h.text
  rw [hwritten, List.cons_append, List.cons_append] at htext
  cases hdrop : ls.drop (i + 2) with
  | nil =>
    rw [hdrop] at htext
    cases htext
  | cons l more =>
    have hl : ls[i + 2]? = some l := by
      have hhead : (ls.drop (i + 2))[0]? = ls[i + 2]? := List.getElem?_drop
      rw [hdrop] at hhead
      exact hhead.symm
    obtain ⟨u, rfl⟩ : ∃ u, l = c :: u := by
      rw [hdrop] at htext
      cases more with
      | nil => exact ⟨_, htext⟩
      | cons m more =>
        rw [Text.unlines_cons l (List.cons_ne_nil m more)] at htext
        refine eq_cons_of_append_cons ?_ htext
        rintro rfl
        exact absurd hc (by decide)
    refine ⟨c :: u, hl, ?_⟩
    simp only [List.mem_cons, List.not_mem_nil, or_false] at hc
    rcases hc with rfl | rfl | rfl
    · exact ⟨rfl, rfl, rfl⟩
    · exact ⟨rfl, rfl, rfl⟩
    · exact ⟨rfl, rfl, rfl⟩

theorem OpensWithSpan.firstSentenceOfLines? (h : OpensWithSpan ls i name s q after) :
    firstSentenceOfLines? (ls.drop (i + 2)) = some (s.written ++ q.text ++ ['.']) := by
  obtain ⟨c, t, hwritten, hc⟩ := s.exists_written
  have hblank : Unicode.isBlank c = false := by
    simp only [List.mem_cons, List.not_mem_nil, or_false] at hc
    rcases hc with rfl | rfl | rfl <;> decide
  have htext := h.text
  have hends := h.ends
  rw [hwritten, List.cons_append] at htext hends ⊢
  exact firstSentenceOfLines?_of_endsFirstSentence htext hblank hends

theorem OpensWithSpan.isDescribedAs (h : OpensWithSpan ls i name s q after) :
    IsDescribedAs ls i (Entry.kept (convert (s.written ++ q.text ++ ['.']))) := by
  obtain ⟨l, hl, hprose, hentry, hcomment⟩ := h.exists_line
  have hline (p : Text → Bool) : holdsAt p ls (i + 2) = p l := by rw [holdsAt, hl, Option.any_some]
  have hbelow : IsFirstBelow isProseLine ls i (i + 2) := by
    refine ⟨by omega, by rw [hline, hprose], fun j hij hj => ?_⟩
    obtain rfl : j = i + 1 := by omega
    rw [holdsAt, h.empty]
    rfl
  exact .sentence (by rw [hline, hentry]) ((isSearchedBehind_iff_eq (by rw [hline, hcomment])).2 rfl) hbelow
    h.firstSentenceOfLines?

/-- A description that opens with bold text is lost, although the bold text and the sentence are complete. -/
theorem not_entryAt?_of_opensWithSpan :
    ¬ ∀ (ls : List Text) (i : Nat) (name : Text) (s : LeadingSpan) (q : Words) (after : Text),
      OpensWithSpan ls i name s q after → entryAt? ls i = some ⟨name, convert (s.written ++ q.text ++ ['.'])⟩ := by
  intro h
  let ls := ["### `--x`", "", "**Experimental** flag."].map String.toList
  let caption : Caption := ⟨.ofAll "Experimental".toList (by decide), 'E', _, rfl, rfl⟩
  have hopens : OpensWithSpan ls 0 "--x".toList (.bold caption) (.ofAll " flag".toList (by decide)) [] :=
    ⟨⟨_, rfl, ⟨"`--x`".toList, rfl, by decide⟩, by decide⟩, rfl, rfl, by decide⟩
  have hlost : entryAt? ls 0 = some ⟨"--x".toList, Entry.placeholder⟩ := by decide +kernel
  have hsame : Entry.placeholder = convert "**Experimental** flag.".toList :=
    congrArg Entry.description (Option.some.inj (hlost.symm.trans (h ls 0 _ _ _ _ hopens)))
  have hconvert : convert "**Experimental** flag.".toList = ".B Experimental flag.".toList := by decide +kernel
  exact absurd (hsame.trans hconvert) (by decide)

/-- **Descriptions that open with markup.**  If the first sentence below a heading opens with a stretch in backticks, or
with a link that stands on one line, then the entry is described by the sentence as it is converted.  If it opens with
bold text, or with a link that goes on behind the end of a line, then it is discarded for the placeholder. -/
theorem entryAt?_of_opensWithSpan (h : OpensWithSpan ls i name s q after) :
    entryAt? ls i =
      some ⟨name, if s.isKept then convert (s.written ++ q.text ++ ['.']) else Entry.placeholder⟩ := by
  have hrear : '*' ∉ q.text ++ ['.'] := by simp [q.not_mem (c := '*') (by decide)]
  have hprose := startsLikeProse_convert_append s hrear
  rw [← List.append_assoc] at hprose
  obtain ⟨l, hl, hheading, hname⟩ := h.heading
  refine entryAt?_eq_some_iff.2 ⟨l, hl, hheading, hname, ?_⟩
  rw [← hprose]
  exact h.isDescribedAs

/-- Code that holds the end of a sentence, a link with a sentence in the title of its target, and a link whose label
goes on behind the end of its line. -/
theorem entryAt?_of_three_openings :
    entryAt? (["### `-a`", "", "`Run. x` is run. More."].map String.toList) 0 =
        some ⟨"-a".toList, "\"Run. x\" is run.".toList⟩ ∧
      entryAt? (["### `-b`", "", "[Docs](to \"A. B\") say", "so."].map String.toList) 0 =
        some ⟨"-b".toList, "Docs say\nso.".toList⟩ ∧
      entryAt? (["### `-c`", "", "[Long", "label][to] here."].map String.toList) 0 =
        some ⟨"-c".toList, Entry.placeholder⟩ := by
  let run : Caption := ⟨.ofAll "Run. x".toList (by decide), 'R', _, rfl, rfl⟩
  let docs : Caption := ⟨.ofAll "Docs".toList (by decide), 'D', _, rfl, rfl⟩
  let title : Destination := ⟨'(', "to \"A. B\"".toList, ')', by decide, by decide, by decide⟩
  let long : Caption := ⟨.ofAll "Long\nlabel".toList (by decide), 'L', _, rfl, rfl⟩
  let plain : Destination := ⟨'[', "to".toList, ']', by decide, by decide, by decide⟩
  have hcode : OpensWithSpan (["### `-a`", "", "`Run. x` is run. More."].map String.toList) 0 "-a".toList (.code run)
      (.ofAll " is run".toList (by decide)) " More.".toList :=
    ⟨⟨_, rfl, ⟨"`-a`".toList, rfl, by decide⟩, by decide⟩, rfl, rfl, by decide⟩
  have hlink : OpensWithSpan (["### `-b`", "", "[Docs](to \"A. B\") say", "so."].map String.toList) 0 "-b".toList
      (.link docs title) (.ofAll " say\nso".toList (by decide)) [] :=
    ⟨⟨_, rfl, ⟨"`-b`".toList, rfl, by decide⟩, by decide⟩, rfl, rfl, by decide⟩
  have hbroken : OpensWithSpan (["### `-c`", "", "[Long", "label][to] here."].map String.toList) 0 "-c".toList
      (.link long plain) (.ofAll " here".toList (by decide)) [] :=
    ⟨⟨_, rfl, ⟨"`-c`".toList, rfl, by decide⟩, by decide⟩, rfl, rfl, by decide⟩
  have hrun : convert "`Run. x` is run.".toList = "\"Run. x\" is run.".toList := by decide +kernel
  have hdocs : convert "[Docs](to \"A. B\") say\nso.".toList = "Docs say\nso.".toList := by decide +kernel
  exact ⟨(entryAt?_of_opensWithSpan hcode).trans (congrArg (fun t => some (Entry.mk _ t)) hrun),
    (entryAt?_of_opensWithSpan hlink).trans (congrArg (fun t => some (Entry.mk _ t)) hdocs),
    entryAt?_of_opensWithSpan hbroken⟩

end Manpage
