import Manpage.Page.Items
import Manpage.Proofs.Page.Coverage
import Manpage.Proofs.Prose.Lines
import Manpage.Proofs.Reference.Contents
import Manpage.Proofs.Reference.Layout

/-!
# Requests in a list

A formatter takes a line for a request if it starts with a period or an apostrophe.  A list body is made of such lines
at the heads of its items and between them; descriptions, which nothing escapes, can hold more.

* `isControlLine`, `controlLines` — the lines that are taken for requests;
* `controlLines_itemList` — those of a list body are the heads of its items, the lone periods, and those of the
  descriptions;
* `isControlLine_convert` — a converted line is one exactly if the line was, unless markup opens the line;
* `controlLines_items` — so the requests in the two lists of a document are accounted for by its sentences, and
  `not_only_items` is a document with more of them than its items and lone periods.
-/

namespace Manpage

/-! ### Lines of prose -/

/-- Whether a line starts with one of the characters that make it a request. -/
def isControlLine (l : Text) : Bool := l.head?.any fun c => c = '.' || c = '\x27'

/-- Whether a line starts with a character at which markup opens. -/
def opensWithMarkup (l : Text) : Bool := l.head?.any (!Prose.opensNoMarkup ·)

/-- A line that markup does not open is a request in its converted form exactly if it was one. -/
theorem isControlLine_convert {l : Text} (h : opensWithMarkup l = false) :
    isControlLine (Prose.convert l) = isControlLine l := by
  cases l with
  | nil => rw [Prose.convert_of_not_mem List.not_mem_nil List.not_mem_nil List.not_mem_nil]
  | cons c l =>
    have hc : Prose.opensNoMarkup c = true := by simpa [opensWithMarkup] using h
    rw [isControlLine, isControlLine, Prose.head?_convert hc, List.head?_cons]

theorem head?_ne_period_of_startsLikeProse {t : Text} (h : Entry.startsLikeProse t = true) : t.head? ≠ some '.' := by
  cases t with
  | nil => simp
  | cons c t =>
    intro hc
    obtain rfl := Option.some.inj hc
    exact Bool.false_ne_true h

/-- The sentence from which the description of an entry is taken. -/
def IsSentenceOf (ls : List Text) (e : Entry) (s : Text) : Prop :=
  ∃ i c d, entryAt? ls i = some e ∧ IsSearchedBehind ls i c ∧ IsFirstBelow isProseLine ls c d ∧
    Prose.firstSentenceOfLines? (ls.drop d) = some s

/-- A description is the placeholder or, line for line, the conversion of a sentence that starts like prose. -/
theorem description_eq_or {ls : List Text} {i : Nat} {e : Entry} (h : entryAt? ls i = some e) :
    e.description = Entry.placeholder ∨
      ∃ s, IsSentenceOf ls e s ∧ Entry.startsLikeProse e.description = true ∧
        Text.lines e.description = (Text.lines s).map Prose.convert := by
  obtain ⟨l, -, -, -, hdescribed⟩ := entryAt?_eq_some_iff.1 h
  generalize e.description = t at hdescribed
  cases hdescribed with
  | placeholder => exact Or.inl rfl
  | @sentence c d s hnext hc hd hs =>
    rw [Entry.kept]
    split
    · next hprose => exact Or.inr ⟨s, ⟨i, c, d, h, hc, hd, hs⟩, hprose, Prose.lines_convert s⟩
    · exact Or.inl rfl

namespace Page

/-! ### Lines of a list -/

/-- The lines of a text that are taken for requests, in order. -/
def controlLines (t : Text) : List Text := (Text.lines t).filter isControlLine

theorem controlLines_append_lineFeed (t u : Text) :
    controlLines (t ++ '\n' :: u) = controlLines t ++ controlLines u := by
  rw [controlLines, Text.lines_append_lineFeed, List.filter_append, controlLines, controlLines]

/-- A line that is a request is the first request of what it opens. -/
theorem controlLines_request {l : Text} (hline : '\n' ∉ l) (hcontrol : isControlLine l = true) (t : Text) :
    controlLines (l ++ '\n' :: t) = l :: controlLines t := by
  rw [controlLines_append_lineFeed, controlLines, Text.lines, Text.pieces_of_not_mem hline,
    List.filter_cons_of_pos hcontrol, List.filter_nil, List.singleton_append]

/-- An item opens with a request. -/
theorem controlLines_item {head : Text} (h : '\n' ∉ head) (description : Text) :
    controlLines (item head description) = (".It ".toList ++ head) :: controlLines description := by
  have hline : '\n' ∉ ".It ".toList ++ head := by
    rw [List.mem_append, not_or]
    exact ⟨by decide, h⟩
  exact controlLines_request hline rfl description

theorem controlLines_append_separator (t u : Text) :
    controlLines (t ++ separator ++ u) = controlLines t ++ [['.']] ++ controlLines u := by
  have hperiod : controlLines ('.' :: '\n' :: u) = ['.'] :: controlLines u :=
    controlLines_request (l := ['.']) (by decide) rfl u
  have hsplit : t ++ separator ++ u = t ++ '\n' :: ('.' :: '\n' :: u) := by
    simp only [separator, List.append_assoc, List.cons_append, List.nil_append]
  rw [hsplit, controlLines_append_lineFeed, hperiod, List.append_assoc, List.singleton_append]

theorem controlLines_flatMap_separator (items : List Text) :
    controlLines (items.flatMap (· ++ separator)) = items.flatMap fun t => controlLines t ++ [['.']] := by
  induction items with
  | nil => rfl
  | cons t items ih => rw [List.flatMap_cons, controlLines_append_separator, ih, List.flatMap_cons]

/-- The requests in the list of some entries: for each entry that which opens its item, those in its description, and
a lone period; a lone period for no entries. -/
def listRequests (head : Text → Text) : List Entry → List Text
  | [] => [['.']]
  | e :: es => (e :: es).flatMap fun e => (".It ".toList ++ head e.name) :: controlLines e.description ++ [['.']]

/-- A list body holds these requests, as long as no head spreads over lines. -/
theorem controlLines_itemList {head : Text → Text} {es : List Entry} (h : ∀ e ∈ es, '\n' ∉ head e.name) :
    controlLines (itemList (es.map fun e => item (head e.name) e.description)) = listRequests head es := by
  cases es with
  | nil => rfl
  | cons e es =>
    rw [itemList, Text.joined_append_self separator (by simp), controlLines_flatMap_separator, List.flatMap_map,
      listRequests]
    refine List.flatMap_congr ?_
    intro d hd
    rw [controlLines_item (h d hd)]

/-! ### Heads -/

/-- The characters that the head of an item adds to a name. -/
def headMarks : Text := Flag.marks ++ " ,Ev".toList

theorem mem_flagHead {name : Text} {c : Char} (h : c ∈ flagHead name) : c ∈ name ∨ c ∈ headMarks := by
  have hcomma : " , ".toList ⊆ headMarks := by decide
  rcases Text.mem_of_mem_joined (Text.mem_of_mem_trim h) with hsep | ⟨t, ht, h⟩
  · exact Or.inr (hcomma hsep)
  · obtain ⟨a, ha, rfl⟩ := List.mem_map.1 ht
    exact (Flag.mem_text h).imp (Flag.mem_of_mem_aliases ha) (List.mem_append_left _)

theorem mem_variableHead {name : Text} {c : Char} (h : c ∈ variableHead name) : c ∈ name ∨ c ∈ headMarks := by
  have hopening : "Ev ".toList ⊆ headMarks := by decide
  have hvalue : " Ar ".toList ⊆ headMarks := by decide
  unfold variableHead at h
  split at h
  · next stem value rest hpieces =>
    have hpart : ∀ p ∈ stem :: value :: rest, c ∈ p → c ∈ name :=
      fun p hp hmem => Text.mem_of_mem_pieces (hpieces ▸ hp) hmem
    rcases List.mem_append.1 h with h | h
    · exact (List.mem_append.1 h).symm.imp (hpart stem List.mem_cons_self) (hopening ·)
    · split at h
      · exact absurd h List.not_mem_nil
      · exact (List.mem_append.1 h).symm.imp (hpart value (List.mem_cons_of_mem _ List.mem_cons_self)) (hvalue ·)
  · exact (List.mem_append.1 h).symm.imp_right (hopening ·)

theorem lineFeed_not_mem_flagHead {name : Text} (h : '\n' ∉ name) : '\n' ∉ flagHead name :=
  fun hmem => (mem_flagHead hmem).elim h (by decide)

theorem lineFeed_not_mem_variableHead {name : Text} (h : '\n' ∉ name) : '\n' ∉ variableHead name :=
  fun hmem => (mem_variableHead hmem).elim h (by decide)

/-- The name of an entry stands in one line of the document. -/
theorem lineFeed_not_mem_name_of_mem {s : Section} {source : Text} {t : Tables}
    (h : extract s (Text.lines source) = .ok t) {e : Entry} (he : e ∈ t.flags ++ t.environment) : '\n' ∉ e.name := by
  obtain ⟨i, hi⟩ := exists_entryAt?_of_mem h he
  obtain ⟨l, hl, hname⟩ := exists_nameOf?_of_entryAt? hi
  exact lineFeed_not_mem_name hname (Text.not_mem_of_mem_pieces hl)

/-! ### The lists of a document -/

/-- **The requests in the two lists.**  In the list of a table the lines that are taken for requests are the head of
each item, in the order of the table, those of its description, and a lone period behind it.  A description is the
placeholder or a converted sentence.  It never starts with a period, and a line of it is taken for a request exactly if
the line of the sentence was one, unless markup opens that line. -/
theorem controlLines_items {s : Section} {source : Text} {t : Tables} (h : extract s (Text.lines source) = .ok t) :
    controlLines (flagItems t.flags) = listRequests flagHead t.flags ∧
      controlLines (variableItems t.environment) = listRequests variableHead t.environment ∧
      ∀ e ∈ t.flags ++ t.environment, e.description.head? ≠ some '.' ∧
        (e.description = Entry.placeholder ∨ ∃ sentence, IsSentenceOf (Text.lines source) e sentence ∧
          Text.lines e.description = (Text.lines sentence).map Prose.convert ∧
          ∀ l ∈ Text.lines sentence,
            opensWithMarkup l = true ∨ isControlLine (Prose.convert l) = isControlLine l) := by
  refine ⟨controlLines_itemList ?_, controlLines_itemList ?_, ?_⟩
  · intro e he
    exact lineFeed_not_mem_flagHead (lineFeed_not_mem_name_of_mem h (List.mem_append_left _ he))
  · intro e he
    exact lineFeed_not_mem_variableHead (lineFeed_not_mem_name_of_mem h (List.mem_append_right _ he))
  · intro e he
    obtain ⟨i, hi⟩ := exists_entryAt?_of_mem h he
    rcases description_eq_or hi with hplaceholder | ⟨sentence, hsentence, hprose, hlines⟩
    · exact ⟨by rw [hplaceholder]; decide, Or.inl hplaceholder⟩
    · refine ⟨head?_ne_period_of_startsLikeProse hprose, Or.inr ⟨sentence, hsentence, hlines, ?_⟩⟩
      intro l _
      cases hmarkup : opensWithMarkup l with
      | true => exact Or.inl rfl
      | false => exact Or.inr (isControlLine_convert hmarkup)

/-- A sentence whose second line opens with a bold span. -/
theorem extract_bold_line :
    extract .other (Text.lines "## Options\n\n### `--x`\n\nDoes x\n**at once** or later.".toList) =
      .ok ⟨[⟨"--x".toList, "Does x\n.B at once or later.".toList⟩], []⟩ := by
  decide +kernel

/-- The bold span puts a request among those of the list. -/
theorem controlLines_of_bold_line :
    ∃ t, extract .other (Text.lines "## Options\n\n### `--x`\n\nDoes x\n**at once** or later.".toList) = .ok t ∧
      controlLines (flagItems t.flags) = [".It Fl -x", ".B at once or later.", "."].map String.toList ∧
      controlLines (variableItems t.environment) = [['.']] := by
  obtain ⟨hflags, hvariables, -⟩ := controlLines_items extract_bold_line
  exact ⟨_, extract_bold_line, hflags.trans (by decide), hvariables⟩

/-- The requests in a list are not only those that open its items and the lone periods between them. -/
theorem not_only_items :
    ¬ ∀ s source t, extract s (Text.lines source) = .ok t →
      ∀ l ∈ controlLines (flagItems t.flags) ++ controlLines (variableItems t.environment),
        l = ['.'] ∨ Text.opensWith ".It ".toList l = true := by
  intro h
  have hline : ".B at once or later.".toList ∈
      controlLines (flagItems [⟨"--x".toList, "Does x\n.B at once or later.".toList⟩]) ++
        controlLines (variableItems []) := by
    decide +kernel
  have hreading := h .other _ _ extract_bold_line _ hline
  exact absurd hreading (by decide)

end Page

end Manpage
