import Manpage.Proofs.Page.ControlLines

/-!
# Reading the line of an item

The line of a flag's item gives every spelling of the flag in words with single spaces between them: two words for a
spelling without a value, seven for one with a value, and a comma between two spellings.  The third word tells which it
is, whatever the other words are; so the spellings can be read back from the line.

* `Flag.shown` — what the page shows of a spelling, and `Flag.contents`, of all spellings in a name;
* `Flag.words`, `Flag.headWords` — the words for a spelling and for a list of them; `joined_headWords`: the line is made
  of them, and `trimEnd_joined_text`: trimming it can only leave out a last word that is empty;
* `Flag.ofWords` — the reader; `ofWords_headWords`: it finds the spellings in their words, `ofWords_flagHead`: and those
  of a name in its line;
* `contents_eq_of_item_lines_eq` — so two items with the same line show the same spellings.
-/

namespace Manpage.Flag

open Unicode

/-! ### What the page shows -/

/-- What the page shows of a spelling: its name less a dash, and its value if there is one. -/
def shown (flag : Text) : Text × Option Text :=
  (dropDash (stem flag), Text.after? " Ns = Ns Ar ".toList (valueText flag))

/-- What the page shows of each spelling in a name. -/
def contents (name : Text) : List (Text × Option Text) := (aliases name).map shown

theorem shown_eq (flag : Text) : shown flag = (dropDash (stem flag), value? flag) := by
  unfold shown valueText
  cases value? flag with
  | none => rfl
  | some v => rw [Text.after?_append]

/-! ### Words -/

/-- The words for a spelling. -/
def words : Text × Option Text → List Text
  | (s, none) => ["Fl".toList, s]
  | (s, some v) => ["Fl".toList, s, "Ns".toList, "=".toList, "Ns".toList, "Ar".toList, v]

/-- The words for a list of spellings, with commas between them. -/
def headWords : List (Text × Option Text) → List Text
  | [] => []
  | [x] => words x
  | x :: y :: xs => words x ++ [','] :: headWords (y :: xs)

theorem words_ne_nil (x : Text × Option Text) : words x ≠ [] := by
  obtain ⟨s, _ | v⟩ := x <;> exact List.cons_ne_nil _ _

theorem headWords_cons_ne_nil (x : Text × Option Text) (xs : List (Text × Option Text)) :
    headWords (x :: xs) ≠ [] := by
  cases xs with
  | nil => exact words_ne_nil x
  | cons y xs => exact List.append_ne_nil_of_left_ne_nil (words_ne_nil x) _

theorem text_eq_joined_words (flag : Text) : text flag = Text.joined [' '] (words (shown flag)) := by
  rw [shown_eq, text, valueText]
  cases value? flag with
  | none => simp [words, Text.joined]
  | some v => simp [words, Text.joined]

/-- The spellings of a name are written in their words. -/
theorem joined_headWords {spellings : List Text} (hne : spellings ≠ []) :
    Text.joined " , ".toList (spellings.map text) = Text.joined [' '] (headWords (spellings.map shown)) := by
  induction spellings with
  | nil => exact absurd rfl hne
  | cons a spellings ih =>
    cases spellings with
    | nil => exact text_eq_joined_words a
    | cons b spellings =>
      have hrest := ih (List.cons_ne_nil b spellings)
      have hwords := headWords_cons_ne_nil (shown b) (spellings.map shown)
      simp only [List.map_cons] at hrest ⊢
      rw [Text.joined, hrest, headWords, Text.joined_append (words_ne_nil _) (List.cons_ne_nil _ _),
        Text.joined_cons _ _ hwords, text_eq_joined_words]
      simp

/-! ### Reading words -/

/-- The spellings that words give: the third word tells a comma from a value, and anything else ends the list. -/
def ofWords : List Text → List (Text × Option Text)
  | _ :: s :: [','] :: ws => (s, none) :: ofWords ws
  | _ :: s :: ['N', 's'] :: _ :: _ :: _ :: v :: [','] :: ws => (s, some v) :: ofWords ws
  | _ :: s :: ['N', 's'] :: _ :: _ :: _ :: v :: _ => [(s, some v)]
  | _ :: s :: _ => [(s, none)]
  | _ => []

/-- The reader finds the spellings in their words, with or without an empty word behind them. -/
theorem ofWords_headWords {xs : List (Text × Option Text)} (hne : xs ≠ []) {rest : List Text}
    (hrest : rest = [] ∨ rest = [[]]) : ofWords (headWords xs ++ rest) = xs := by
  induction xs with
  | nil => exact absurd rfl hne
  | cons x xs ih =>
    obtain ⟨s, value?⟩ := x
    cases xs with
    | nil => cases value? <;> rcases hrest with rfl | rfl <;> rfl
    | cons y xs =>
      have htail := ih (List.cons_ne_nil y xs)
      cases value? with
      | none => exact congrArg ((s, none) :: ·) htail
      | some v => exact congrArg ((s, some v) :: ·) htail

/-! ### Trimmed lines -/

/-- Behind a character that is not white space, trimming takes off a space that nothing follows. -/
theorem trimEnd_word {c : Char} (hc : isBlank c = false) (t : Text) {w : Text} (hw : ∀ d ∈ w, isBlank d = false) :
    Text.trimEnd (t ++ c :: ' ' :: w) = t ++ c :: ' ' :: w ∨
      Text.trimEnd (t ++ c :: ' ' :: w) ++ [' '] = t ++ c :: ' ' :: w := by
  rw [Text.trimEnd_append_cons t hc]
  rcases List.eq_nil_or_concat w with rfl | ⟨u, d, rfl⟩
  · right
    simp [Text.trimEnd, isBlank_space]
  · left
    have hd : isBlank d = false := hw d (by simp)
    rw [List.concat_eq_append, show ' ' :: (u ++ [d]) = (' ' :: u) ++ [d] from rfl,
      Text.trimEnd_append_of_not_blank _ hd]

/-- Whether the only white space in a text are spaces. -/
def OnlySpaces (t : Text) : Prop := ∀ c ∈ t, isBlank c = true → c = ' '

instance (t : Text) : Decidable (OnlySpaces t) :=
  decidable_of_iff (t.all fun c => decide (isBlank c = true → c = ' '))
    (by simp only [OnlySpaces, List.all_eq_true, decide_eq_true_eq])

theorem OnlySpaces.of_mem_aliases {name a : Text} (h : OnlySpaces name) (ha : a ∈ aliases name) : OnlySpaces a :=
  fun c hc => h c (mem_of_mem_aliases ha hc)

theorem OnlySpaces.isBlank_of_not_isBreak {t : Text} (h : OnlySpaces t) {c : Char} (hc : c ∈ t)
    (hbreak : isBreak c = false) : isBlank c = false := by
  refine Bool.eq_false_iff.2 fun hblank => ?_
  rw [h c hc hblank] at hbreak
  exact absurd hbreak (by decide)

/-- In a spelling without other white space than spaces, neither the name nor the value holds any. -/
theorem OnlySpaces.isBlank_of_mem_shown {flag : Text} (h : OnlySpaces flag) :
    (∀ c ∈ (shown flag).1, isBlank c = false) ∧ ∀ v ∈ (shown flag).2, ∀ c ∈ v, isBlank c = false := by
  rw [shown_eq]
  constructor
  · intro c hc
    have hstem := mem_of_mem_dropDash hc
    exact h.isBlank_of_not_isBreak ((isCut_stem flag).mem hstem) (isBreak_of_mem_stem hstem)
  · intro v hv c hc
    exact h.isBlank_of_not_isBreak (mem_of_value? hv hc) (isBreak_of_mem_value? hv hc)

theorem OnlySpaces.trimEnd_text {flag : Text} (h : OnlySpaces flag) :
    Text.trimEnd (text flag) = text flag ∨ Text.trimEnd (text flag) ++ [' '] = text flag := by
  obtain ⟨hname, hvalue⟩ := h.isBlank_of_mem_shown
  rw [shown_eq] at hname hvalue
  rw [text, valueText]
  cases hv : value? flag with
  | none =>
    rw [List.append_nil]
    exact trimEnd_word (c := 'l') (by decide) ['F'] hname
  | some v =>
    have hsplit : "Fl ".toList ++ dropDash (stem flag) ++ (" Ns = Ns Ar ".toList ++ v) =
        ("Fl ".toList ++ dropDash (stem flag) ++ " Ns = Ns A".toList) ++ 'r' :: ' ' :: v := by
      simp
    dsimp only
    rw [hsplit]
    exact trimEnd_word (by decide) _ (hvalue v hv)

/-- Trimming a line takes off no more than a space behind which the last word is empty. -/
theorem trimEnd_joined_text {spellings : List Text} (hne : spellings ≠ []) (h : ∀ a ∈ spellings, OnlySpaces a) :
    Text.trimEnd (Text.joined " , ".toList (spellings.map text)) = Text.joined " , ".toList (spellings.map text) ∨
      Text.trimEnd (Text.joined " , ".toList (spellings.map text)) ++ [' '] =
        Text.joined " , ".toList (spellings.map text) := by
  induction spellings with
  | nil => exact absurd rfl hne
  | cons a spellings ih =>
    cases spellings with
    | nil => exact (h a List.mem_cons_self).trimEnd_text
    | cons b spellings =>
      have hrest := ih (List.cons_ne_nil b spellings) fun x hx => h x (List.mem_cons_of_mem _ hx)
      -- every spelling opens with a letter, so that nothing before the last one is trimmed
      obtain ⟨u, hu⟩ : ∃ u, Text.joined " , ".toList ((b :: spellings).map text) = 'F' :: u := by
        rw [List.map_cons, Text.joined_cons_eq_flatMap]
        exact ⟨_, rfl⟩
      rw [hu] at hrest
      have hF : Text.trimEnd ('F' :: u) = 'F' :: Text.trimEnd u := Text.trimEnd_append_cons [] (by decide) u
      rw [hF] at hrest
      rw [List.map_cons, Text.joined_cons _ _ (by simp), hu, Text.trimEnd_append_cons _ (by decide)]
      rcases hrest with hrest | hrest
      · left
        rw [hrest]
      · right
        rw [List.append_assoc, hrest]

/-! ### Reading lines -/

theorem space_not_mem_words {x : Text × Option Text} (hname : ' ' ∉ x.1) (hvalue : ∀ v ∈ x.2, ' ' ∉ v) :
    ∀ w ∈ words x, ' ' ∉ w := by
  obtain ⟨s, _ | v⟩ := x
  · simp only [words, List.forall_mem_cons]
    exact ⟨by decide, hname, fun w hw => absurd hw List.not_mem_nil⟩
  · simp only [words, List.forall_mem_cons]
    exact ⟨by decide, hname, by decide, by decide, by decide, by decide, hvalue v rfl,
      fun w hw => absurd hw List.not_mem_nil⟩

theorem space_not_mem_headWords {xs : List (Text × Option Text)} (h : ∀ x ∈ xs, ∀ w ∈ words x, ' ' ∉ w) :
    ∀ w ∈ headWords xs, ' ' ∉ w := by
  induction xs with
  | nil => exact fun w hw => absurd hw List.not_mem_nil
  | cons x xs ih =>
    have hx := h x List.mem_cons_self
    cases xs with
    | nil => exact hx
    | cons y xs =>
      have hrest := ih fun z hz => h z (List.mem_cons_of_mem _ hz)
      intro w hw
      rcases List.mem_append.1 hw with hw | hw
      · exact hx w hw
      · rcases List.mem_cons.1 hw with rfl | hw
        · decide
        · exact hrest w hw

theorem pieces_joined_text {name : Text} (h : OnlySpaces name) :
    Text.pieces ' ' (Text.joined " , ".toList ((aliases name).map text)) = headWords (contents name) := by
  have hne := aliases_ne_nil name
  rw [joined_headWords hne, contents]
  have hcontents : (aliases name).map shown ≠ [] := by simpa using hne
  obtain ⟨x, xs, hx⟩ := List.exists_cons_of_ne_nil hcontents
  refine Text.pieces_joined (by rw [hx]; exact headWords_cons_ne_nil x xs) (space_not_mem_headWords ?_)
  intro y hy
  obtain ⟨a, ha, rfl⟩ := List.mem_map.1 hy
  obtain ⟨hname, hvalue⟩ := (h.of_mem_aliases ha).isBlank_of_mem_shown
  refine space_not_mem_words (fun hmem => ?_) (fun v hv hmem => ?_)
  · exact absurd (hname ' ' hmem) (by decide)
  · exact absurd (hvalue v hv ' ' hmem) (by decide)

/-- The reader finds in the line of a name what the page shows of its spellings. -/
theorem ofWords_flagHead {name : Text} (h : OnlySpaces name) :
    ofWords (Text.pieces ' ' (Page.flagHead name ++ [' '])) = contents name := by
  have hne := aliases_ne_nil name
  have hcontents : contents name ≠ [] := by simpa [contents] using hne
  have hpieces := pieces_joined_text h
  have htrim := trimEnd_joined_text hne fun a ha => h.of_mem_aliases ha
  rw [Page.flagHead, Text.trim, Page.trimStart_joined_text]
  rcases htrim with htrim | htrim
  · rw [htrim, Text.pieces_append_cons, hpieces]
    exact ofWords_headWords hcontents (Or.inr rfl)
  · rw [htrim, hpieces]
    have hread := ofWords_headWords hcontents (Or.inl rfl)
    rwa [List.append_nil] at hread

end Manpage.Flag

namespace Manpage.Page

open Manpage.Flag

theorem head?_lines_flagItem {e : Entry} (h : '\n' ∉ e.name) :
    (Text.lines (flagItem e)).head? = some (".It ".toList ++ flagHead e.name) := by
  have hhead := lineFeed_not_mem_flagHead h
  have hline : '\n' ∉ ".It ".toList ++ flagHead e.name := by
    rw [List.mem_append, not_or]
    exact ⟨by decide, hhead⟩
  show (Text.pieces '\n' (".It ".toList ++ flagHead e.name ++ '\n' :: e.description)).head? = _
  rw [Text.pieces_append hline, List.head?_cons]

/-- **The line of an item tells what it shows.**  Let two entries have names in which no other white space than spaces
stands.  If their items open with the same line, then they have equally many spellings, and in the same order these show
the same names and the same values, if any. -/
theorem contents_eq_of_item_lines_eq {d e : Entry} (hd : OnlySpaces d.name) (he : OnlySpaces e.name)
    (h : (Text.lines (flagItem d)).head? = (Text.lines (flagItem e)).head?) :
    contents d.name = contents e.name ∧ (aliases d.name).length = (aliases e.name).length := by
  have hlf {name : Text} (hname : OnlySpaces name) : '\n' ∉ name :=
    fun hmem => absurd (hname '\n' hmem (by decide)) (by decide)
  rw [head?_lines_flagItem (hlf hd), head?_lines_flagItem (hlf he), Option.some.injEq,
    List.append_cancel_left_eq] at h
  have hcontents : contents d.name = contents e.name := by
    rw [← ofWords_flagHead hd, h, ofWords_flagHead he]
  refine ⟨hcontents, ?_⟩
  simpa [contents] using congrArg List.length hcontents

/-- Two names with the same line, which ends in a spelling without a name: they differ in what the page does not show. -/
theorem contents_of_same_line :
    let d : Entry := ⟨"-C condition, --conditions[=condition], -".toList, "Adds one.".toList⟩
    let e : Entry := ⟨"-C, --conditions=condition, ".toList, "Adds another.".toList⟩
    (Text.lines (flagItem d)).head? = some ".It Fl C , Fl -conditions Ns = Ns Ar condition , Fl".toList ∧
      (Text.lines (flagItem e)).head? = (Text.lines (flagItem d)).head? ∧
      contents d.name = [(['C'], none), ("-conditions".toList, some "condition".toList), ([], none)] ∧
      contents e.name = contents d.name ∧ (aliases e.name).length = 3 := by
  intro d e
  have hline : (Text.lines (flagItem e)).head? = (Text.lines (flagItem d)).head? := by decide +kernel
  obtain ⟨hcontents, hlength⟩ := contents_eq_of_item_lines_eq (by decide) (by decide) hline
  exact ⟨by decide +kernel, hline, by decide, hcontents, hlength⟩

end Manpage.Page
