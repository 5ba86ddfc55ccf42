import Manpage.Proofs.Prose.Markup

/-!
# Markup line by line

A span of markup begins and ends on one line.  So the conversion of a text is the conversion of its lines.

* `IsLinewise` — a rewriting that does not see past a line feed, so that it rewrites each line of a text on its own;
* `convert_append_lineFeed` — the conversion is one; each pass is shown to have this property first, and before it each
  search for the end of a span;
* `mem_convert` — the conversion adds no characters but those of `.B ` and double quotes;
* `lines_convert` — the lines of a converted text are the converted lines;
* `convert_unlines_eq` — so joined lines are converted by joining what each of them is converted into;
* `head?_convert` — a line keeps its first character, unless markup may open there;
* `getLast?_convert` — a text keeps its last character, unless markup may close there.
-/

namespace Manpage.Prose

/-! ### Spans -/

/-- A text that opens with another character than the one behind its front part opens with that part. -/
theorem eq_cons_of_append_cons {t u v : Text} {c d : Char} (hc : c ≠ d) (h : t ++ d :: u = c :: v) :
    ∃ w, t = c :: w := by
  cases t with
  | nil => exact absurd (List.cons.inj h).1.symm hc
  | cons d t => exact ⟨t, by rw [(List.cons.inj h).1]⟩

theorem boldSpan?_append_lineFeed (t u : Text) :
    boldSpan? (t ++ '\n' :: u) = (boldSpan? t).map fun p => (p.1, p.2 ++ '\n' :: u) := by
  fun_induction boldSpan? t with
  | case1 t => rfl
  | case2 t hstar => simp [boldSpan?]
  | case3 c t hstar hc ih =>
    rw [List.cons_append, boldSpan?, if_neg hc, ih, Option.map_map, Option.map_map]
    · rfl
    · intro v hcv hv
      obtain ⟨w, hw⟩ := eq_cons_of_append_cons (by decide) hv
      exact hstar w hcv hw
  | case4 => rfl

theorem label?_cons_of_ne {c : Char} (hbracket : c ≠ ']') (hline : c ≠ '\n') (t : Text) :
    label? (c :: t) = (label? t).map fun p => (c :: p.1, p.2) := by
  rw [label?, if_neg hline]
  intro d v hc
  exact absurd hc hbracket

theorem label?_append_lineFeed (t u : Text) :
    label? (t ++ '\n' :: u) = (label? t).map fun p => (p.1, p.2 ++ '\n' :: u) := by
  fun_induction label? t with
  | case1 c t hc => simp [label?, hc]
  | case2 c t hc ih =>
    rw [List.cons_append] at ih
    rw [List.cons_append, List.cons_append, label?, if_neg hc, ih, Option.map_map, Option.map_map]
    rfl
  | case3 t hbracket => simp [label?]
  | case4 c t hbracket hline ih =>
    by_cases hc : c = ']'
    · -- a bracket that ends its line closes no label
      have ht : t = [] := by
        cases t with
        | nil => rfl
        | cons d t => exact absurd rfl (hbracket d t hc)
      subst hc ht
      simp [label?]
    · rw [List.cons_append, label?_cons_of_ne hc hline, ih, Option.map_map, Option.map_map]
      rfl
  | case5 => rfl

theorem afterTarget?_append_lineFeed (t u : Text) :
    afterTarget? (t ++ '\n' :: u) = (afterTarget? t).map (· ++ '\n' :: u) := by
  fun_induction afterTarget? t with
  | case1 => rfl
  | case2 c t hc => simp [afterTarget?, hc]
  | case3 t hc => simp [afterTarget?]
  | case4 c t hc hline ih => rw [List.cons_append, afterTarget?, if_neg hc, if_neg hline, ih]

theorem link?_append_lineFeed (t u : Text) :
    link? (t ++ '\n' :: u) = (link? t).map fun p => (p.1, p.2 ++ '\n' :: u) := by
  rw [link?, link?, label?_append_lineFeed]
  cases label? t with
  | none => rfl
  | some p =>
    simp only [Option.map_some, afterTarget?_append_lineFeed, Option.map_map]
    rfl

/-! ### One step of a pass -/

theorem boldPass_of_boldSpan?_some {t s r : Text} (h : boldSpan? t = some (s, r)) :
    boldPass ('*' :: '*' :: t) = '.' :: 'B' :: ' ' :: s ++ boldPass r := by
  rw [boldPass]
  split
  · next s' r' h' => rw [h] at h'; cases h'; rfl
  · next h' => rw [h] at h'; cases h'

theorem boldPass_of_boldSpan?_none {t : Text} (h : boldSpan? t = none) :
    boldPass ('*' :: '*' :: t) = '*' :: boldPass ('*' :: t) := by
  rw [boldPass]
  split
  · next s' r' h' => rw [h] at h'; cases h'
  · rfl

theorem boldPass_cons {c : Char} {t : Text} (h : ∀ v, c = '*' → t ≠ '*' :: v) : boldPass (c :: t) = c :: boldPass t := by
  rw [boldPass]
  exact h

theorem linkPass_of_link?_some {t s r : Text} (h : link? t = some (s, r)) :
    linkPass ('[' :: t) = s ++ linkPass r := by
  rw [linkPass, if_pos rfl]
  split
  · next s' r' h' => rw [h] at h'; cases h'; rfl
  · next h' => rw [h] at h'; cases h'

theorem linkPass_of_link?_none {t : Text} (h : link? t = none) : linkPass ('[' :: t) = '[' :: linkPass t := by
  rw [linkPass, if_pos rfl]
  split
  · next s' r' h' => rw [h] at h'; cases h'
  · rfl

theorem linkPass_cons {c : Char} (h : c ≠ '[') (t : Text) : linkPass (c :: t) = c :: linkPass t := by
  rw [linkPass, if_neg h]

/-! ### Passes -/

/-- Where no bold span reaches past a character, what stands before it and what stands behind it are rewritten
apart. -/
theorem boldPass_append_cons {c : Char} {u : Text} (hc : c ≠ '*')
    (hspan : ∀ t, boldSpan? (t ++ c :: u) = (boldSpan? t).map fun p => (p.1, p.2 ++ c :: u)) (t : Text) :
    boldPass (t ++ c :: u) = boldPass t ++ c :: boldPass u := by
  fun_induction boldPass t with
  | case1 t s r h ih =>
    have hfound : boldSpan? (t ++ c :: u) = some (s, r ++ c :: u) := by rw [hspan, h, Option.map_some]
    rw [List.cons_append, List.cons_append, boldPass_of_boldSpan?_some hfound, ih, List.append_assoc]
  | case2 t h ih =>
    have hnone : boldSpan? (t ++ c :: u) = none := by rw [hspan, h, Option.map_none]
    rw [List.cons_append] at ih
    rw [List.cons_append, List.cons_append, boldPass_of_boldSpan?_none hnone, ih, List.cons_append]
  | case3 d t hstar ih =>
    rw [List.cons_append, boldPass_cons, ih, List.cons_append]
    intro v hd hv
    obtain ⟨w, hw⟩ := eq_cons_of_append_cons hc.symm hv
    exact hstar w hd hw
  | case4 =>
    rw [List.nil_append, List.nil_append]
    exact boldPass_cons fun v heq => absurd heq hc

theorem boldPass_append_lineFeed (t u : Text) : boldPass (t ++ '\n' :: u) = boldPass t ++ '\n' :: boldPass u :=
  boldPass_append_cons (by decide) (fun t => boldSpan?_append_lineFeed t u) t

theorem linkPass_append_lineFeed (t u : Text) : linkPass (t ++ '\n' :: u) = linkPass t ++ '\n' :: linkPass u := by
  fun_induction linkPass t with
  | case1 => exact linkPass_cons (by decide) u
  | case2 t s r h ih =>
    have hlink : link? (t ++ '\n' :: u) = some (s, r ++ '\n' :: u) := by
      rw [link?_append_lineFeed, h, Option.map_some]
    rw [List.cons_append, linkPass_of_link?_some hlink, ih, List.append_assoc]
  | case3 t h ih =>
    have hlink : link? (t ++ '\n' :: u) = none := by
      rw [link?_append_lineFeed, h, Option.map_none]
    rw [List.cons_append, linkPass_of_link?_none hlink, ih, List.cons_append]
  | case4 c t hc ih => rw [List.cons_append, linkPass_cons hc, ih, List.cons_append]

/-- A line feed stays where it is, and what follows it is converted on its own. -/
theorem openingPass_lineFeed (u : Text) : openingPass ('\n' :: u) = '\n' :: openingPass u := by
  cases u with
  | nil => rfl
  | cons d u => rfl

theorem openingPass_append_lineFeed (t u : Text) :
    openingPass (t ++ '\n' :: u) = openingPass t ++ '\n' :: openingPass u := by
  fun_induction openingPass t with
  | case1 c d t hc ih =>
    rw [List.cons_append, List.cons_append, openingPass, if_pos hc, ih, List.cons_append]
  | case2 c d t hc ih =>
    rw [List.cons_append] at ih
    rw [List.cons_append, List.cons_append, openingPass, if_neg hc, ih, List.cons_append]
  | case3 t hshort =>
    match t, hshort with
    | [], _ => exact openingPass_lineFeed u
    | [c], _ =>
      rw [List.singleton_append, openingPass, openingPass_lineFeed]
      simp [isQuotationMark]
    | c :: d :: t, hshort => exact absurd rfl (hshort c d t)

theorem closingPass_lineFeed (u : Text) : closingPass ('\n' :: u) = '\n' :: closingPass u := by
  cases u with
  | nil => rfl
  | cons d u => rfl

theorem closingPass_append_lineFeed (t u : Text) :
    closingPass (t ++ '\n' :: u) = closingPass t ++ '\n' :: closingPass u := by
  fun_induction closingPass t with
  | case1 c d t hc ih =>
    rw [List.cons_append, List.cons_append, closingPass, if_pos hc, ih, List.cons_append]
  | case2 c d t hc ih =>
    rw [List.cons_append] at ih
    rw [List.cons_append, List.cons_append, closingPass, if_neg hc, ih, List.cons_append]
  | case3 t hshort =>
    match t, hshort with
    | [], _ => exact closingPass_lineFeed u
    | [c], _ =>
      rw [List.singleton_append, closingPass, closingPass_lineFeed]
      simp
    | c :: d :: t, hshort => exact absurd rfl (hshort c d t)

/-- What stands on different lines is converted apart. -/
theorem convert_append_lineFeed (t u : Text) : convert (t ++ '\n' :: u) = convert t ++ '\n' :: convert u := by
  rw [convert, boldPass_append_lineFeed, linkPass_append_lineFeed, openingPass_append_lineFeed,
    closingPass_append_lineFeed, List.map_append, List.map_cons]
  rfl

/-! ### Rewriting line by line -/

/-- A rewriting of texts that treats what stands on different lines apart. -/
structure IsLinewise (f : Text → Text) : Prop where
  nil : f [] = []
  append_lineFeed : ∀ t u, f (t ++ '\n' :: u) = f t ++ '\n' :: f u

/-- Joined lines are rewritten by joining what each of them is rewritten into. -/
theorem IsLinewise.unlines {f : Text → Text} (hf : IsLinewise f) (ls : List Text) :
    f (Text.unlines ls) = Text.unlines (ls.map f) := by
  induction ls with
  | nil => exact hf.nil
  | cons l ls ih =>
    cases ls with
    | nil => rfl
    | cons m ls =>
      have hne : (m :: ls).map f ≠ [] := List.cons_ne_nil (f m) (ls.map f)
      rw [Text.unlines_cons l (List.cons_ne_nil m ls), hf.append_lineFeed, ih]
      exact (Text.unlines_cons (f l) hne).symm

/-- A rewriting by lines that adds no line feed keeps the lines of a text in their places. -/
theorem IsLinewise.lines {f : Text → Text} (hf : IsLinewise f) (hfeed : ∀ l, '\n' ∉ l → '\n' ∉ f l) (t : Text) :
    Text.lines (f t) = (Text.lines t).map f := by
  have hne : (Text.lines t).map f ≠ [] := mt List.map_eq_nil_iff.1 (Text.pieces_ne_nil '\n' t)
  have hfree : ∀ l ∈ (Text.lines t).map f, '\n' ∉ l := by
    intro l hl
    obtain ⟨m, hm, rfl⟩ := List.mem_map.1 hl
    exact hfeed m (Text.not_mem_of_mem_pieces hm)
  calc Text.lines (f t)
      = Text.lines (f (Text.unlines (Text.lines t))) := by rw [Text.unlines_lines]
    _ = Text.lines (Text.unlines ((Text.lines t).map f)) := by rw [hf.unlines]
    _ = (Text.lines t).map f := Text.lines_unlines hne hfree

theorem isLinewise_convert : IsLinewise convert where
  nil := by rw [convert, boldPass, linkPass]; rfl
  append_lineFeed := convert_append_lineFeed

/-! ### The characters of a converted text -/

/-- A bold span is all text of its line up to the mark that closes it. -/
theorem eq_append_of_boldSpan? {t s r : Text} (h : boldSpan? t = some (s, r)) :
    t = s ++ '*' :: '*' :: r ∧ '\n' ∉ s := by
  fun_induction boldSpan? t generalizing s r with
  | case1 t => cases h; exact ⟨rfl, List.not_mem_nil⟩
  | case2 => cases h
  | case3 c t _ hline ih =>
    obtain ⟨⟨s', r'⟩, hspan, heq⟩ := Option.map_eq_some_iff.1 h
    cases heq
    obtain ⟨rfl, hs⟩ := ih hspan
    exact ⟨rfl, List.not_mem_cons_of_ne_of_not_mem (Ne.symm hline) hs⟩
  | case4 => cases h

/-- A label is all text of its line up to the two brackets behind it. -/
theorem eq_append_of_label? {t s r : Text} (h : label? t = some (s, r)) :
    ∃ c, t = s ++ ']' :: c :: r ∧ (c = '(' ∨ c = '[') ∧ '\n' ∉ s := by
  fun_induction label? t generalizing s r with
  | case1 c t hc =>
    cases h
    exact ⟨c, rfl, by simpa using hc, List.not_mem_nil⟩
  | case2 c t hc ih =>
    obtain ⟨⟨s', r'⟩, hlabel, heq⟩ := Option.map_eq_some_iff.1 h
    cases heq
    obtain ⟨d, hd, hbracket, hs⟩ := ih hlabel
    exact ⟨d, by rw [hd, List.cons_append], hbracket, List.not_mem_cons_of_ne_of_not_mem (by decide) hs⟩
  | case3 => cases h
  | case4 c t _ hline ih =>
    obtain ⟨⟨s', r'⟩, hlabel, heq⟩ := Option.map_eq_some_iff.1 h
    cases heq
    obtain ⟨d, rfl, hbracket, hs⟩ := ih hlabel
    exact ⟨d, rfl, hbracket, List.not_mem_cons_of_ne_of_not_mem (Ne.symm hline) hs⟩
  | case5 => cases h

/-- A target is all text of its line up to the bracket behind it. -/
theorem eq_append_of_afterTarget? {t r : Text} (h : afterTarget? t = some r) :
    ∃ m c, t = m ++ c :: r ∧ (c = ')' ∨ c = ']') ∧ '\n' ∉ m := by
  fun_induction afterTarget? t with
  | case1 => cases h
  | case2 c t hc =>
    cases h
    exact ⟨[], c, rfl, by simpa using hc, List.not_mem_nil⟩
  | case3 => cases h
  | case4 c t hc hline ih =>
    obtain ⟨m, d, rfl, hd, hm⟩ := ih h
    exact ⟨c :: m, d, rfl, hd, List.not_mem_cons_of_ne_of_not_mem (Ne.symm hline) hm⟩

/-- A link is a label, a target and the brackets around them, all on one line. -/
theorem eq_append_of_link? {t s r : Text} (h : link? t = some (s, r)) :
    ∃ o m k, t = s ++ ']' :: o :: (m ++ k :: r) ∧ (o = '(' ∨ o = '[') ∧ (k = ')' ∨ k = ']') ∧ '\n' ∉ s ∧ '\n' ∉ m := by
  unfold link? at h
  split at h
  · cases h
  · next s' r' hlabel =>
    obtain ⟨r'', htarget, heq⟩ := Option.map_eq_some_iff.1 h
    cases heq
    obtain ⟨o, rfl, ho, hs⟩ := eq_append_of_label? hlabel
    obtain ⟨m, k, rfl, hk, hm⟩ := eq_append_of_afterTarget? htarget
    exact ⟨o, m, k, rfl, ho, hk, hs, hm⟩

theorem mem_boldPass {c : Char} {t : Text} (h : c ∈ boldPass t) : c ∈ t ∨ c ∈ ['.', 'B', ' '] := by
  fun_induction boldPass t with
  | case1 t s r hspan ih =>
    rw [(eq_append_of_boldSpan? hspan).1]
    simp only [List.cons_append, List.mem_cons, List.mem_append] at h ih ⊢
    grind
  | case2 t hspan ih =>
    rcases List.mem_cons.1 h with rfl | h
    · exact Or.inl List.mem_cons_self
    · exact (ih h).imp_left (List.mem_cons_of_mem _)
  | case3 d t hstar ih =>
    rcases List.mem_cons.1 h with rfl | h
    · exact Or.inl List.mem_cons_self
    · exact (ih h).imp_left (List.mem_cons_of_mem _)
  | case4 => exact absurd h List.not_mem_nil

theorem mem_linkPass {c : Char} {t : Text} (h : c ∈ linkPass t) : c ∈ t := by
  fun_induction linkPass t with
  | case1 => exact h
  | case2 t s r hlink ih =>
    obtain ⟨o, m, k, rfl, -⟩ := eq_append_of_link? hlink
    simp only [List.mem_cons, List.mem_append] at h ⊢
    rcases h with h | h
    · exact Or.inr (Or.inl h)
    · exact Or.inr (Or.inr (Or.inr (Or.inr (Or.inr (Or.inr (ih h))))))
  | case3 t hlink ih =>
    rcases List.mem_cons.1 h with rfl | h
    · exact List.mem_cons_self
    · exact List.mem_cons_of_mem _ (ih h)
  | case4 d t hd ih =>
    rcases List.mem_cons.1 h with rfl | h
    · exact List.mem_cons_self
    · exact List.mem_cons_of_mem _ (ih h)

theorem openingPass_sublist (t : Text) : (openingPass t).Sublist t := by
  fun_induction openingPass t with
  | case1 c d t hc ih => exact (ih.cons_cons d).cons c
  | case2 c d t hc ih => exact ih.cons_cons c
  | case3 t => exact List.Sublist.refl t

theorem closingPass_sublist (t : Text) : (closingPass t).Sublist t := by
  fun_induction closingPass t with
  | case1 c d t hc ih => exact (ih.cons d).cons_cons c
  | case2 c d t hc ih => exact ih.cons_cons c
  | case3 t => exact List.Sublist.refl t

/-- A converted text is made of characters of the text, of `.B ` and of double quotes. -/
theorem mem_convert {c : Char} {t : Text} (h : c ∈ convert t) : c ∈ t ∨ c ∈ ['.', 'B', ' ', '\x22'] := by
  obtain ⟨d, hd, rfl⟩ := List.mem_map.1 h
  have hbold := mem_boldPass (mem_linkPass ((openingPass_sublist _).mem ((closingPass_sublist _).mem hd)))
  rw [plainQuote]
  split
  · exact Or.inr (by decide)
  · simp only [List.mem_cons, List.not_mem_nil, or_false] at hbold ⊢
    grind

theorem lineFeed_not_mem_convert {t : Text} (h : '\n' ∉ t) : '\n' ∉ convert t := by
  intro hmem
  rcases mem_convert hmem with hmem | hmem
  · exact h hmem
  · exact absurd hmem (by decide)

/-- The lines of a converted text are its lines, converted. -/
theorem lines_convert (t : Text) : Text.lines (convert t) = (Text.lines t).map convert :=
  isLinewise_convert.lines (fun _ => lineFeed_not_mem_convert) t

/-- **Conversion line by line.**  Joined lines are converted by joining what each of them is converted into, for none of
the passes sees past a line feed; and the line breaks of a text stay where they are, each between the conversions of the
lines that it parts. -/
theorem convert_unlines_eq (ls : List Text) :
    convert (Text.unlines ls) = Text.unlines (ls.map convert) ∧
      IsLinewise boldPass ∧ IsLinewise linkPass ∧ IsLinewise openingPass ∧ IsLinewise closingPass ∧
        ∀ t, Text.lines (convert t) = (Text.lines t).map convert := by
  have hbold : IsLinewise boldPass := ⟨by rw [boldPass], boldPass_append_lineFeed⟩
  have hlink : IsLinewise linkPass := ⟨by rw [linkPass], linkPass_append_lineFeed⟩
  have hopening : IsLinewise openingPass := ⟨rfl, openingPass_append_lineFeed⟩
  have hclosing : IsLinewise closingPass := ⟨rfl, closingPass_append_lineFeed⟩
  exact ⟨isLinewise_convert.unlines ls, hbold, hlink, hopening, hclosing, lines_convert⟩

/-! ### The first character of a line -/

/-- A character at which no markup opens. -/
def opensNoMarkup (c : Char) : Bool := c ≠ '*' && c ≠ '[' && c ≠ '\x60'

theorem openingPass_cons {c : Char} (h : c ≠ '\x60') (t : Text) : openingPass (c :: t) = c :: openingPass t := by
  cases t with
  | nil => rfl
  | cons d t => simp [openingPass, h]

theorem head?_closingPass (t : Text) : (closingPass t).head? = t.head? := by
  fun_induction closingPass t with
  | case1 => rfl
  | case2 => rfl
  | case3 => rfl

/-- A text keeps its first character, unless markup may open there. -/
theorem head?_convert {c : Char} (h : opensNoMarkup c = true) (t : Text) : (convert (c :: t)).head? = some c := by
  simp only [opensNoMarkup, Bool.and_eq_true, decide_eq_true_eq] at h
  obtain ⟨⟨hstar, hbracket⟩, htick⟩ := h
  have hbold : boldPass (c :: t) = c :: boldPass t := boldPass_cons fun _ hc => absurd hc hstar
  rw [convert, hbold, linkPass_cons hbracket, openingPass_cons htick, List.head?_map, head?_closingPass, List.head?_cons,
    Option.map_some, plainQuote, if_neg htick]

/-! ### The last character of a text -/

/-- A character with which no markup closes. -/
def closesNoMarkup (c : Char) : Bool := c ≠ '*' && c ≠ ')' && c ≠ ']' && c ≠ '\x60'

theorem eq_nil_or_getLast?_eq_some {t : Text} {c d : Char} (h : (d :: t).getLast? = some c) :
    t = [] ∧ d = c ∨ t.getLast? = some c := by
  cases t with
  | nil => exact Or.inl ⟨rfl, Option.some.inj h⟩
  | cons e t =>
    rw [List.getLast?_cons_cons] at h
    exact Or.inr h

/-- A text that ends otherwise than its front part has a rear part, and ends as that does. -/
theorem getLast?_of_getLast?_append {t u : Text} {c d : Char} (h : (t ++ d :: u).getLast? = some c) (hd : d ≠ c) :
    u.getLast? = some c := by
  rw [List.getLast?_append, List.getLast?_cons, Option.some_or] at h
  have hlast : (d :: u).getLast? = some c := by rwa [List.getLast?_cons]
  exact (eq_nil_or_getLast?_eq_some hlast).resolve_left fun hnil => hd hnil.2

theorem getLast?_append_of_eq_some {u : Text} {c : Char} (h : u.getLast? = some c) (t : Text) :
    (t ++ u).getLast? = some c := by
  rw [List.getLast?_append, h, Option.some_or]

theorem getLast?_boldPass {c : Char} (hc : c ≠ '*') {t : Text} (h : t.getLast? = some c) :
    (boldPass t).getLast? = some c := by
  fun_induction boldPass t with
  | case1 t s r hspan ih =>
    rw [(eq_append_of_boldSpan? hspan).1] at h
    have hrest : r.getLast? = some c := by
      refine getLast?_of_getLast?_append (t := '*' :: '*' :: s ++ ['*']) ?_ hc.symm
      simpa using h
    exact getLast?_append_of_eq_some (ih hrest) ('.' :: 'B' :: ' ' :: s)
  | case2 t hspan ih =>
    have hrest : ('*' :: t).getLast? = some c := getLast?_of_getLast?_append (t := []) h hc.symm
    exact getLast?_append_of_eq_some (ih hrest) ['*']
  | case3 d t hstar ih =>
    rcases eq_nil_or_getLast?_eq_some h with ⟨rfl, rfl⟩ | hrest
    · rw [boldPass]
      rfl
    · exact getLast?_append_of_eq_some (ih hrest) [d]
  | case4 => cases h

theorem getLast?_linkPass {c : Char} (hround : c ≠ ')') (hsquare : c ≠ ']') {t : Text} (h : t.getLast? = some c) :
    (linkPass t).getLast? = some c := by
  fun_induction linkPass t with
  | case1 => cases h
  | case2 t s r hlink ih =>
    obtain ⟨o, m, d, rfl, -, hd, -⟩ := eq_append_of_link? hlink
    have hne : d ≠ c := by
      rcases hd with rfl | rfl
      · exact hround.symm
      · exact hsquare.symm
    have hrest : r.getLast? = some c := by
      refine getLast?_of_getLast?_append (t := '[' :: (s ++ ']' :: o :: m)) ?_ hne
      simpa using h
    exact getLast?_append_of_eq_some (ih hrest) s
  | case3 t hlink ih =>
    rcases eq_nil_or_getLast?_eq_some h with ⟨rfl, rfl⟩ | hrest
    · rw [linkPass]
      rfl
    · exact getLast?_append_of_eq_some (ih hrest) ['[']
  | case4 d t hd ih =>
    rcases eq_nil_or_getLast?_eq_some h with ⟨rfl, rfl⟩ | hrest
    · rw [linkPass]
      rfl
    · exact getLast?_append_of_eq_some (ih hrest) [d]

/-- A backtick in front of a quotation mark is never the last character. -/
theorem getLast?_openingPass (t : Text) : (openingPass t).getLast? = t.getLast? := by
  fun_induction openingPass t with
  | case1 c d t hc ih => rw [List.getLast?_cons_cons, List.getLast?_cons, List.getLast?_cons, ih]
  | case2 c d t hc ih =>
    rw [List.getLast?_cons_cons, List.getLast?_cons, ih, List.getLast?_cons]
    rfl
  | case3 t => rfl

theorem getLast?_closingPass {c : Char} (hc : c ≠ '\x60') {t : Text} (h : t.getLast? = some c) :
    (closingPass t).getLast? = some c := by
  fun_induction closingPass t with
  | case1 d e t hde ih =>
    have htick : e = '\x60' := by
      simp only [Bool.and_eq_true, decide_eq_true_eq] at hde
      exact hde.2
    subst htick
    exact getLast?_append_of_eq_some (ih (getLast?_of_getLast?_append (t := [d]) h hc.symm)) [d]
  | case2 d e t hde ih =>
    rw [List.getLast?_cons_cons] at h
    exact getLast?_append_of_eq_some (ih h) [d]
  | case3 t => exact h

/-- A text keeps its last character, unless markup may close there. -/
theorem getLast?_convert {c : Char} (hc : closesNoMarkup c = true) {t : Text} (h : t.getLast? = some c) :
    (convert t).getLast? = some c := by
  simp only [closesNoMarkup, Bool.and_eq_true, decide_eq_true_eq] at hc
  obtain ⟨⟨⟨hstar, hround⟩, hsquare⟩, htick⟩ := hc
  have hlink := getLast?_linkPass hround hsquare (getLast?_boldPass hstar h)
  rw [← getLast?_openingPass] at hlink
  rw [convert, List.getLast?_map, getLast?_closingPass htick hlink, Option.map_some, plainQuote, if_neg htick]

theorem backtick_not_mem_convert (t : Text) : '\x60' ∉ convert t := by
  intro h
  obtain ⟨c, -, hc⟩ := List.mem_map.1 h
  rw [plainQuote] at hc
  split at hc
  · cases hc
  · next hne => exact hne hc

end Manpage.Prose
