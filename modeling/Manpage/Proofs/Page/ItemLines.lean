import Mathlib.Data.List.Basic
import Manpage.Proofs.Page.Flag
import Manpage.Proofs.Page.Mention

/-!
# Mentions line by line

Which lines of a page document an option: item lines that name it, and lines below an item that open with a mention of
it, since the white space in front of a mention may be the line feed at the end of the item line.

* `OpensWithFlag`, `IsItemOf` — a line that opens with a mention, and an item line that holds one;
* `HasItem`, `IsNamedBelowItem` — the two ways for a page to document a name;
* `opensWithItem_append_lineFeed` — from an item line the search sees one line further and no more;
  `mentions_unlines_cons` — what the first line of a page adds, and `mentions_unlines_iff` — so the search finds these two
  ways (`mentions_iff`);
* `pairwise_idxOf_eraseDups_filter` — the options reported stand in the order in which they first occur;
* `undocumented_by_lines` — the report by the lines of the page, and when item lines alone account for it;
  `not_undocumented_by_items`, a page on which they do not.
-/

namespace Manpage.Page

open Unicode

/-! ### What is to be found in a line -/

/-- A line that opens with a mention of a name: with `Fl `, the name, and white space or the end of the line. -/
def OpensWithFlag (name l : Text) : Prop :=
  ∃ rear, l = "Fl ".toList ++ name ++ rear ∧ ∀ c ∈ rear.head?, isBlank c = true

/-- An item line that names an option: behind `.It `, at once or after white space, it goes on with a mention. -/
def IsItemOf (name l : Text) : Prop :=
  ∃ front rear, l = ".It ".toList ++ (front ++ rear) ∧ (∀ c ∈ front.getLast?, isBlank c = true) ∧
    OpensWithFlag name rear

theorem atWordEnd_iff {t : Text} : atWordEnd t = true ↔ ∀ c ∈ t.head?, isBlank c = true := by
  cases t with
  | nil => simp [atWordEnd]
  | cons c t => simp [atWordEnd]

theorem opensWithMention_iff {name l : Text} : opensWithMention name l = true ↔ OpensWithFlag name l := by
  unfold opensWithMention OpensWithFlag
  constructor
  · intro h
    cases hafter : Text.after? ("Fl ".toList ++ name) l with
    | none =>
      rw [hafter] at h
      cases h
    | some rear =>
      rw [hafter] at h
      exact ⟨rear, Text.after?_eq_some_iff.1 hafter, atWordEnd_iff.1 h⟩
  · rintro ⟨rear, rfl, hrear⟩
    rw [Text.after?_append]
    exact atWordEnd_iff.2 hrear

/-- A mention later in a line stands behind white space there. -/
theorem mentionsLater_iff {name l : Text} (hl : '\n' ∉ l) :
    mentionsLater name l = true ↔
      ∃ front c rear, l = front ++ c :: rear ∧ isBlank c = true ∧ OpensWithFlag name rear := by
  constructor
  · intro h
    induction l with
    | nil => cases h
    | cons c l ih =>
      rw [mentionsLater, Bool.or_eq_true, Bool.and_eq_true, Bool.and_eq_true] at h
      rcases h with ⟨hc, hmention⟩ | ⟨-, hlater⟩
      · exact ⟨[], c, l, rfl, hc, opensWithMention_iff.1 hmention⟩
      · obtain ⟨front, d, rear, rfl, hd, hrear⟩ := ih (fun hmem => hl (List.mem_cons_of_mem c hmem)) hlater
        exact ⟨c :: front, d, rear, rfl, hd, hrear⟩
  · rintro ⟨front, c, rear, rfl, hc, hrear⟩
    have hfront : '\n' ∉ front := fun hmem => hl (List.mem_append_left _ hmem)
    exact mentionsLater_append hfront hc (opensWithMention_iff.2 hrear)

theorem opensWithItem_iff {name l : Text} (hl : '\n' ∉ l) : opensWithItem name l = true ↔ IsItemOf name l := by
  unfold opensWithItem IsItemOf
  constructor
  · intro h
    cases hafter : Text.after? ".It ".toList l with
    | none =>
      rw [hafter] at h
      cases h
    | some head =>
      rw [hafter, Bool.or_eq_true] at h
      obtain rfl := Text.after?_eq_some_iff.1 hafter
      have hhead : '\n' ∉ head := fun hmem => hl (List.mem_append_right _ hmem)
      rcases h with h | h
      · exact ⟨[], head, rfl, by simp, opensWithMention_iff.1 h⟩
      · obtain ⟨front, c, rear, rfl, hc, hrear⟩ := (mentionsLater_iff hhead).1 h
        exact ⟨front ++ [c], rear, by simp, by simpa using hc, hrear⟩
  · rintro ⟨front, rear, rfl, hfront, hrear⟩
    have hhead : '\n' ∉ front ++ rear := fun hmem => hl (List.mem_append_right _ hmem)
    rw [Text.after?_append, Bool.or_eq_true]
    rcases List.eq_nil_or_concat front with rfl | ⟨v, c, rfl⟩
    · exact Or.inl (opensWithMention_iff.2 hrear)
    · refine Or.inr ((mentionsLater_iff hhead).2 ⟨v, c, rear, by simp, hfront c (by simp), hrear⟩)

/-! ### The search across lines -/

/-- Whether a text opens with a mention of a name is settled in its first line. -/
theorem opensWithMention_append_lineFeed {name : Text} (hname : '\n' ∉ name) (t u : Text) :
    opensWithMention name (t ++ '\n' :: u) = opensWithMention name t := by
  have hmarker : '\n' ∉ "Fl ".toList ++ name := by simpa using hname
  rw [opensWithMention, Text.after?_append_cons hmarker, opensWithMention]
  cases Text.after? ("Fl ".toList ++ name) t with
  | none => rfl
  | some rear =>
    cases rear with
    | nil => rfl
    | cons c rear => rfl

/-- The search for a mention behind white space goes on behind the line feed that ends the line, and no further. -/
theorem mentionsLater_append_lineFeed {name t : Text} (hname : '\n' ∉ name) (ht : '\n' ∉ t) (u : Text) :
    mentionsLater name (t ++ '\n' :: u) = (mentionsLater name t || opensWithMention name u) := by
  induction t with
  | nil => simp [mentionsLater, isBlank_lineFeed]
  | cons c t ih =>
    rw [List.mem_cons, not_or] at ht
    have hc : c ≠ '\n' := Ne.symm ht.1
    rw [List.cons_append, mentionsLater, mentionsLater, ih ht.2, opensWithMention_append_lineFeed hname]
    simp [hc, Bool.or_assoc]

/-- An item line is followed to the line below it. -/
theorem opensWithItem_append_lineFeed {name l : Text} (hname : '\n' ∉ name) (hl : '\n' ∉ l) (u : Text) :
    opensWithItem name (l ++ '\n' :: u) =
      (opensWithItem name l || (Text.opensWith ".It ".toList l && opensWithMention name u)) := by
  rw [opensWithItem, Text.after?_append_cons (by decide), opensWithItem, Text.opensWith]
  cases hafter : Text.after? ".It ".toList l with
  | none => rfl
  | some head =>
    obtain rfl := Text.after?_eq_some_iff.1 hafter
    have hhead : '\n' ∉ head := fun hmem => hl (List.mem_append_right _ hmem)
    simp only [Option.map_some, Option.isSome_some, Bool.true_and, opensWithMention_append_lineFeed hname,
      mentionsLater_append_lineFeed hname hhead, Bool.or_assoc]

theorem afterLineFeeds_of_not_mem {t : Text} (h : '\n' ∉ t) : afterLineFeeds t = [] := by
  induction t with
  | nil => rfl
  | cons c t ih =>
    rw [List.mem_cons, not_or] at h
    rw [afterLineFeeds, if_neg (Ne.symm h.1), ih h.2]

theorem afterLineFeeds_append {t : Text} (h : '\n' ∉ t) (u : Text) :
    afterLineFeeds (t ++ '\n' :: u) = u :: afterLineFeeds u := by
  induction t with
  | nil => rw [List.nil_append, afterLineFeeds, if_pos rfl]
  | cons c t ih =>
    rw [List.mem_cons, not_or] at h
    rw [List.cons_append, afterLineFeeds, if_neg (Ne.symm h.1), ih h.2]

/-- The first line of a page mentions a name as an item, or with the line below it, or is of no account. -/
theorem mentions_unlines_cons {name l : Text} (hname : '\n' ∉ name) (hl : '\n' ∉ l) (m : Text) (ls : List Text) :
    mentions name (Text.unlines (l :: m :: ls)) =
      (opensWithItem name l || (Text.opensWith ".It ".toList l && opensWithMention name m) ||
        mentions name (Text.unlines (m :: ls))) := by
  have hmention : opensWithMention name (Text.unlines (m :: ls)) = opensWithMention name m := by
    cases ls with
    | nil => rfl
    | cons k ls => rw [Text.unlines_cons m (List.cons_ne_nil k ls), opensWithMention_append_lineFeed hname]
  rw [Text.unlines_cons l (List.cons_ne_nil m ls), mentions, afterLineFeeds_append hl, List.any_cons,
    opensWithItem_append_lineFeed hname hl, hmention, mentions]

/-- A page of lines mentions a name in an item line, or in a line that opens with the mention below an item line. -/
theorem mentions_unlines_iff {name : Text} (hname : '\n' ∉ name) {ls : List Text} (hne : ls ≠ [])
    (hfree : ∀ l ∈ ls, '\n' ∉ l) :
    mentions name (Text.unlines ls) = true ↔
      (∃ l ∈ ls, opensWithItem name l = true) ∨
        ∃ l m, [l, m] <:+: ls ∧ Text.opensWith ".It ".toList l = true ∧ opensWithMention name m = true := by
  induction ls with
  | nil => exact absurd rfl hne
  | cons l ls ih =>
    obtain ⟨hl, hrest⟩ := List.forall_mem_cons.1 hfree
    cases ls with
    | nil =>
      have hpair (a b : Text) : ¬ [a, b] <:+: [l] := fun h => absurd h.length_le (by simp)
      rw [mentions, Text.unlines, Text.joined, afterLineFeeds_of_not_mem hl]
      simp [hpair]
    | cons m ls =>
      have hpair (a b : Text) : [a, b] <:+: l :: m :: ls ↔ (a = l ∧ b = m) ∨ [a, b] <:+: m :: ls := by
        simp [List.infix_cons_iff, List.cons_prefix_cons]
      rw [mentions_unlines_cons hname hl, Bool.or_eq_true, Bool.or_eq_true, Bool.and_eq_true,
        ih (List.cons_ne_nil m ls) hrest]
      simp only [hpair]
      grind

/-! ### Documented names -/

/-- An item line of a page names an option. -/
def HasItem (name page : Text) : Prop := ∃ l ∈ Text.lines page, IsItemOf name l

/-- Right below an item line of a page stands a line that opens with a mention of a name. -/
def IsNamedBelowItem (name page : Text) : Prop :=
  ∃ l m, [l, m] <:+: Text.lines page ∧ (∃ head, l = ".It ".toList ++ head) ∧ OpensWithFlag name m

theorem any_opensWithItem_iff {name page : Text} :
    (∃ l ∈ Text.lines page, opensWithItem name l = true) ↔ HasItem name page := by
  unfold HasItem
  constructor
  · rintro ⟨l, hl, h⟩
    exact ⟨l, hl, (opensWithItem_iff (Text.not_mem_of_mem_pieces hl)).1 h⟩
  · rintro ⟨l, hl, h⟩
    exact ⟨l, hl, (opensWithItem_iff (Text.not_mem_of_mem_pieces hl)).2 h⟩

instance (name page : Text) : Decidable (HasItem name page) := decidable_of_iff _ any_opensWithItem_iff

theorem mentions_iff {name : Text} (hname : '\n' ∉ name) (page : Text) :
    mentions name page = true ↔ HasItem name page ∨ IsNamedBelowItem name page := by
  have hunlines := mentions_unlines_iff hname (Text.pieces_ne_nil '\n' page) fun l => Text.not_mem_of_mem_pieces
  rw [show Text.unlines (Text.pieces '\n' page) = page from Text.unlines_lines page] at hunlines
  rw [hunlines, ← any_opensWithItem_iff]
  simp only [IsNamedBelowItem, ← opensWithMention_iff, ← Text.opensWith_iff]
  rfl

/-! ### The report -/

/-- Of the members of a list that are kept, each once, those come first that first occur first. -/
theorem pairwise_idxOf_eraseDups_filter {α : Type} [BEq α] [LawfulBEq α] (p : α → Bool) (l : List α) :
    (l.filter p).eraseDups.Pairwise fun a b => l.idxOf a < l.idxOf b := by
  -- for any predicate, since the tail is kept by one that leaves out the head
  induction l generalizing p with
  | nil => exact List.Pairwise.nil
  | cons x l ih =>
    have htail (q : α → Bool) (hx : ∀ a, q a = true → a ≠ x) :
        (l.filter q).eraseDups.Pairwise fun a b => (x :: l).idxOf a < (x :: l).idxOf b := by
      refine (ih q).imp_of_mem fun {a b} ha hb hab => ?_
      rw [List.mem_eraseDups, List.mem_filter] at ha hb
      rw [List.idxOf_cons_ne l (hx a ha.2).symm, List.idxOf_cons_ne l (hx b hb.2).symm]
      exact Nat.succ_lt_succ hab
    cases hpx : p x with
    | false =>
      rw [List.filter_cons_of_neg (by simp [hpx])]
      refine htail p fun a ha heq => ?_
      rw [heq, hpx] at ha
      cases ha
    | true =>
      have hne (a : α) (ha : (!a == x && p a) = true) : a ≠ x := by simpa using (Bool.and_eq_true_iff.1 ha).1
      rw [List.filter_cons_of_pos hpx, List.eraseDups_cons, List.filter_filter]
      refine List.pairwise_cons.2 ⟨fun a ha => ?_, htail _ hne⟩
      rw [List.mem_eraseDups, List.mem_filter] at ha
      rw [List.idxOf_cons_self, List.idxOf_cons_ne l (hne a ha.2).symm]
      exact Nat.succ_pos _

/-- A description that opens with a mention documents the option, which no item line names. -/
theorem not_undocumented_by_items :
    ¬ ∀ (options : List Text) (page : Text), (∀ o ∈ options, '\n' ∉ o) →
      ∀ o, o ∈ undocumented options page ↔ o ∈ options ∧ ¬ HasItem (Flag.dropDash o) page := by
  intro h
  have hreport : undocumented ["--foo".toList] ".It Fl a\nFl -foo is for all.\n".toList = [] := by decide
  have hfoo := h ["--foo".toList] ".It Fl a\nFl -foo is for all.\n".toList (by decide) "--foo".toList
  rw [hreport] at hfoo
  exact List.not_mem_nil (hfoo.2 ⟨List.mem_cons_self, by decide⟩)

/-- **Documented options, by the lines of a page.**  For options without a line feed, the report lists each option once,
in the order in which they first occur; and it lists those that no item line names and that no line names either that
stands right below an item line and opens with the mention.  So it lists just those that no item line names exactly if
every listed option that is named below an item has an item of its own. -/
theorem undocumented_by_lines {options : List Text} (hfree : ∀ o ∈ options, '\n' ∉ o) (page : Text) :
    (undocumented options page).Pairwise (fun o p => options.idxOf o < options.idxOf p) ∧
      (∀ o, o ∈ undocumented options page ↔
        o ∈ options ∧ ¬ HasItem (Flag.dropDash o) page ∧ ¬ IsNamedBelowItem (Flag.dropDash o) page) ∧
      ((∀ o, o ∈ undocumented options page ↔ o ∈ options ∧ ¬ HasItem (Flag.dropDash o) page) ↔
        ∀ o ∈ options, IsNamedBelowItem (Flag.dropDash o) page → HasItem (Flag.dropDash o) page) := by
  have hmem (o : Text) : o ∈ undocumented options page ↔
      o ∈ options ∧ ¬ HasItem (Flag.dropDash o) page ∧ ¬ IsNamedBelowItem (Flag.dropDash o) page := by
    rw [mem_undocumented]
    refine and_congr_right fun ho => ?_
    have hname : '\n' ∉ Flag.dropDash o := fun h => hfree o ho (Flag.mem_of_mem_dropDash h)
    rw [← Bool.not_eq_true, mentions_iff hname, not_or]
  refine ⟨pairwise_idxOf_eraseDups_filter _ options, hmem, ?_⟩
  simp only [hmem]
  constructor
  · intro hitems o ho hbelow
    exact Decidable.byContradiction fun hitem => ((hitems o).2 ⟨ho, hitem⟩).2.2 hbelow
  · intro hown o
    exact ⟨fun ⟨ho, hitem, _⟩ => ⟨ho, hitem⟩, fun ⟨ho, hitem⟩ => ⟨ho, hitem, fun hbelow => hitem (hown o ho hbelow)⟩⟩

/-- A page on which one option has an item, one is named below it only, and one is named elsewhere only. -/
theorem undocumented_by_lines_of_three :
    let options := ["--baz".toList, "-f".toList, "--bar".toList, "--baz".toList]
    let page := ".It Fl -foo , Fl f\nFl -bar is like it.\nSee\nFl -baz too.\n".toList
    undocumented options page = ["--baz".toList] ∧
      (HasItem "f".toList page ∧ IsNamedBelowItem "-bar".toList page ∧ ¬ HasItem "-bar".toList page) ∧
      (¬ HasItem "-baz".toList page ∧ ¬ IsNamedBelowItem "-baz".toList page) ∧
      ¬ ∀ o, o ∈ undocumented options page ↔ o ∈ options ∧ ¬ HasItem (Flag.dropDash o) page := by
  intro options page
  have hfree : ∀ o ∈ options, '\n' ∉ o := by decide
  obtain ⟨-, hmem, hitems⟩ := undocumented_by_lines hfree page
  have hreport : undocumented options page = ["--baz".toList] := by decide
  have hbaz : "--baz".toList ∈ undocumented options page := hreport ▸ List.mem_cons_self
  have hmention : OpensWithFlag "-bar".toList "Fl -bar is like it.".toList := opensWithMention_iff.1 (by decide)
  have hbar : IsNamedBelowItem "-bar".toList page :=
    ⟨".It Fl -foo , Fl f".toList, _, ⟨[], ["See".toList, "Fl -baz too.".toList, []], by decide +kernel⟩, ⟨_, rfl⟩,
      hmention⟩
  have hbarItem : ¬ HasItem "-bar".toList page := by decide
  exact ⟨hreport, ⟨by decide, hbar, hbarItem⟩, ((hmem _).1 hbaz).2,
    fun h => hbarItem (hitems.1 h "--bar".toList (by decide) hbar)⟩

end Manpage.Page
