import Manpage.Page.Mention

/-!
# Mentions in a page

* `mem_undocumented` — an option of a list is reported if the page does not mention it, whatever else is in the list;
* `mentions_append` — an item counts wherever a line of the page begins, behind any text of whole lines;
* `opensWithItem_append` — an item mentions a name at its start and behind any white space on its line.
-/

namespace Manpage.Page

open Unicode

/-- A text that leaves off where a line begins: it is empty or ends in a line feed. -/
def IsWholeLines (t : Text) : Prop := t = [] ∨ t.getLast? = some '\n'

theorem IsWholeLines.append {t u : Text} (ht : IsWholeLines t) (hu : IsWholeLines u) : IsWholeLines (t ++ u) := by
  rcases hu with rfl | hu
  · rwa [List.append_nil]
  · right
    rw [List.getLast?_append, hu, Option.some_or]

theorem mem_undocumented {o page : Text} {options : List Text} :
    o ∈ undocumented options page ↔ o ∈ options ∧ mentions (Flag.dropDash o) page = false := by
  rw [undocumented, List.mem_eraseDups, List.mem_filter, Bool.not_eq_true']

/-! ### Where a line begins -/

theorem mem_afterLineFeeds (t u : Text) : u ∈ afterLineFeeds (t ++ '\n' :: u) := by
  induction t with
  | nil => exact List.mem_cons_self
  | cons c t ih =>
    rw [List.cons_append, afterLineFeeds]
    split
    · exact List.mem_cons_of_mem _ ih
    · exact ih

theorem mentions_append {name t u : Text} (ht : IsWholeLines t) (hu : opensWithItem name u = true) :
    mentions name (t ++ u) = true := by
  rw [mentions, List.any_eq_true]
  refine ⟨u, ?_, hu⟩
  rcases ht with rfl | ht
  · exact List.mem_cons_self
  · obtain ⟨v, rfl⟩ := List.getLast?_eq_some_iff.1 ht
    rw [List.append_assoc, List.singleton_append]
    exact List.mem_cons_of_mem _ (mem_afterLineFeeds v u)

/-! ### Within a line -/

theorem opensWithMention_append (name : Text) {u : Text} (hu : atWordEnd u = true) :
    opensWithMention name ("Fl ".toList ++ name ++ u) = true := by
  rw [opensWithMention, Text.after?_append]
  exact hu

theorem mentionsLater_append {name t u : Text} {c : Char} (ht : '\n' ∉ t) (hc : isBlank c = true)
    (hu : opensWithMention name u = true) : mentionsLater name (t ++ c :: u) = true := by
  induction t with
  | nil => rw [List.nil_append, mentionsLater, hc, hu]; rfl
  | cons d t ih =>
    rw [List.mem_cons, not_or] at ht
    have hd : d ≠ '\n' := Ne.symm ht.1
    rw [List.cons_append, mentionsLater, ih ht.2]
    simp [hd]

/-- An item mentions a name that a macro gives at its start or behind white space, if the name ends there. -/
theorem opensWithItem_append (name : Text) {t u : Text} (hline : '\n' ∉ t)
    (ht : t = [] ∨ ∃ v c, t = v ++ [c] ∧ isBlank c = true) (hu : atWordEnd u = true) :
    opensWithItem name (".It ".toList ++ (t ++ ("Fl ".toList ++ name ++ u))) = true := by
  have hmention := opensWithMention_append name hu
  rw [opensWithItem, Text.after?_append]
  show (opensWithMention name (t ++ ("Fl ".toList ++ name ++ u)) ||
    mentionsLater name (t ++ ("Fl ".toList ++ name ++ u))) = true
  rcases ht with rfl | ⟨v, c, rfl, hc⟩
  · rw [List.nil_append, hmention, Bool.true_or]
  · have hv : '\n' ∉ v := fun hmem => hline (List.mem_append_left _ hmem)
    rw [List.append_assoc v, List.singleton_append, mentionsLater_append hv hc hmention, Bool.or_true]

end Manpage.Page
