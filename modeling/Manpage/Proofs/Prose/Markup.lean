import Manpage.Prose.Markup

/-!
# Text without markup

Each pass of the conversion leaves a text alone that holds none of the characters by which its markup opens.

* `boldPass_append_of_not_mem`, `linkPass_append_of_not_mem` — such a text in front of others, which are searched for
  spans as if they stood alone;
* `boldPass_of_not_mem`, `linkPass_of_not_mem`, `openingPass_of_not_mem`, `closingPass_of_not_mem` — the passes;
* `convert_of_not_mem` — all of them in a row;
* `openingPass_of_forall_not`, `closingPass_of_forall_not` — backticks are safe where no quotation mark stands.
-/

namespace Manpage.Prose

theorem boldPass_append_of_not_mem {t : Text} (h : '*' ∉ t) (u : Text) : boldPass (t ++ u) = t ++ boldPass u := by
  induction t with
  | nil => rfl
  | cons c t ih =>
    rw [List.mem_cons, not_or] at h
    rw [List.cons_append, boldPass, ih h.2, List.cons_append]
    rintro v rfl
    exact absurd rfl h.1

theorem boldPass_of_not_mem {t : Text} (h : '*' ∉ t) : boldPass t = t := by
  have hpass := boldPass_append_of_not_mem h []
  rwa [boldPass, List.append_nil] at hpass

theorem linkPass_append_of_not_mem {t : Text} (h : '[' ∉ t) (u : Text) : linkPass (t ++ u) = t ++ linkPass u := by
  induction t with
  | nil => rfl
  | cons c t ih =>
    rw [List.mem_cons, not_or] at h
    rw [List.cons_append, linkPass, if_neg (Ne.symm h.1), ih h.2, List.cons_append]

theorem linkPass_of_not_mem {t : Text} (h : '[' ∉ t) : linkPass t = t := by
  have hpass := linkPass_append_of_not_mem h []
  rwa [linkPass, List.append_nil] at hpass

theorem openingPass_of_not_mem {t : Text} (h : '\x60' ∉ t) : openingPass t = t := by
  fun_induction openingPass t with
  | case1 c d t hc ih =>
    simp only [Bool.and_eq_true, decide_eq_true_eq] at hc
    exact absurd (hc.1 ▸ List.mem_cons_self) h
  | case2 c d t hc ih => rw [ih fun hm => h (List.mem_cons_of_mem _ hm)]
  | case3 => rfl

theorem closingPass_of_not_mem {t : Text} (h : '\x60' ∉ t) : closingPass t = t := by
  fun_induction closingPass t with
  | case1 c d t hc ih =>
    simp only [Bool.and_eq_true, decide_eq_true_eq] at hc
    exact absurd (hc.2 ▸ List.mem_cons_of_mem _ List.mem_cons_self) h
  | case2 c d t hc ih => rw [ih fun hm => h (List.mem_cons_of_mem _ hm)]
  | case3 => rfl

theorem openingPass_of_forall_not {t : Text} (h : ∀ c ∈ t, isQuotationMark c = false) : openingPass t = t := by
  fun_induction openingPass t with
  | case1 c d t hc ih =>
    rw [Bool.and_eq_true, h d (List.mem_cons_of_mem c List.mem_cons_self)] at hc
    cases hc.2
  | case2 c d t hc ih => rw [ih fun x hx => h x (List.mem_cons_of_mem c hx)]
  | case3 => rfl

theorem closingPass_of_forall_not {t : Text} (h : ∀ c ∈ t, isQuotationMark c = false) : closingPass t = t := by
  fun_induction closingPass t with
  | case1 c d t hc ih =>
    rw [Bool.and_eq_true, h c List.mem_cons_self] at hc
    cases hc.1
  | case2 c d t hc ih => rw [ih fun x hx => h x (List.mem_cons_of_mem c hx)]
  | case3 => rfl

theorem map_plainQuote_of_not_mem {t : Text} (h : '\x60' ∉ t) : t.map plainQuote = t := by
  rw [List.map_congr_left (g := id), List.map_id]
  intro c hc
  have hne : c ≠ '\x60' := by
    rintro rfl
    exact h hc
  rw [plainQuote, if_neg hne, id]

/-- A text without asterisks, opening brackets and backticks is converted into itself. -/
theorem convert_of_not_mem {t : Text} (hbold : '*' ∉ t) (hlink : '[' ∉ t) (hquote : '\x60' ∉ t) : convert t = t := by
  rw [convert, boldPass_of_not_mem hbold, linkPass_of_not_mem hlink, openingPass_of_not_mem hquote,
    closingPass_of_not_mem hquote, map_plainQuote_of_not_mem hquote]

end Manpage.Prose
