import Manpage.Text.Basic

/-!
# Inline markup

The inline markup of a description is turned into manual page text in five passes, each from left to right over what
the pass before it left:

* `boldPass` — `**text**` becomes `.B text`;
* `linkPass` — `[label](target)` and `[label][target]` become the label;
* `openingPass` and `closingPass` — a backtick right before or right after a quote is dropped;
* the backticks that are left become double quotes.

A span begins and ends on one line, and closes at the first place where it can.  An opening mark that is never closed
stays as it is.

* `convert` — the five passes in order.
-/

namespace Manpage.Prose

/-- An apostrophe or a double quote. -/
def isQuotationMark (c : Char) : Bool := c = '\x22' || c = '\x27'

/-- The text up to the first `**` on the line, and what follows that mark. -/
def boldSpan? : Text → Option (Text × Text)
  | '*' :: '*' :: t => some ([], t)
  | c :: t => if c = '\n' then none else (boldSpan? t).map fun (s, r) => (c :: s, r)
  | [] => none

/-- The label up to the first `](` or `][` on the line, and what follows these marks. -/
def label? : Text → Option (Text × Text)
  | ']' :: c :: t =>
    if c = '(' || c = '[' then some ([], t) else (label? (c :: t)).map fun (s, r) => (']' :: s, r)
  | c :: t => if c = '\n' then none else (label? t).map fun (s, r) => (c :: s, r)
  | [] => none

/-- What follows the first `)` or `]` on the line. -/
def afterTarget? : Text → Option Text
  | [] => none
  | c :: t => if c = ')' || c = ']' then some t else if c = '\n' then none else afterTarget? t

/-- The label of a link whose opening bracket was just read, and what follows the link. -/
def link? (t : Text) : Option (Text × Text) :=
  match label? t with
  | none => none
  | some (s, r) => (afterTarget? r).map (s, ·)

theorem length_boldSpan? {t s r : Text} (h : boldSpan? t = some (s, r)) : r.length < t.length := by
  fun_induction boldSpan? t generalizing s r with
  | case1 t => simp only [Option.some.injEq, Prod.mk.injEq] at h; simp only [← h.2, List.length_cons]; omega
  | case2 => cases h
  | case3 c t _ _ ih =>
    obtain ⟨⟨s', r'⟩, h1, h2⟩ := Option.map_eq_some_iff.1 h
    simp only [Prod.mk.injEq] at h2
    have := ih h1
    simp only [List.length_cons, ← h2.2]; omega
  | case4 => cases h

theorem length_label? {t s r : Text} (h : label? t = some (s, r)) : r.length < t.length := by
  fun_induction label? t generalizing s r with
  | case1 c t _ => simp only [Option.some.injEq, Prod.mk.injEq] at h; simp only [← h.2, List.length_cons]; omega
  | case2 c t _ ih =>
    obtain ⟨⟨s', r'⟩, h1, h2⟩ := Option.map_eq_some_iff.1 h
    simp only [Prod.mk.injEq] at h2
    have := ih h1
    simp only [List.length_cons, ← h2.2] at *; omega
  | case3 => cases h
  | case4 c t _ _ ih =>
    obtain ⟨⟨s', r'⟩, h1, h2⟩ := Option.map_eq_some_iff.1 h
    simp only [Prod.mk.injEq] at h2
    have := ih h1
    simp only [List.length_cons, ← h2.2]; omega
  | case5 => cases h

theorem length_afterTarget? {t r : Text} (h : afterTarget? t = some r) : r.length < t.length := by
  fun_induction afterTarget? t with
  | case1 => cases h
  | case2 c t _ => simp only [Option.some.injEq] at h; simp [h]
  | case3 => cases h
  | case4 c t _ _ ih => have := ih h; simp only [List.length_cons]; omega

theorem length_link? {t s r : Text} (h : link? t = some (s, r)) : r.length < t.length := by
  unfold link? at h
  split at h
  · cases h
  · rename_i s' r' hl
    obtain ⟨r'', h1, h2⟩ := Option.map_eq_some_iff.1 h
    simp only [Prod.mk.injEq] at h2
    have h3 := length_label? hl
    have h4 := length_afterTarget? h1
    rw [← h2.2]; omega

/-- Turns every `**text**` of one line into `.B text`. -/
def boldPass : Text → Text
  | '*' :: '*' :: t =>
    match _h : boldSpan? t with
    | some (s, r) => '.' :: 'B' :: ' ' :: s ++ boldPass r
    | none => '*' :: boldPass ('*' :: t)
  | c :: t => c :: boldPass t
  | [] => []
termination_by t => t.length
decreasing_by
  all_goals simp_wf
  have := length_boldSpan? _h; omega

/-- Turns every link of one line into its label. -/
def linkPass : Text → Text
  | [] => []
  | c :: t =>
    if c = '[' then
      match _h : link? t with
      | some (s, r) => s ++ linkPass r
      | none => c :: linkPass t
    else c :: linkPass t
termination_by t => t.length
decreasing_by
  all_goals simp_wf
  have := length_link? _h; omega

/-- Drops every backtick that stands right before a quotation mark. -/
def openingPass : Text → Text
  | c :: d :: t =>
    if c = '\x60' && isQuotationMark d then d :: openingPass t else c :: openingPass (d :: t)
  | t => t

/-- Drops every backtick that stands right after a quotation mark. -/
def closingPass : Text → Text
  | c :: d :: t =>
    if isQuotationMark c && d = '\x60' then c :: closingPass t else c :: closingPass (d :: t)
  | t => t

/-- A backtick becomes a double quote. -/
def plainQuote (c : Char) : Char := if c = '\x60' then '\x22' else c

/-- The manual page text for a description with inline markup. -/
def convert (t : Text) : Text := (closingPass (openingPass (linkPass (boldPass t)))).map plainQuote

end Manpage.Prose
