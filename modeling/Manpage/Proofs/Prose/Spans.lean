import Mathlib.Logic.Basic
import Manpage.Proofs.Prose.Lines

/-!
# Where spans are found

A bold span and a link are searched for in the text as it stands: what is in backticks is searched like all else.

* `boldSpan?_append`, `link?_append` — a span that is written in front of a text is found, and the search goes on with
  that text;
* `ClosesBold`, `ClosesLink` — what must follow an opening mark, and `HoldsBold`, `HoldsLink`, that such a span stands
  somewhere in a text;
* `boldPass_eq_self_iff`, `linkPass_eq_self_iff` — a pass leaves a text alone exactly if it holds no span of its kind,
  for each span that is found makes the text shorter (`length_boldPass_lt`, `length_linkPass_lt`);
* `convert_eq_map_iff` — so a text without quotation marks keeps all but its backticks exactly if it holds neither;
* `convert_codeSpan_iff` — when a stretch in backticks is carried over as it stands; `not_convert_codeSpan`, asterisks
  within backticks.
-/

namespace Manpage.Prose

/-! ### Spans as they are written -/

theorem boldSpan?_cons {c : Char} (hstar : c ≠ '*') (hline : c ≠ '\n') (t : Text) :
    boldSpan? (c :: t) = (boldSpan? t).map fun p => (c :: p.1, p.2) := by
  rw [boldSpan?, if_neg hline]
  intro v hc
  exact absurd hc hstar

/-- A bold text without asterisks ends at the mark behind it. -/
theorem boldSpan?_append {s : Text} (hstar : '*' ∉ s) (hline : '\n' ∉ s) (u : Text) :
    boldSpan? (s ++ '*' :: '*' :: u) = some (s, u) := by
  induction s with
  | nil => rfl
  | cons c s ih =>
    rw [List.mem_cons, not_or] at hstar hline
    rw [List.cons_append, boldSpan?_cons (Ne.symm hstar.1) (Ne.symm hline.1), ih hstar.2 hline.2, Option.map_some]

/-- A label without closing brackets ends at the two brackets behind it. -/
theorem label?_append {s : Text} (hbracket : ']' ∉ s) (hline : '\n' ∉ s) {o : Char} (ho : o = '(' ∨ o = '[')
    (u : Text) : label? (s ++ ']' :: o :: u) = some (s, u) := by
  induction s with
  | nil => simp [label?, ho]
  | cons c s ih =>
    rw [List.mem_cons, not_or] at hbracket hline
    rw [List.cons_append, label?_cons_of_ne (Ne.symm hbracket.1) (Ne.symm hline.1), ih hbracket.2 hline.2,
      Option.map_some]

theorem afterTarget?_cons_of_close {k : Char} (hk : k = ')' ∨ k = ']') (u : Text) : afterTarget? (k :: u) = some u := by
  rw [afterTarget?, if_pos (by simpa using hk)]

/-- A target without closing brackets ends at the one behind it. -/
theorem afterTarget?_append {m : Text} (hround : ')' ∉ m) (hsquare : ']' ∉ m) (hline : '\n' ∉ m) {k : Char}
    (hk : k = ')' ∨ k = ']') (u : Text) : afterTarget? (m ++ k :: u) = some u := by
  induction m with
  | nil => exact afterTarget?_cons_of_close hk u
  | cons c m ih =>
    rw [List.mem_cons, not_or] at hround hsquare hline
    rw [List.cons_append, afterTarget?, if_neg, if_neg (Ne.symm hline.1), ih hround.2 hsquare.2 hline.2]
    simp [Ne.symm hround.1, Ne.symm hsquare.1]

theorem link?_of_label? {t s w : Text} (h : label? t = some (s, w)) : link? t = (afterTarget? w).map (s, ·) := by
  rw [link?, h]

/-! ### What closes a span -/

/-- A mark that closes a bold span stands on the first line of the text. -/
def ClosesBold (t : Text) : Prop := ∃ s r, t = s ++ '*' :: '*' :: r ∧ '\n' ∉ s

/-- The brackets between label and target and the one behind the target stand on the first line of the text. -/
def ClosesLink (t : Text) : Prop :=
  ∃ s o m k r, t = s ++ ']' :: o :: (m ++ k :: r) ∧ (o = '(' ∨ o = '[') ∧ (k = ')' ∨ k = ']') ∧ '\n' ∉ s ∧ '\n' ∉ m

theorem exists_boldSpan? {s : Text} (hline : '\n' ∉ s) (r : Text) : ∃ p, boldSpan? (s ++ '*' :: '*' :: r) = some p := by
  induction s with
  | nil => exact ⟨([], r), rfl⟩
  | cons c s ih =>
    rw [List.mem_cons, not_or] at hline
    obtain ⟨p, hp⟩ := ih hline.2
    rw [List.cons_append, boldSpan?.eq_def]
    split
    · exact ⟨_, rfl⟩
    · next d t _ heq =>
      obtain ⟨rfl, rfl⟩ := List.cons.inj heq
      exact ⟨_, by rw [if_neg (Ne.symm hline.1), hp, Option.map_some]⟩
    · next heq => cases heq

theorem boldSpan?_eq_none_iff {t : Text} : boldSpan? t = none ↔ ¬ ClosesBold t := by
  constructor
  · rintro h ⟨s, r, rfl, hline⟩
    obtain ⟨p, hp⟩ := exists_boldSpan? hline r
    cases h.symm.trans hp
  · intro h
    cases hspan : boldSpan? t with
    | none => rfl
    | some p =>
      obtain ⟨s, r⟩ := p
      exact absurd ⟨s, r, eq_append_of_boldSpan? hspan⟩ h

theorem exists_afterTarget? {m : Text} (hline : '\n' ∉ m) {k : Char} (hk : k = ')' ∨ k = ']') (r : Text) :
    ∃ u, afterTarget? (m ++ k :: r) = some u := by
  induction m with
  | nil => exact ⟨r, afterTarget?_cons_of_close hk r⟩
  | cons c m ih =>
    rw [List.mem_cons, not_or] at hline
    obtain ⟨u, hu⟩ := ih hline.2
    rw [List.cons_append, afterTarget?, if_neg (Ne.symm hline.1), hu]
    split
    · exact ⟨_, rfl⟩
    · exact ⟨_, rfl⟩

/-- Where two brackets end a label, the search finds these or two others before them; and a target ends behind either,
if it does behind these. -/
theorem exists_label? {s : Text} (hline : '\n' ∉ s) {o : Char} (ho : o = '(' ∨ o = '[') {w : Text}
    (hw : ∃ u, afterTarget? w = some u) :
    ∃ s' w', label? (s ++ ']' :: o :: w) = some (s', w') ∧ ∃ u, afterTarget? w' = some u := by
  induction s with
  | nil => exact ⟨[], w, label?_append List.not_mem_nil List.not_mem_nil ho w, hw⟩
  | cons c s ih =>
    rw [List.mem_cons, not_or] at hline
    obtain ⟨s', w', hlabel, htarget⟩ := ih hline.2
    rw [List.cons_append, label?.eq_def]
    split
    · next d t heq =>
      obtain ⟨rfl, htail⟩ := List.cons.inj heq
      split
      · next hd =>
        refine ⟨[], t, rfl, ?_⟩
        -- these brackets come first, and the closing bracket of the label ends their target
        cases s with
        | nil =>
          obtain ⟨rfl, rfl⟩ := List.cons.inj htail
          cases hd
        | cons e s =>
          obtain ⟨-, rfl⟩ := List.cons.inj htail
          exact exists_afterTarget? (fun hmem => hline.2 (List.mem_cons_of_mem e hmem)) (Or.inr rfl) (o :: w)
      · exact ⟨']' :: s', w', by rw [← htail, hlabel, Option.map_some], htarget⟩
    · next d t _ heq =>
      obtain ⟨rfl, rfl⟩ := List.cons.inj heq
      exact ⟨c :: s', w', by rw [if_neg (Ne.symm hline.1), hlabel, Option.map_some], htarget⟩
    · next heq => cases heq

theorem link?_eq_none_iff {t : Text} : link? t = none ↔ ¬ ClosesLink t := by
  constructor
  · rintro h ⟨s, o, m, k, r, rfl, ho, hk, hs, hm⟩
    obtain ⟨s', w', hlabel, u, hu⟩ := exists_label? hs ho (exists_afterTarget? hm hk r)
    rw [link?_of_label? hlabel, hu] at h
    cases h
  · intro h
    cases hlink : link? t with
    | none => rfl
    | some p =>
      obtain ⟨s, r⟩ := p
      obtain ⟨o, m, k, ht⟩ := eq_append_of_link? hlink
      exact absurd ⟨s, o, m, k, r, ht⟩ h

/-! ### Texts with a span -/

/-- A bold span stands in the text. -/
def HoldsBold (t : Text) : Prop := ∃ u, '*' :: '*' :: u <:+ t ∧ ClosesBold u

/-- A link stands in the text. -/
def HoldsLink (t : Text) : Prop := ∃ u, '[' :: u <:+ t ∧ ClosesLink u

theorem holdsBold_cons_iff {c : Char} {t : Text} :
    HoldsBold (c :: t) ↔ (∃ u, c = '*' ∧ t = '*' :: u ∧ ClosesBold u) ∨ HoldsBold t := by
  constructor
  · rintro ⟨u, hu, hclose⟩
    rcases List.suffix_cons_iff.1 hu with heq | hsuffix
    · obtain ⟨rfl, rfl⟩ := List.cons.inj heq
      exact Or.inl ⟨u, rfl, rfl, hclose⟩
    · exact Or.inr ⟨u, hsuffix, hclose⟩
  · rintro (⟨u, rfl, rfl, hclose⟩ | ⟨u, hu, hclose⟩)
    · exact ⟨u, List.suffix_refl _, hclose⟩
    · exact ⟨u, hu.trans (List.suffix_cons c t), hclose⟩

theorem holdsLink_cons_iff {c : Char} {t : Text} : HoldsLink (c :: t) ↔ c = '[' ∧ ClosesLink t ∨ HoldsLink t := by
  constructor
  · rintro ⟨u, hu, hclose⟩
    rcases List.suffix_cons_iff.1 hu with heq | hsuffix
    · obtain ⟨rfl, rfl⟩ := List.cons.inj heq
      exact Or.inl ⟨rfl, hclose⟩
    · exact Or.inr ⟨u, hsuffix, hclose⟩
  · rintro (⟨rfl, hclose⟩ | ⟨u, hu, hclose⟩)
    · exact ⟨t, List.suffix_refl _, hclose⟩
    · exact ⟨u, hu.trans (List.suffix_cons c t), hclose⟩

theorem boldPass_of_not_holdsBold {t : Text} (h : ¬ HoldsBold t) : boldPass t = t := by
  fun_induction boldPass t with
  | case1 t s r hspan ih =>
    exact absurd (holdsBold_cons_iff.2 (Or.inl ⟨t, rfl, rfl, s, r, eq_append_of_boldSpan? hspan⟩)) h
  | case2 t hspan ih => rw [ih fun hrest => h (holdsBold_cons_iff.2 (Or.inr hrest))]
  | case3 c t hstar ih => rw [ih fun hrest => h (holdsBold_cons_iff.2 (Or.inr hrest))]
  | case4 => rfl

theorem linkPass_of_not_holdsLink {t : Text} (h : ¬ HoldsLink t) : linkPass t = t := by
  fun_induction linkPass t with
  | case1 => rfl
  | case2 t s r hlink ih =>
    obtain ⟨o, m, k, ht⟩ := eq_append_of_link? hlink
    exact absurd (holdsLink_cons_iff.2 (Or.inl ⟨rfl, s, o, m, k, r, ht⟩)) h
  | case3 t hlink ih => rw [ih fun hrest => h (holdsLink_cons_iff.2 (Or.inr hrest))]
  | case4 c t hc ih => rw [ih fun hrest => h (holdsLink_cons_iff.2 (Or.inr hrest))]

/-! ### Spans make a text shorter -/

theorem length_boldPass_le (t : Text) : (boldPass t).length ≤ t.length := by
  fun_induction boldPass t with
  | case1 t s r hspan ih =>
    rw [(eq_append_of_boldSpan? hspan).1]
    simp only [List.length_cons, List.length_append]
    omega
  | case2 t hspan ih => exact Nat.succ_le_succ ih
  | case3 c t hstar ih => exact Nat.succ_le_succ ih
  | case4 => exact Nat.le_refl 0

theorem length_boldPass_lt {t : Text} (h : HoldsBold t) : (boldPass t).length < t.length := by
  fun_induction boldPass t with
  | case1 t s r hspan ih =>
    have hrest := length_boldPass_le r
    rw [(eq_append_of_boldSpan? hspan).1]
    simp only [List.length_cons, List.length_append]
    omega
  | case2 t hspan ih =>
    rcases holdsBold_cons_iff.1 h with ⟨u, -, heq, hclose⟩ | hrest
    · rw [List.cons.inj heq |>.2] at hspan
      exact absurd hclose (boldSpan?_eq_none_iff.1 hspan)
    · exact Nat.succ_lt_succ (ih hrest)
  | case3 c t hstar ih =>
    rcases holdsBold_cons_iff.1 h with ⟨u, hc, rfl, hclose⟩ | hrest
    · exact absurd rfl (hstar u hc)
    · exact Nat.succ_lt_succ (ih hrest)
  | case4 =>
    obtain ⟨u, hu, -⟩ := h
    cases List.suffix_nil.1 hu

theorem length_linkPass_le (t : Text) : (linkPass t).length ≤ t.length := by
  fun_induction linkPass t with
  | case1 => exact Nat.le_refl 0
  | case2 t s r hlink ih =>
    obtain ⟨o, m, k, rfl, -⟩ := eq_append_of_link? hlink
    simp only [List.length_cons, List.length_append]
    omega
  | case3 t hlink ih => exact Nat.succ_le_succ ih
  | case4 c t hc ih => exact Nat.succ_le_succ ih

theorem length_linkPass_lt {t : Text} (h : HoldsLink t) : (linkPass t).length < t.length := by
  fun_induction linkPass t with
  | case1 =>
    obtain ⟨u, hu, -⟩ := h
    cases List.suffix_nil.1 hu
  | case2 t s r hlink ih =>
    have hrest := length_linkPass_le r
    obtain ⟨o, m, k, rfl, -⟩ := eq_append_of_link? hlink
    simp only [List.length_cons, List.length_append]
    omega
  | case3 t hlink ih =>
    rcases holdsLink_cons_iff.1 h with ⟨-, hclose⟩ | hrest
    · exact absurd hclose (link?_eq_none_iff.1 hlink)
    · exact Nat.succ_lt_succ (ih hrest)
  | case4 c t hc ih =>
    rcases holdsLink_cons_iff.1 h with ⟨heq, -⟩ | hrest
    · exact absurd heq hc
    · exact Nat.succ_lt_succ (ih hrest)

/-- The pass for bold text leaves a text alone exactly if it holds no bold span. -/
theorem boldPass_eq_self_iff {t : Text} : boldPass t = t ↔ ¬ HoldsBold t := by
  refine ⟨fun heq h => ?_, boldPass_of_not_holdsBold⟩
  have hlt := length_boldPass_lt h
  rw [heq] at hlt
  exact Nat.lt_irrefl _ hlt

/-- The pass for links leaves a text alone exactly if it holds no link. -/
theorem linkPass_eq_self_iff {t : Text} : linkPass t = t ↔ ¬ HoldsLink t := by
  refine ⟨fun heq h => ?_, linkPass_of_not_holdsLink⟩
  have hlt := length_linkPass_lt h
  rw [heq] at hlt
  exact Nat.lt_irrefl _ hlt

/-! ### Conversion without quotation marks -/

/-- The passes for spans bring no quotation marks into a text. -/
theorem isQuotationMark_of_mem_passes {t : Text} (h : ∀ c ∈ t, isQuotationMark c = false) :
    ∀ c ∈ linkPass (boldPass t), isQuotationMark c = false := by
  intro c hc
  rcases mem_boldPass (mem_linkPass hc) with hc | hc
  · exact h c hc
  · simp only [List.mem_cons, List.not_mem_nil, or_false] at hc
    rcases hc with rfl | rfl | rfl <;> rfl

/-- Where no quotation mark stands, every backtick becomes a double quote. -/
theorem convert_of_forall_not_quotationMark {t : Text} (h : ∀ c ∈ t, isQuotationMark c = false) :
    convert t = (linkPass (boldPass t)).map plainQuote := by
  have hpasses := isQuotationMark_of_mem_passes h
  rw [convert, openingPass_of_forall_not hpasses, closingPass_of_forall_not hpasses]

/-- A text without quotation marks keeps all but its backticks exactly if it holds neither a bold span nor a link. -/
theorem convert_eq_map_iff {t : Text} (h : ∀ c ∈ t, isQuotationMark c = false) :
    convert t = t.map plainQuote ↔ ¬ HoldsBold t ∧ ¬ HoldsLink t := by
  rw [convert_of_forall_not_quotationMark h]
  constructor
  · intro heq
    have hlength : (linkPass (boldPass t)).length = t.length := by
      have hmap := congrArg List.length heq
      rwa [List.length_map, List.length_map] at hmap
    have hlink := length_linkPass_le (boldPass t)
    have hbold : ¬ HoldsBold t := by
      intro hholds
      have hlt := length_boldPass_lt hholds
      omega
    refine ⟨hbold, fun hholds => ?_⟩
    have hlt := length_linkPass_lt hholds
    rw [boldPass_of_not_holdsBold hbold] at hlength
    omega
  · rintro ⟨hbold, hlink⟩
    rw [boldPass_of_not_holdsBold hbold, linkPass_of_not_holdsLink hlink]

/-! ### A stretch in backticks -/

/-- No bold span reaches past a character behind which there are no asterisks. -/
theorem boldSpan?_append_cons_of_not_mem {c : Char} {u : Text} (hu : '*' ∉ c :: u) (t : Text) :
    boldSpan? (t ++ c :: u) = (boldSpan? t).map fun p => (p.1, p.2 ++ c :: u) := by
  have hc : '*' ≠ c := fun heq => hu (heq ▸ List.mem_cons_self)
  fun_induction boldSpan? t with
  | case1 t => rfl
  | case2 t hstar => simp [boldSpan?]
  | case3 d t hstar hline ih =>
    rw [List.cons_append, boldSpan?, if_neg hline, ih, Option.map_map, Option.map_map]
    · rfl
    · intro v hd hv
      obtain ⟨w, hw⟩ := eq_cons_of_append_cons hc hv
      exact hstar w hd hw
  | case4 =>
    rw [List.nil_append, Option.map_none, boldSpan?_eq_none_iff]
    rintro ⟨s, r, heq, -⟩
    exact hu (heq ▸ List.mem_append_right s List.mem_cons_self)

/-- What stands behind the last asterisk is of no account to the pass for bold text. -/
theorem boldPass_append_cons_of_not_mem {c : Char} {u : Text} (hu : '*' ∉ c :: u) (t : Text) :
    boldPass (t ++ c :: u) = boldPass t ++ c :: u := by
  have hc : c ≠ '*' := fun heq => hu (heq ▸ List.mem_cons_self)
  rw [boldPass_append_cons hc (boldSpan?_append_cons_of_not_mem hu),
    boldPass_of_not_mem fun hmem => hu (List.mem_cons_of_mem c hmem)]

theorem holdsBold_append_iff {a : Text} (ha : '*' ∉ a) (t : Text) : HoldsBold (a ++ t) ↔ HoldsBold t := by
  induction a with
  | nil => exact Iff.rfl
  | cons c a ih =>
    rw [List.mem_cons, not_or] at ha
    rw [List.cons_append, holdsBold_cons_iff, ih ha.2]
    exact or_iff_right fun ⟨_, hc, _⟩ => ha.1 hc.symm

theorem holdsLink_append_iff {a : Text} (ha : '[' ∉ a) (t : Text) : HoldsLink (a ++ t) ↔ HoldsLink t := by
  induction a with
  | nil => exact Iff.rfl
  | cons c a ih =>
    rw [List.mem_cons, not_or] at ha
    rw [List.cons_append, holdsLink_cons_iff, ih ha.2]
    exact or_iff_right fun ⟨hc, _⟩ => ha.1 hc.symm

theorem holdsBold_append_cons_iff {c : Char} {u : Text} (hu : '*' ∉ c :: u) (t : Text) :
    HoldsBold (t ++ c :: u) ↔ HoldsBold t := by
  have hself : boldPass (t ++ c :: u) = t ++ c :: u ↔ boldPass t = t := by
    rw [boldPass_append_cons_of_not_mem hu, List.append_cancel_right_eq]
  rwa [boldPass_eq_self_iff, boldPass_eq_self_iff, not_iff_not] at hself

/-- The marks by which spans and quotations open.  A round bracket is a mark only behind a square one. -/
def openingMarks : Text := ['*', '[', ']', '\x60', '\x22', '\x27']

/-- A text in backticks between two others. -/
def codeSpan (a c b : Text) : Text := a ++ '\x60' :: (c ++ '\x60' :: b)

/-- Asterisks within backticks open and close a bold span. -/
theorem not_convert_codeSpan :
    ¬ ∀ a b c : Text, (∀ x ∈ a ++ b, x ∉ openingMarks) → (∀ x ∈ c, x ≠ '\x60' ∧ x ≠ '\n' ∧ isQuotationMark x = false) →
      convert (codeSpan a c b) = a ++ '\x22' :: (c ++ '\x22' :: b) := by
  intro h
  have hplain : ∀ x ∈ "Use ".toList ++ " here.".toList, x ∉ openingMarks := by
    have hall : ("Use ".toList ++ " here.".toList).all (fun x => x ∉ openingMarks) = true := by decide
    simpa using hall
  have hquoted : ∀ x ∈ "a**b**c".toList, x ≠ '\x60' ∧ x ≠ '\n' ∧ isQuotationMark x = false := by
    have hall : "a**b**c".toList.all (fun x => x ≠ '\x60' && x ≠ '\n' && !isQuotationMark x) = true := by decide
    simpa [and_assoc] using hall
  have hkept := h "Use ".toList " here.".toList "a**b**c".toList hplain hquoted
  have hbold : convert "Use `a**b**c` here.".toList = "Use \"a.B bc\" here.".toList := by decide +kernel
  exact absurd (hbold.symm.trans hkept) (by decide)

/-- **A stretch in backticks is carried over as it stands exactly if it holds no span.**  Let it stand between texts
without marks.  It keeps its characters, in double quotes, if no bold span stands in it and no link opens in it that
closes there or, behind the backtick, on the rest of its line; and only then, for a span within backticks is rewritten
like any other. -/
theorem convert_codeSpan_iff {a b c : Text} (ha : ∀ x ∈ a, x ∉ openingMarks) (hb : ∀ x ∈ b, x ∉ openingMarks)
    (hc : ∀ x ∈ c, x ≠ '\x60' ∧ isQuotationMark x = false) :
    convert (codeSpan a c b) = a ++ '\x22' :: (c ++ '\x22' :: b) ↔ ¬ HoldsBold c ∧ ¬ HoldsLink (c ++ '\x60' :: b) := by
  have hfree {t : Text} (ht : ∀ x ∈ t, x ∉ openingMarks) {x : Char} (hx : x ∈ openingMarks) : x ∉ t :=
    fun hmem => ht x hmem hx
  have hunquoted {t : Text} (ht : ∀ x ∈ t, x ∉ openingMarks) : ∀ x ∈ t, isQuotationMark x = false := by
    intro x hx
    have hmark := ht x hx
    simp only [openingMarks, List.mem_cons, List.not_mem_nil, or_false, not_or] at hmark
    simp [isQuotationMark, hmark]
  have hnone : ∀ x ∈ codeSpan a c b, isQuotationMark x = false := by
    simp only [codeSpan, List.forall_mem_append, List.forall_mem_cons]
    exact ⟨hunquoted ha, rfl, fun x hx => (hc x hx).2, rfl, hunquoted hb⟩
  have htick : '\x60' ∉ c := fun hmem => (hc _ hmem).1 rfl
  have hmap : (codeSpan a c b).map plainQuote = a ++ '\x22' :: (c ++ '\x22' :: b) := by
    simp only [codeSpan, List.map_append, List.map_cons, map_plainQuote_of_not_mem htick,
      map_plainQuote_of_not_mem (hfree ha (by decide)), map_plainQuote_of_not_mem (hfree hb (by decide))]
    rfl
  have hrear : '*' ∉ '\x60' :: b := by simpa using hfree hb (x := '*') (by decide)
  have hfront : codeSpan a c b = a ++ ['\x60'] ++ (c ++ '\x60' :: b) := by simp [codeSpan]
  have hbold : HoldsBold (codeSpan a c b) ↔ HoldsBold c := by
    rw [hfront, holdsBold_append_iff (by simpa using hfree ha (x := '*') (by decide)), holdsBold_append_cons_iff hrear]
  have hlink : HoldsLink (codeSpan a c b) ↔ HoldsLink (c ++ '\x60' :: b) := by
    rw [hfront, holdsLink_append_iff (by simpa using hfree ha (x := '[') (by decide))]
  rw [← hmap, convert_eq_map_iff hnone, hbold, hlink]

/-- A link that would begin within backticks is none if its target does not close on the line, so that the stretch is
carried over; behind another text it is one, and the stretch is not. -/
theorem convert_codeSpan_of_brackets :
    convert (codeSpan "Use ".toList "[0](**/*.js".toList " as is,\nand (all).".toList) =
        "Use \"[0](**/*.js\" as is,\nand (all).".toList ∧
      convert (codeSpan "Use ".toList "[0](**/*.js".toList " (all).".toList) ≠
        "Use \"[0](**/*.js\" (all).".toList := by
  have hplain {t : Text} (h : t.all (fun x => x ∉ openingMarks) = true) : ∀ x ∈ t, x ∉ openingMarks := by
    simpa using h
  have hquoted : ∀ x ∈ "[0](**/*.js".toList, x ≠ '\x60' ∧ isQuotationMark x = false := by
    have hall : "[0](**/*.js".toList.all (fun x => x ≠ '\x60' && !isQuotationMark x) = true := by decide
    simpa using hall
  have hbold : ¬ HoldsBold "[0](**/*.js".toList := boldPass_eq_self_iff.1 (by decide +kernel)
  have hopen : ¬ HoldsLink ("[0](**/*.js".toList ++ '\x60' :: " as is,\nand (all).".toList) :=
    linkPass_eq_self_iff.1 (by decide +kernel)
  have hclosed : HoldsLink ("[0](**/*.js".toList ++ '\x60' :: " (all).".toList) :=
    ⟨_, List.suffix_refl _, "0".toList, '(', "**/*.js` (all".toList, ')', ".".toList, by decide, by decide, by decide,
      by decide, by decide⟩
  exact ⟨(convert_codeSpan_iff (hplain (by decide)) (hplain (by decide)) hquoted).2 ⟨hbold, hopen⟩,
    fun heq => ((convert_codeSpan_iff (hplain (by decide)) (hplain (by decide)) hquoted).1 heq).2 hclosed⟩

end Manpage.Prose
