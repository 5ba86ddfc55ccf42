import Mathlib.Data.List.TakeWhile
import Manpage.Page.OptionList

/-!
# Option lists and their spellings

An option list is a layout of spellings: each on a line of its own, with white space around it, and other lines between
them that are blank or comments.  Reading gives the spellings of a layout back, and every text is a layout of what is
read from it.

* `Text.trim_padded`, `Text.exists_padded` — trimming takes white space off both ends and nothing else;
* `IsListable` — the texts that an option list can hold, and `trim_padded_of_isListable`;
* `IsPassedOver`, `LaysOut` — the lines that give nothing, and lines as a layout of spellings;
* `spellingsOf_of_laysOut`, `laysOut_spellingsOf` — reading against layouts, in the two directions;
  `readOptionList_round_trip`: both together.
-/

namespace Manpage

open Unicode

/-! ### Trimming what was padded -/

namespace Text

/-- A text of white space alone. -/
def IsBlank (t : Text) : Prop := ∀ c ∈ t, isBlank c = true

instance (t : Text) : Decidable (IsBlank t) := decidable_of_iff (t.all isBlank = true) List.all_eq_true

variable {p q t : Text}

theorem trimStart_append_of_isBlank (hp : IsBlank p) (t : Text) : trimStart (p ++ t) = trimStart t :=
  List.dropWhile_append_of_pos hp

theorem trimEnd_append_of_isBlank (hq : IsBlank q) (t : Text) : trimEnd (t ++ q) = trimEnd t := by
  rw [trimEnd, List.reverse_append, List.dropWhile_append_of_pos]
  · rfl
  · exact fun c hc => hq c (List.mem_reverse.1 hc)

theorem trim_of_isBlank (hp : IsBlank p) : trim p = [] := by
  have hstart := trimStart_append_of_isBlank hp []
  rw [List.append_nil] at hstart
  rw [trim, hstart]
  rfl

/-- White space around a text is trimmed off, if the text itself does not start with any. -/
theorem trim_padded (hp : IsBlank p) (hq : IsBlank q) {c : Char} (hc : isBlank c = false) (t : Text) :
    trim (p ++ c :: t ++ q) = trimEnd (c :: t) := by
  rw [trim, List.append_assoc, trimStart_append_of_isBlank hp, List.cons_append, trimStart_cons_of_not_blank hc,
    ← List.cons_append, trimEnd_append_of_isBlank hq]

/-- A text is what is left of it by trimming, with white space around that. -/
theorem exists_padded (t : Text) : ∃ p q, IsBlank p ∧ IsBlank q ∧ t = p ++ trim t ++ q := by
  let u := trimStart t
  have hstart : t.takeWhile isBlank ++ u = t := List.takeWhile_append_dropWhile
  have hend : trimEnd u ++ (u.reverse.takeWhile isBlank).reverse = u := by
    rw [trimEnd, ← List.reverse_append, List.takeWhile_append_dropWhile, List.reverse_reverse]
  refine ⟨t.takeWhile isBlank, (u.reverse.takeWhile isBlank).reverse, ?_, ?_, ?_⟩
  · exact fun c hc => List.mem_takeWhile_imp hc
  · exact fun c hc => List.mem_takeWhile_imp (List.mem_reverse.1 hc)
  · rw [trim, List.append_assoc]
    exact hstart.symm.trans (congrArg (t.takeWhile isBlank ++ ·) hend.symm)

/-- A text that was trimmed does not start with white space. -/
theorem isBlank_of_head?_trim {c : Char} (h : (trim t).head? = some c) : isBlank c = false := by
  have hfirst := List.head?_dropWhile_not isBlank t
  obtain ⟨u, hu⟩ := isPrefix_trimEnd (trimStart t)
  have hhead : (trimStart t).head? = some c := by
    rw [← hu, List.head?_append, ← trim, h]
    rfl
  rw [trimStart] at hhead
  rwa [hhead] at hfirst

end Text

/-! ### What an option list can hold -/

/-- A text that can be an entry of an option list: it is one line that is not empty, does not start or end with white
space, and is no comment. -/
structure IsListable (o : Text) : Prop where
  nonempty : o ≠ []
  oneLine : '\n' ∉ o
  first : ∀ c ∈ o.head?, isBlank c = false
  last : ∀ c ∈ o.getLast?, isBlank c = false
  noComment : o.head? ≠ some '#'

theorem any_isBlank_eq_false_iff {c? : Option Char} : c?.any isBlank = false ↔ ∀ c ∈ c?, isBlank c = false := by
  cases c? <;> simp

instance (o : Text) : Decidable (IsListable o) :=
  decidable_of_iff (o ≠ [] ∧ '\n' ∉ o ∧ o.head?.any isBlank = false ∧ o.getLast?.any isBlank = false ∧
      o.head? ≠ some '#')
    ⟨fun ⟨h₁, h₂, h₃, h₄, h₅⟩ => ⟨h₁, h₂, any_isBlank_eq_false_iff.1 h₃, any_isBlank_eq_false_iff.1 h₄, h₅⟩,
      fun h => ⟨h.nonempty, h.oneLine, any_isBlank_eq_false_iff.2 h.first, any_isBlank_eq_false_iff.2 h.last,
        h.noComment⟩⟩

variable {o : Text} {os ls : List Text}

theorem isSpelling_iff : isSpelling o = true ↔ o ≠ [] ∧ o.head? ≠ some '#' := by
  cases o with
  | nil => simp [isSpelling]
  | cons c o => simp [isSpelling]

/-- Trimming gives back what an option list can hold from a line that has white space around it. -/
theorem trim_padded_of_isListable {p q : Text} (ho : IsListable o) (hp : Text.IsBlank p) (hq : Text.IsBlank q) :
    Text.trim (p ++ o ++ q) = o := by
  cases o with
  | nil => exact absurd rfl ho.nonempty
  | cons c t =>
    rw [Text.trim_padded hp hq (ho.first c rfl)]
    obtain ⟨u, d, hu⟩ := (List.eq_nil_or_concat (c :: t)).resolve_left ho.nonempty
    rw [List.concat_eq_append] at hu
    have hlast : (c :: t).getLast? = some d := by rw [hu, List.getLast?_concat]
    rw [hu]
    exact Text.trimEnd_append_of_not_blank u (ho.last d hlast)

/-- What is left of a line by trimming can stand in an option list, if it counts as a spelling. -/
theorem isListable_trim {l : Text} (hl : '\n' ∉ l) (h : isSpelling (Text.trim l) = true) : IsListable (Text.trim l) where
  nonempty := (isSpelling_iff.1 h).1
  oneLine := fun hmem => hl (Text.mem_of_mem_trim hmem)
  first _ hc := Text.isBlank_of_head?_trim hc
  last _ hc := Text.isBlank_of_getLast?_trimEnd hc
  noComment := (isSpelling_iff.1 h).2

/-! ### Layouts -/

/-- White space within a line. -/
def IsPadding (p : Text) : Prop := Text.IsBlank p ∧ '\n' ∉ p

instance (p : Text) : Decidable (IsPadding p) := inferInstanceAs (Decidable (_ ∧ _))

/-- A line that gives nothing: it is blank, or its first character that is not white space is `#`. -/
inductive IsPassedOver : Text → Prop
  | blank {p : Text} (hp : IsPadding p) : IsPassedOver p
  | comment {p rest : Text} (hp : IsPadding p) (hrest : '\n' ∉ rest) : IsPassedOver (p ++ '#' :: rest)

/-- Lines lay out a list of texts: each on a line of its own, with white space around it, and between these lines any
number of lines that give nothing. -/
inductive LaysOut : List Text → List Text → Prop
  | nil : LaysOut [] []
  | passed {l : Text} {ls os : List Text} (hl : IsPassedOver l) (hls : LaysOut ls os) : LaysOut (l :: ls) os
  | option {p o q : Text} {ls os : List Text} (hp : IsPadding p) (hq : IsPadding q) (hls : LaysOut ls os) :
    LaysOut ((p ++ o ++ q) :: ls) (o :: os)

theorem IsPassedOver.not_isSpelling {l : Text} (h : IsPassedOver l) : isSpelling (Text.trim l) = false := by
  cases h with
  | blank hp =>
    rw [Text.trim_of_isBlank hp.1]
    rfl
  | @comment p rest hp hrest =>
    have htrim := Text.trim_padded hp.1 (q := []) (fun c hc => absurd hc List.not_mem_nil) (c := '#') (by decide) rest
    obtain ⟨t, ht⟩ : ∃ t, Text.trimEnd ('#' :: rest) = '#' :: t := ⟨_, Text.trimEnd_append_cons [] (by decide) rest⟩
    rw [List.append_nil, ht] at htrim
    rw [htrim]
    rfl

theorem IsPassedOver.lineFeed_not_mem {l : Text} (h : IsPassedOver l) : '\n' ∉ l := by
  cases h with
  | blank hp => exact hp.2
  | comment hp hrest => simp [hp.2, hrest]

/-- Where trimming leaves no spelling, the line was one of those that give nothing. -/
theorem isPassedOver_of_not_isSpelling {l : Text} (hl : '\n' ∉ l) (h : isSpelling (Text.trim l) = false) :
    IsPassedOver l := by
  obtain ⟨p, q, hp, hq, hpadded⟩ := Text.exists_padded l
  generalize Text.trim l = o at h hpadded
  subst hpadded
  rw [List.append_assoc] at hl ⊢
  have hpadding : IsPadding p := ⟨hp, fun hmem => hl (List.mem_append_left _ hmem)⟩
  cases o with
  | nil =>
    refine IsPassedOver.blank ⟨?_, hl⟩
    intro c hc
    rcases List.mem_append.1 hc with hc | hc
    · exact hp c hc
    · exact hq c hc
  | cons c o =>
    obtain rfl : c = '#' := by simpa [isSpelling] using h
    exact IsPassedOver.comment hpadding fun hmem => hl (List.mem_append_right _ (List.mem_cons_of_mem _ hmem))

/-! ### Reading against layouts -/

/-- The spellings that lines give. -/
def spellingsOf (ls : List Text) : List Text := (ls.map Text.trim).filter isSpelling

theorem spellingsOf_cons (l : Text) (ls : List Text) :
    spellingsOf (l :: ls) = if isSpelling (Text.trim l) then Text.trim l :: spellingsOf ls else spellingsOf ls := by
  rw [spellingsOf, List.map_cons, List.filter_cons]
  rfl

/-- Reading undoes a layout. -/
theorem spellingsOf_of_laysOut (h : LaysOut ls os) (hos : ∀ o ∈ os, IsListable o) : spellingsOf ls = os := by
  -- induction on the layout, line by line
  induction h with
  | nil => rfl
  | passed hl hls ih =>
    rw [spellingsOf_cons, hl.not_isSpelling]
    exact ih hos
  | @option p o q ls os hp hq hls ih =>
    have ho : IsListable o := hos o List.mem_cons_self
    have hspelling : isSpelling o = true := isSpelling_iff.2 ⟨ho.nonempty, ho.noComment⟩
    rw [spellingsOf_cons, trim_padded_of_isListable ho hp.1 hq.1, if_pos hspelling,
      ih fun o' ho' => hos o' (List.mem_cons_of_mem _ ho')]

/-- Lines lay out the spellings that they give. -/
theorem laysOut_spellingsOf (h : ∀ l ∈ ls, '\n' ∉ l) : LaysOut ls (spellingsOf ls) := by
  induction ls with
  | nil => exact LaysOut.nil
  | cons l ls ih =>
    have hl := h l List.mem_cons_self
    have hls := ih fun l' hl' => h l' (List.mem_cons_of_mem _ hl')
    rw [spellingsOf_cons]
    cases hspelling : isSpelling (Text.trim l) with
    | false => exact LaysOut.passed (isPassedOver_of_not_isSpelling hl hspelling) hls
    | true =>
      obtain ⟨p, q, hp, hq, hpadded⟩ := Text.exists_padded l
      generalize Text.trim l = o at hpadded
      subst hpadded
      simp only [List.mem_append, not_or] at hl
      exact LaysOut.option ⟨hp, hl.1.1⟩ ⟨hq, hl.2⟩ hls

theorem isListable_of_mem_spellingsOf (h : ∀ l ∈ ls, '\n' ∉ l) (ho : o ∈ spellingsOf ls) : IsListable o := by
  obtain ⟨hmem, hspelling⟩ := List.mem_filter.1 ho
  obtain ⟨l, hl, rfl⟩ := List.mem_map.1 hmem
  exact isListable_trim (h l hl) hspelling

/-- No line of a layout holds a line feed, so the layout is found again among the lines of a text. -/
theorem LaysOut.lineFeed_not_mem (h : LaysOut ls os) (hos : ∀ o ∈ os, IsListable o) : ∀ l ∈ ls, '\n' ∉ l := by
  induction h with
  | nil => simp
  | passed hl hls ih => simpa [hl.lineFeed_not_mem] using ih hos
  | option hp hq hls ih =>
    rw [List.forall_mem_cons] at hos ⊢
    exact ⟨by simp [hp.2, hq.2, hos.1.oneLine], ih hos.2⟩

/-- **Option lists round-trip.**  What is read from a text can stand in an option list, and the lines of the text lay it
out.  And a list of texts that can stand there is read back from all lines that lay it out, whatever blank lines, comments
and white space there are. -/
theorem readOptionList_round_trip :
    (∀ t : Text, (∀ o ∈ readOptionList t, IsListable o) ∧ LaysOut (Text.lines t) (readOptionList t)) ∧
      ∀ os ls : List Text, (∀ o ∈ os, IsListable o) → LaysOut ls os → readOptionList (Text.unlines ls) = os := by
  constructor
  · intro t
    have hlines : ∀ l ∈ Text.lines t, '\n' ∉ l := fun l hl => Text.not_mem_of_mem_pieces hl
    exact ⟨fun o ho => isListable_of_mem_spellingsOf hlines ho, laysOut_spellingsOf hlines⟩
  · intro os ls hos h
    have hread := spellingsOf_of_laysOut h hos
    cases ls with
    | nil => exact hread
    | cons l ls =>
      rw [← hread]
      exact congrArg spellingsOf (Text.lines_unlines (List.cons_ne_nil l ls) (h.lineFeed_not_mem hos))

/-- White space of many kinds stands around these lines and between them: tabs, form feeds, carriage returns, no-break
spaces. -/
theorem readOptionList_among_comments :
    let ls := ["# options\r".toList, [], "\t--foo\r".toList, "\u00a0# old: --bar\x0c".toList, "\x0c\u00a0".toList,
      " -e --alias\u00a0\r".toList]
    let os := ["--foo".toList, "-e --alias".toList]
    (∀ o ∈ os, IsListable o) ∧ LaysOut ls os ∧ readOptionList (Text.unlines ls) = os := by
  intro ls os
  have hos : ∀ o ∈ os, IsListable o := by decide
  have hls : LaysOut ls os := by
    refine LaysOut.passed (IsPassedOver.comment (p := []) (by decide) (by decide)) ?_
    refine LaysOut.passed (IsPassedOver.blank (by decide)) ?_
    refine LaysOut.option (p := ['\t']) (o := "--foo".toList) (q := ['\r']) (by decide) (by decide) ?_
    refine LaysOut.passed (IsPassedOver.comment (p := ['\u00a0']) (by decide) (by decide)) ?_
    refine LaysOut.passed (IsPassedOver.blank (by decide)) ?_
    exact LaysOut.option (p := [' ']) (o := "-e --alias".toList) (q := ['\u00a0', '\r']) (by decide) (by decide)
      LaysOut.nil
  exact ⟨hos, hls, readOptionList_round_trip.2 os ls hos hls⟩

end Manpage
