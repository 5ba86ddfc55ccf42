/-!
# Texts

A text is a list of characters.  This module holds what the rest of the library asks of one, and of a list of
them, without looking at any character class:

* `Text.after?` — what follows a marker at the front (`after?_eq_some_iff`: it undoes appending; `after?_append_cons`:
  it does not look past a character that the marker does not hold);
* `Text.pieces` — the stretches between the occurrences of a separator character, and `Text.lines`, its case for
  the line feed (`joined_pieces`: joining the pieces gives the text back; `not_mem_of_mem_pieces`: no piece
  holds the separator);
* `Text.joined`, `Text.unlines` — the texts of a list with a separator between them (`pieces_joined`: pieces without
  the separator are found again; `joined_append_cons`: what stands around one text of the list);
* `Text.padRight` — blank fill up to a width.
-/

namespace Manpage

/-- A text, as its characters in order.  No character is one half of a surrogate pair, so that every text can be
printed. -/
abbrev Text := List Char

namespace Text

/-! ### Markers at the front -/

/-- What follows the marker at the front of a text, if the text opens with it. -/
def after? : (marker text : Text) → Option Text
  | [], t => some t
  | _ :: _, [] => none
  | m :: ms, c :: t => if m = c then after? ms t else none

@[simp] theorem after?_append (m t : Text) : after? m (m ++ t) = some t := by
  induction m with
  | nil => simp [after?]
  | cons c m ih => simp [after?, ih]

theorem after?_eq_some_iff {m t r : Text} : after? m t = some r ↔ t = m ++ r := by
  constructor
  · fun_induction after? m t with
    | case1 t => intro h; simpa using h
    | case2 => intro h; cases h
    | case3 c ms t ih => intro h; simp [ih h]
    | case4 => intro h; cases h
  · rintro rfl; exact after?_append m r

/-- A character that the marker does not hold, and what follows it, are of no account to what stands before it. -/
theorem after?_append_cons {m : Text} {c : Char} (hm : c ∉ m) (t u : Text) :
    after? m (t ++ c :: u) = (after? m t).map (· ++ c :: u) := by
  fun_induction after? m t with
  | case1 t => rfl
  | case2 d m =>
    have hd : d ≠ c := fun heq => hm (heq ▸ List.mem_cons_self)
    rw [List.nil_append, after?, if_neg hd]
    rfl
  | case3 m d t ih =>
    rw [List.cons_append, after?, if_pos rfl, ih fun hmem => hm (List.mem_cons_of_mem d hmem)]
  | case4 d m e t hde =>
    rw [List.cons_append, after?, if_neg hde]
    rfl

/-- Whether a text opens with the marker. -/
def opensWith (marker text : Text) : Bool := (after? marker text).isSome

theorem opensWith_iff {m t : Text} : opensWith m t = true ↔ ∃ r, t = m ++ r := by
  simp [opensWith, Option.isSome_iff_exists, after?_eq_some_iff]

/-! ### Pieces between separators -/

/-- The stretches of a text between the occurrences of a separator; a text without one is its only piece. -/
def pieces (sep : Char) : Text → List Text
  | [] => [[]]
  | c :: t => if c = sep then [] :: pieces sep t else (pieces sep t).modifyHead (c :: ·)

/-- The texts of a list, one after the other with a separator between them. -/
def joined (sep : Text) : List Text → Text
  | [] => []
  | [t] => t
  | t :: u :: ts => t ++ sep ++ joined sep (u :: ts)

theorem pieces_ne_nil (sep : Char) (t : Text) : pieces sep t ≠ [] := by
  induction t with
  | nil => simp [pieces]
  | cons c t ih =>
    by_cases h : c = sep
    · simp [pieces, h]
    · cases hp : pieces sep t with
      | nil => exact absurd hp ih
      | cons => simp [pieces, h, hp]

/-- Joining the pieces of a text gives the text back. -/
theorem joined_pieces (sep : Char) (t : Text) : joined [sep] (pieces sep t) = t := by
  induction t with
  | nil => rfl
  | cons c t ih =>
    cases hp : pieces sep t with
    | nil => exact absurd hp (pieces_ne_nil sep t)
    | cons p ps =>
      rw [hp] at ih
      by_cases h : c = sep
      · simp [pieces, h, hp, joined, ih]
      · cases ps with
        | nil => simpa [pieces, h, hp, joined] using ih
        | cons q qs => simpa [pieces, h, hp, joined] using ih

/-- No piece of a text holds the separator. -/
theorem not_mem_of_mem_pieces {sep : Char} {t p : Text} (h : p ∈ pieces sep t) : sep ∉ p := by
  induction t generalizing p with
  | nil =>
    simp only [pieces, List.mem_singleton] at h
    simp [h]
  | cons c t ih =>
    by_cases hc : c = sep
    · rw [pieces, if_pos hc] at h
      rcases List.mem_cons.1 h with rfl | h
      · exact List.not_mem_nil
      · exact ih h
    · rw [pieces, if_neg hc] at h
      cases hp : pieces sep t with
      | nil => exact absurd hp (pieces_ne_nil sep t)
      | cons q qs =>
        rw [hp, List.modifyHead_cons] at h
        rcases List.mem_cons.1 h with rfl | h
        · have hq := ih (hp ▸ List.mem_cons_self)
          intro hm
          rcases List.mem_cons.1 hm with rfl | hm
          · exact hc rfl
          · exact hq hm
        · exact ih (hp ▸ List.mem_cons_of_mem _ h)

theorem pieces_of_not_mem {sep : Char} {t : Text} (h : sep ∉ t) : pieces sep t = [t] := by
  induction t with
  | nil => rfl
  | cons c t ih =>
    rw [List.mem_cons, not_or] at h
    rw [pieces, if_neg (Ne.symm h.1), ih h.2, List.modifyHead_cons]

/-- A text without the separator stays with the first piece of what follows it. -/
theorem pieces_append_of_not_mem {sep : Char} {t : Text} (h : sep ∉ t) (u : Text) :
    pieces sep (t ++ u) = (pieces sep u).modifyHead (t ++ ·) := by
  induction t with
  | nil => cases hp : pieces sep u <;> simp [hp]
  | cons c t ih =>
    rw [List.mem_cons, not_or] at h
    rw [List.cons_append, pieces, if_neg (Ne.symm h.1), ih h.2]
    cases hp : pieces sep u with
    | nil => exact absurd hp (pieces_ne_nil sep u)
    | cons p ps => rfl

/-- The pieces in front of a separator and those behind it have nothing to do with each other. -/
theorem pieces_append_cons (sep : Char) (t u : Text) : pieces sep (t ++ sep :: u) = pieces sep t ++ pieces sep u := by
  induction t with
  | nil => simp [pieces]
  | cons c t ih =>
    by_cases hc : c = sep
    · rw [List.cons_append, pieces, if_pos hc, ih, pieces, if_pos hc, List.cons_append]
    · rw [List.cons_append, pieces, if_neg hc, ih, pieces, if_neg hc]
      cases hp : pieces sep t with
      | nil => exact absurd hp (pieces_ne_nil sep t)
      | cons p ps => rfl

theorem pieces_append {sep : Char} {t : Text} (h : sep ∉ t) (u : Text) :
    pieces sep (t ++ sep :: u) = t :: pieces sep u := by
  rw [pieces_append_cons, pieces_of_not_mem h, List.singleton_append]

/-- Texts without the separator are the pieces of what they make when joined. -/
theorem pieces_joined {sep : Char} {ts : List Text} (hne : ts ≠ []) (h : ∀ t ∈ ts, sep ∉ t) :
    pieces sep (joined [sep] ts) = ts := by
  induction ts with
  | nil => exact absurd rfl hne
  | cons t ts ih =>
    have ht := h t List.mem_cons_self
    cases ts with
    | nil => exact pieces_of_not_mem ht
    | cons u ts =>
      have hts := ih (List.cons_ne_nil u ts) fun x hx => h x (List.mem_cons_of_mem _ hx)
      rw [joined, List.append_assoc, List.singleton_append, pieces_append ht, hts]

/-- The first piece of a text ends before the first separator. -/
theorem exists_pieces_eq_cons (sep : Char) (t : Text) :
    ∃ ps, pieces sep t = t.takeWhile (· ≠ sep) :: ps := by
  induction t with
  | nil => exact ⟨[], rfl⟩
  | cons c t ih =>
    obtain ⟨ps, hps⟩ := ih
    by_cases hc : c = sep
    · exact ⟨pieces sep t, by simp [pieces, hc]⟩
    · exact ⟨ps, by simp [pieces, hc, hps]⟩

theorem joined_cons (sep t : Text) {ts : List Text} (h : ts ≠ []) :
    joined sep (t :: ts) = t ++ sep ++ joined sep ts := by
  cases ts with
  | nil => exact absurd rfl h
  | cons u ts => rfl

theorem joined_append {sep : Text} {us ts : List Text} (hus : us ≠ []) (hts : ts ≠ []) :
    joined sep (us ++ ts) = joined sep us ++ sep ++ joined sep ts := by
  induction us with
  | nil => exact absurd rfl hus
  | cons u us ih =>
    cases us with
    | nil => exact joined_cons sep u hts
    | cons v us =>
      have hrest := ih (List.cons_ne_nil v us)
      have hne : v :: us ++ ts ≠ [] := List.append_ne_nil_of_left_ne_nil (List.cons_ne_nil v us) ts
      rw [List.cons_append, joined_cons sep u hne, hrest, joined]
      simp only [List.append_assoc]

/-- Each text but the first comes after a separator. -/
theorem joined_cons_eq_flatMap (sep t : Text) (ts : List Text) :
    joined sep (t :: ts) = t ++ ts.flatMap (sep ++ ·) := by
  induction ts generalizing t with
  | nil => rw [joined, List.flatMap_nil, List.append_nil]
  | cons u ts ih => rw [joined, ih, List.flatMap_cons, List.append_assoc, List.append_assoc]

/-- A text of the list stands between the texts before it, each closed by the separator, and those after it, each
opened by one. -/
theorem joined_append_cons (sep : Text) (us : List Text) (t : Text) (ts : List Text) :
    joined sep (us ++ t :: ts) = us.flatMap (· ++ sep) ++ (t ++ ts.flatMap (sep ++ ·)) := by
  induction us with
  | nil => exact joined_cons_eq_flatMap sep t ts
  | cons u us ih =>
    have hne : us ++ t :: ts ≠ [] := List.append_ne_nil_of_right_ne_nil us (List.cons_ne_nil t ts)
    rw [List.cons_append, joined_cons sep u hne, ih, List.flatMap_cons]
    simp only [List.append_assoc]

theorem mem_joined {sep t : Text} {ts : List Text} (ht : t ∈ ts) {c : Char} (hc : c ∈ t) : c ∈ joined sep ts := by
  obtain ⟨us, vs, rfl⟩ := List.append_of_mem ht
  rw [joined_append_cons]
  exact List.mem_append_right _ (List.mem_append_left _ hc)

theorem mem_of_mem_joined {sep : Text} {ts : List Text} {c : Char} (h : c ∈ joined sep ts) :
    c ∈ sep ∨ ∃ t ∈ ts, c ∈ t := by
  cases ts with
  | nil => exact absurd h List.not_mem_nil
  | cons t ts =>
    rw [joined_cons_eq_flatMap] at h
    rcases List.mem_append.1 h with h | h
    · exact Or.inr ⟨t, List.mem_cons_self, h⟩
    · obtain ⟨u, hu, h⟩ := List.mem_flatMap.1 h
      rcases List.mem_append.1 h with h | h
      · exact Or.inl h
      · exact Or.inr ⟨u, List.mem_cons_of_mem _ hu, h⟩

/-- A piece of a text is made of characters of the text. -/
theorem mem_of_mem_pieces {sep : Char} {t p : Text} (hp : p ∈ pieces sep t) {c : Char} (hc : c ∈ p) : c ∈ t := by
  rw [← joined_pieces sep t]
  exact mem_joined hp hc

/-- With a separator behind the last text too, each text is closed by one. -/
theorem joined_append_self (sep : Text) {ts : List Text} (h : ts ≠ []) :
    joined sep ts ++ sep = ts.flatMap (· ++ sep) := by
  obtain ⟨us, t, rfl⟩ := (List.eq_nil_or_concat ts).resolve_left h
  rw [List.concat_eq_append, joined_append_cons, List.flatMap_append, List.flatMap_singleton, List.flatMap_nil,
    List.append_nil, List.append_assoc]

/-- The lines of a text: its pieces between line feeds. -/
def lines (t : Text) : List Text := pieces '\n' t

/-- The text whose lines are those of the list. -/
def unlines (ls : List Text) : Text := joined ['\n'] ls

theorem unlines_lines (t : Text) : unlines (lines t) = t := joined_pieces '\n' t

/-- A line feed ends the lines of what stands before it. -/
theorem lines_append_lineFeed (t u : Text) : lines (t ++ '\n' :: u) = lines t ++ lines u := pieces_append_cons '\n' t u

theorem lines_unlines {ls : List Text} (hne : ls ≠ []) (h : ∀ l ∈ ls, '\n' ∉ l) : lines (unlines ls) = ls :=
  pieces_joined hne h

theorem unlines_cons (l : Text) {ls : List Text} (h : ls ≠ []) : unlines (l :: ls) = l ++ '\n' :: unlines ls := by
  rw [unlines, joined_cons ['\n'] l h, List.append_assoc]
  rfl

theorem unlines_append {ls ms : List Text} (hls : ls ≠ []) (hms : ms ≠ []) :
    unlines (ls ++ ms) = unlines ls ++ '\n' :: unlines ms := by
  rw [unlines, joined_append hls hms, List.append_assoc]
  rfl

/-! ### Columns -/

/-- A text filled up on the right with blanks to a width; a longer text stays as it is. -/
def padRight (width : Nat) (t : Text) : Text := t ++ List.replicate (width - t.length) ' '

end Text

end Manpage
