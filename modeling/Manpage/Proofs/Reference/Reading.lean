import Manpage.Proofs.Prose.Sentence
import Manpage.Reference.Section
import Manpage.Reference.Entry

/-!
# How the lines below a heading are read

The reading of a heading looks ahead three times: for the end of a comment, for the first prose, and for the end of
the first sentence.  Each search is said here by the index of a line.

* `nameOf?_eq_some_iff` — the name that a heading gives;
* `readLine` — the reading of a line, given its number and the lines below it;
* `descriptionAfter_all`, `commentClose?_all`, `lookahead_all` — the three searches;
* `readLine_shift` — a reading does not depend on where the document starts, but for the lines of its defects;
* `readLine_append` — a reading that found no defect is the same whatever lines follow the document, as long as the
  line right behind it opens neither a comment nor an entry (`opensPlainly`).
-/

namespace Manpage

/-! ### The three searches -/

/-- A line of prose: neither empty nor part of a block quotation. -/
def isProseLine : Text → Bool
  | [] => false
  | c :: _ => c ≠ '>'

/-- The line that closes a comment. -/
def closesComment (l : Text) : Bool := l = ['-', '-', '>']

/-- A line that opens a comment. -/
def opensComment (l : Text) : Bool := Text.opensWith ['<', '!', '-', '-'] l

/-- A line that opens an entry. -/
def opensEntry (l : Text) : Bool := Text.opensWith Entry.marker l

/-- A description is read from the first line of prose on. -/
theorem descriptionAfter_all (line n : Int) (ls : List Text) :
    descriptionAfter line (Place.all n ls) =
      match ls.findIdx? isProseLine with
      | none => .error ⟨.missingDescription, line⟩
      | some i => (firstSentenceFrom (n + i) (ls.drop i)).map Prose.convert := by
  induction ls generalizing n with
  | nil => rfl
  | cons l ls ih =>
    by_cases hl : isProseLine l = true
    · have hplace : Place.isProse ⟨n, l, ls⟩ = true := hl
      rw [descriptionAfter, Place.all, List.find?_cons_of_pos hplace, List.findIdx?_cons, if_pos hl]
      simp
    · have hplace : ¬ Place.isProse ⟨n, l, ls⟩ = true := hl
      have hstep : descriptionAfter line (Place.all n (l :: ls)) = descriptionAfter line (Place.all (n + 1) ls) := by
        rw [descriptionAfter, Place.all, List.find?_cons_of_neg hplace, descriptionAfter]
      rw [hstep, ih, List.findIdx?_cons, if_neg hl]
      cases ls.findIdx? isProseLine with
      | none => rfl
      | some i =>
        have hline : n + 1 + (i : Int) = n + ((i + 1 : Nat) : Int) := by omega
        simp only [Option.map_some, List.drop_succ_cons, hline]

/-- A comment ends at the first line that closes one. -/
theorem commentClose?_all (n : Int) (ls : List Text) :
    commentClose? (Place.all n ls) =
      (ls.findIdx? closesComment).map fun i : Nat =>
        (⟨n + i, ['-', '-', '>'], ls.drop (i + 1)⟩, Place.all (n + i + 1) (ls.drop (i + 1))) := by
  induction ls generalizing n with
  | nil => rfl
  | cons l ls ih =>
    rw [Place.all, commentClose?, List.findIdx?_cons, ih]
    by_cases hl : l = ['-', '-', '>']
    · simp [closesComment, hl]
    · rw [if_neg hl, if_neg (by simpa [closesComment] using hl), Option.map_map]
      congr 1
      funext i
      have hline : n + 1 + (i : Int) = n + ((i + 1 : Nat) : Int) := by omega
      simp only [Function.comp_apply, List.drop_succ_cons, hline]

/-- The kind of the second line below a heading, if there is one. -/
def Lookahead.ofLine? : Option Text → Lookahead
  | none => .prose
  | some l => if opensComment l then .comment else if opensEntry l then .heading else .prose

theorem lookahead_all (n : Int) (ls : List Text) : Lookahead.of (Place.all n ls) = Lookahead.ofLine? ls[1]? := by
  match ls with
  | [] => rfl
  | [l] => rfl
  | l :: m :: ls => rfl

/-! ### The name in a heading -/

/-- A name is what a heading gives behind its marker, less the backticks, and it is not empty. -/
theorem nameOf?_eq_some_iff {l name : Text} :
    Entry.nameOf? l = some name ↔
      ∃ rest, l = Entry.marker ++ rest ∧ name = rest.filter (· ≠ '\x60') ∧ name ≠ [] := by
  unfold Entry.nameOf?
  cases hafter : Text.after? Entry.marker l with
  | none =>
    constructor
    · intro h
      cases h
    · rintro ⟨rest, rfl, -⟩
      rw [Text.after?_append] at hafter
      cases hafter
  | some t =>
    obtain rfl := Text.after?_eq_some_iff.1 hafter
    simp only [Option.ite_none_left_eq_some, Option.some.injEq, List.append_cancel_left_eq]
    constructor
    · rintro ⟨hne, rfl⟩
      exact ⟨t, rfl, rfl, hne⟩
    · rintro ⟨rest, rfl, rfl, hne⟩
      exact ⟨hne, rfl⟩

/-- The name in a heading is made of characters of its line. -/
theorem mem_of_mem_name {l name : Text} (h : Entry.nameOf? l = some name) {c : Char} (hc : c ∈ name) : c ∈ l := by
  obtain ⟨rest, rfl, rfl, -⟩ := nameOf?_eq_some_iff.1 h
  exact List.mem_append_right _ (List.mem_filter.1 hc).1

theorem lineFeed_not_mem_name {l name : Text} (h : Entry.nameOf? l = some name) (hl : '\n' ∉ l) : '\n' ∉ name :=
  fun hmem => hl (mem_of_mem_name h hmem)

/-! ### The reading of a line -/

/-- The reading of a line of the given number above the given lines. -/
def readLine (n : Int) (l : Text) (below : List Text) : Except Malformed Reading :=
  readHeading ⟨n, l, below⟩ (Place.all (n + 1) below)

/-- The description that the heading of a given number finds below it. -/
def readDescription (n : Int) (below : List Text) : Except Malformed Text :=
  match Lookahead.ofLine? below[1]? with
  | .comment =>
    match below.findIdx? closesComment with
    | none => .error ⟨.unterminatedComment, n⟩
    | some i => descriptionAfter (n + 1 + i) (Place.all (n + 1 + i + 1) (below.drop (i + 1)))
  | _ => descriptionAfter n (Place.all (n + 1) below)

theorem readLine_of_nameOf?_none {l : Text} (h : Entry.nameOf? l = none) (n : Int) (below : List Text) :
    readLine n l below = .ok .none := by
  simp only [readLine, readHeading, h]

theorem readLine_of_isSentinel {l name : Text} (h : Entry.nameOf? l = some name)
    (hs : Entry.isSentinel name = true) (n : Int) (below : List Text) :
    readLine n l below = .ok (.sentinel name) := by
  simp only [readLine, readHeading, h, hs, if_true]

/-- The heading of an entry is read with its description, unless the next heading follows at once. -/
theorem readLine_of_nameOf?_some {l name : Text} (h : Entry.nameOf? l = some name)
    (hs : Entry.isSentinel name = false) (n : Int) (below : List Text) :
    readLine n l below =
      if Lookahead.ofLine? below[1]? = .heading then .ok (.undescribed name)
      else (readDescription n below).map (.described name) := by
  simp only [readLine, readHeading, h, hs, Bool.false_eq_true, if_false, lookahead_all, commentClose?_all]
  cases hahead : Lookahead.ofLine? below[1]? with
  | comment =>
    simp only [readDescription, hahead, reduceCtorEq, if_false]
    cases below.findIdx? closesComment with
    | none => rfl
    | some i => rfl
  | heading => simp only [if_true]
  | prose => simp only [readDescription, hahead, reduceCtorEq, if_false]

/-- The entry that a line gives has the name in that line. -/
theorem nameOf?_of_readLine {n : Int} {l : Text} {below : List Text} {r : Reading} (h : readLine n l below = .ok r)
    {e : Entry} (he : Reading.entry? r = some e) : Entry.nameOf? l = some e.name := by
  cases hname : Entry.nameOf? l with
  | none =>
    rw [readLine_of_nameOf?_none hname] at h
    cases h
    cases he
  | some name =>
    cases hs : Entry.isSentinel name with
    | true =>
      rw [readLine_of_isSentinel hname hs] at h
      cases h
      cases he
    | false =>
      rw [readLine_of_nameOf?_some hname hs] at h
      split at h
      · cases h
        cases he
        rfl
      · cases hread : readDescription n below with
        | error m => rw [hread] at h; cases h
        | ok d =>
          rw [hread] at h
          cases h
          cases he
          rfl

/-! ### Other line numbers -/

/-- A defect as it is found in a document with more lines in front. -/
def Malformed.shift (k : Int) (m : Malformed) : Malformed := { m with line := m.line + k }

theorem map_mapError {ε ε' α β : Type} (f : ε → ε') (g : α → β) (x : Except ε α) :
    (x.mapError f).map g = (x.map g).mapError f := by
  cases x <;> rfl

theorem descriptionAfter_shift (k line n : Int) (ls : List Text) :
    descriptionAfter (line + k) (Place.all (n + k) ls) =
      (descriptionAfter line (Place.all n ls)).mapError (Malformed.shift k) := by
  rw [descriptionAfter_all, descriptionAfter_all]
  cases ls.findIdx? isProseLine with
  | none => rfl
  | some i =>
    have hline : n + k + (i : Int) = n + i + k := by omega
    simp only [hline, firstSentenceFrom]
    cases Prose.firstSentenceOfLines? (ls.drop i) with
    | none => rfl
    | some s => rfl

theorem readDescription_shift (k n : Int) (below : List Text) :
    readDescription (n + k) below = (readDescription n below).mapError (Malformed.shift k) := by
  have hprose : descriptionAfter (n + k) (Place.all (n + k + 1) below) =
      (descriptionAfter n (Place.all (n + 1) below)).mapError (Malformed.shift k) := by
    rw [show n + k + 1 = n + 1 + k by omega, descriptionAfter_shift]
  unfold readDescription
  cases Lookahead.ofLine? below[1]? with
  | prose => exact hprose
  | heading => exact hprose
  | comment =>
    cases below.findIdx? closesComment with
    | none => rfl
    | some i =>
      show descriptionAfter (n + k + 1 + i) (Place.all (n + k + 1 + i + 1) (below.drop (i + 1))) =
        (descriptionAfter (n + 1 + i) (Place.all (n + 1 + i + 1) (below.drop (i + 1)))).mapError (Malformed.shift k)
      rw [show n + k + 1 + (i : Int) = n + 1 + i + k by omega,
        show n + 1 + (i : Int) + k + 1 = n + 1 + i + 1 + k by omega, descriptionAfter_shift]

/-- Lines in front of the document move the lines of defects and nothing else. -/
theorem readLine_shift (k n : Int) (l : Text) (below : List Text) :
    readLine (n + k) l below = (readLine n l below).mapError (Malformed.shift k) := by
  cases hname : Entry.nameOf? l with
  | none => rw [readLine_of_nameOf?_none hname, readLine_of_nameOf?_none hname]; rfl
  | some name =>
    cases hs : Entry.isSentinel name with
    | true => rw [readLine_of_isSentinel hname hs, readLine_of_isSentinel hname hs]; rfl
    | false =>
      rw [readLine_of_nameOf?_some hname hs, readLine_of_nameOf?_some hname hs, readDescription_shift, map_mapError]
      split
      · rfl
      · rfl

/-! ### More lines behind the document -/

/-- Whether the first of some lines opens neither an entry nor a comment. -/
def opensPlainly : List Text → Bool
  | [] => true
  | l :: _ => !opensEntry l && !opensComment l

theorem firstSentenceFrom_append {n : Int} {ls : List Text} {s : Text} (h : firstSentenceFrom n ls = .ok s)
    (more : List Text) : firstSentenceFrom n (ls ++ more) = .ok s := by
  unfold firstSentenceFrom at h ⊢
  cases hs : Prose.firstSentenceOfLines? ls with
  | none => rw [hs] at h; cases h
  | some t =>
    rw [hs] at h
    rw [Prose.firstSentenceOfLines?_append hs more]
    exact h

theorem descriptionAfter_append {line n : Int} {ls : List Text} {d : Text}
    (h : descriptionAfter line (Place.all n ls) = .ok d) (more : List Text) :
    descriptionAfter line (Place.all n (ls ++ more)) = .ok d := by
  rw [descriptionAfter_all] at h ⊢
  cases hfind : ls.findIdx? isProseLine with
  | none => rw [hfind] at h; cases h
  | some i =>
    rw [hfind] at h
    have hi : i < ls.length := (List.findIdx?_eq_some_iff_getElem.1 hfind).1
    rw [List.findIdx?_append, hfind, Option.some_or]
    show (firstSentenceFrom (n + i) ((ls ++ more).drop i)).map Prose.convert = .ok d
    rw [List.drop_append_of_le_length (Nat.le_of_lt hi)]
    cases hs : firstSentenceFrom (n + i) (ls.drop i) with
    | error m => simp only [hs] at h; cases h
    | ok s =>
      rw [firstSentenceFrom_append hs more]
      simpa only [hs] using h

/-- What is read ahead of a heading with a description is the same with more lines behind. -/
theorem ofLine?_append {below more : List Text} (hne : below ≠ []) (hmore : opensPlainly more = true) :
    Lookahead.ofLine? (below ++ more)[1]? = Lookahead.ofLine? below[1]? := by
  match below with
  | [] => exact absurd rfl hne
  | l :: m :: below => rfl
  | [l] =>
    cases more with
    | nil => rfl
    | cons m more =>
      simp only [opensPlainly, Bool.and_eq_true, Bool.not_eq_true'] at hmore
      show Lookahead.ofLine? (some m) = Lookahead.ofLine? none
      simp only [Lookahead.ofLine?, hmore.1, hmore.2, Bool.false_eq_true, if_false]

theorem readDescription_append {n : Int} {below : List Text} {d : Text} (h : readDescription n below = .ok d)
    {more : List Text} (hmore : opensPlainly more = true) : readDescription n (below ++ more) = .ok d := by
  have hne : below ≠ [] := by
    rintro rfl
    cases h
  unfold readDescription at h ⊢
  rw [ofLine?_append hne hmore]
  cases hahead : Lookahead.ofLine? below[1]? with
  | prose =>
    rw [hahead] at h
    exact descriptionAfter_append h more
  | heading =>
    rw [hahead] at h
    exact descriptionAfter_append h more
  | comment =>
    rw [hahead] at h
    simp only at h ⊢
    cases hclose : below.findIdx? closesComment with
    | none => rw [hclose] at h; cases h
    | some i =>
      rw [hclose] at h
      have hi : i < below.length := (List.findIdx?_eq_some_iff_getElem.1 hclose).1
      rw [List.findIdx?_append, hclose, Option.some_or]
      show descriptionAfter (n + 1 + i) (Place.all (n + 1 + i + 1) ((below ++ more).drop (i + 1))) = .ok d
      rw [List.drop_append_of_le_length hi]
      exact descriptionAfter_append h more

/-- A reading without a defect stands, whatever follows the document. -/
theorem readLine_append {n : Int} {l : Text} {below : List Text} {r : Reading} (h : readLine n l below = .ok r)
    {more : List Text} (hmore : opensPlainly more = true) : readLine n l (below ++ more) = .ok r := by
  cases hname : Entry.nameOf? l with
  | none => rwa [readLine_of_nameOf?_none hname] at h ⊢
  | some name =>
    cases hs : Entry.isSentinel name with
    | true => rwa [readLine_of_isSentinel hname hs] at h ⊢
    | false =>
      rw [readLine_of_nameOf?_some hname hs] at h ⊢
      have hne : below ≠ [] := by
        rintro rfl
        cases h
      rw [ofLine?_append hne hmore]
      split
      · next hheading => rwa [if_pos hheading] at h
      · next hheading =>
        rw [if_neg hheading] at h
        cases hd : readDescription n below with
        | error m => rw [hd] at h; cases h
        | ok d =>
          rw [hd] at h
          rw [readDescription_append hd hmore]
          exact h

end Manpage
