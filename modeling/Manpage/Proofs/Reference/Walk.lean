import Manpage.Proofs.Reference.FlagTable
import Manpage.Proofs.Reference.Reading

/-!
# The walk through a document

The walk is followed line by line: a line records at most one entry, in the section that is in effect at it.

* `Section.inEffect` — the section in effect behind some lines;
* `recordsOf` — what a line records, or the defect found at it; `collect` — what a whole document records;
* `collect_cons` — one step of the walk, from which all that follows is derived by induction on the lines;
* `collect_shift`, `collect_append` — the walk in a document with lines in front, and with lines behind;
* `collect_eq_ok` — what a walk without a defect records, by the numbers of the lines;
* `extract_eq_ok_iff`, `extract_eq_malformed_iff` — the tables of a document from what its walk records.
-/

namespace Manpage

/-! ### Sections -/

/-- The section in effect behind some lines, for a section in effect before them: that of the last line that opens
one. -/
def Section.inEffect (s : Section) (ls : List Text) : Section := (ls.filterMap Section.ofHeader?).getLast?.getD s

theorem Section.inEffect_cons (s : Section) (l : Text) (ls : List Text) :
    s.inEffect (l :: ls) = (s.inEffect [l]).inEffect ls := by
  unfold Section.inEffect
  cases h : Section.ofHeader? l with
  | none => simp [h]
  | some t => simp [h, List.getLast?_cons]

theorem Section.inEffect_of_ofHeader?_none (s : Section) {l : Text} (h : Section.ofHeader? l = none) :
    s.inEffect [l] = s := by
  simp [Section.inEffect, h]

theorem Section.inEffect_of_ofHeader?_some (s : Section) {l : Text} {t : Section}
    (h : Section.ofHeader? l = some t) : s.inEffect [l] = t := by
  simp [Section.inEffect, h]

/-- A line that opens a section is not the heading of an entry. -/
theorem nameOf?_of_ofHeader?_some {l : Text} {t : Section} (h : Section.ofHeader? l = some t) :
    Entry.nameOf? l = none := by
  obtain ⟨title, htitle, -⟩ := Option.map_eq_some_iff.1 h
  rw [Text.after?_eq_some_iff] at htitle
  subst htitle
  rfl

/-! ### One line of the walk -/

/-- What a line records in a section, or the defect found at it. -/
def recordsOf (s : Section) (n : Int) (l : Text) (below : List Text) : Except Malformed (List (Section × Entry)) :=
  if s = .other then .ok [] else (readLine n l below).map fun r => (r.entry?.map (s, ·)).toList

/-- What a walk amounts to: the entries recorded, or the first defect. -/
def Walk.outcome (w : Walk) : Except Malformed (List (Section × Entry)) :=
  match w.failure? with
  | some m => .error m
  | none => .ok w.recorded

/-- What the lines of a document record, the first of which has the given number. -/
def collect (s : Section) (n : Int) (ls : List Text) : Except Malformed (List (Section × Entry)) :=
  (Walk.through s (Place.all n ls)).outcome

theorem recordsOf_of_nameOf?_none {l : Text} (h : Entry.nameOf? l = none) (s : Section) (n : Int)
    (below : List Text) : recordsOf s n l below = .ok [] := by
  rw [recordsOf, readLine_of_nameOf?_none h]
  split
  · rfl
  · rfl

@[simp] theorem collect_nil (s : Section) (n : Int) : collect s n [] = .ok [] := rfl

/-- One step of the walk. -/
theorem collect_cons (s : Section) (n : Int) (l : Text) (ls : List Text) :
    collect s n (l :: ls) =
      (recordsOf s n l ls).bind fun es => (collect (s.inEffect [l]) (n + 1) ls).map (es ++ ·) := by
  have hskip (x : Except Malformed (List (Section × Entry))) : x = x.map ([] ++ ·) := by cases x <;> rfl
  cases hheader : Section.ofHeader? l with
  | some t =>
    have hwalk : collect s n (l :: ls) = collect t (n + 1) ls := by
      simp only [collect, Place.all, Walk.through, hheader]
    rw [hwalk, recordsOf_of_nameOf?_none (nameOf?_of_ofHeader?_some hheader), s.inEffect_of_ofHeader?_some hheader]
    exact hskip _
  | none =>
    rw [s.inEffect_of_ofHeader?_none hheader]
    by_cases hs : s = .other
    · have hwalk : collect s n (l :: ls) = collect s (n + 1) ls := by
        simp only [collect, Place.all, Walk.through, hheader, hs, if_true]
      rw [hwalk, recordsOf, if_pos hs]
      exact hskip _
    · cases hread : readLine n l ls with
      | error m =>
        have hwalk : collect s n (l :: ls) = .error m := by
          rw [readLine] at hread
          simp only [collect, Place.all, Walk.through, hheader, hs, if_false, hread, Walk.outcome]
        rw [hwalk, recordsOf, if_neg hs, hread]
        rfl
      | ok r =>
        rw [recordsOf, if_neg hs, hread]
        rw [readLine] at hread
        simp only [collect, Place.all, Walk.through, hheader, hs, if_false, hread, Walk.outcome, Except.map,
          Except.bind]
        cases (Walk.through s (Place.all (n + 1) ls)).failure? with
        | some m => rfl
        | none =>
          simp only [Walk.recorded, List.filterMap_cons, Finding.recorded?]
          cases r.entry? with
          | none => rfl
          | some e => rfl

theorem collect_cons_eq_ok_iff {s : Section} {n : Int} {l : Text} {ls : List Text} {rs : List (Section × Entry)} :
    collect s n (l :: ls) = .ok rs ↔
      ∃ es rest, recordsOf s n l ls = .ok es ∧ collect (s.inEffect [l]) (n + 1) ls = .ok rest ∧ rs = es ++ rest := by
  rw [collect_cons]
  cases hline : recordsOf s n l ls with
  | error m => simp [Except.bind]
  | ok es =>
    cases hrest : collect (s.inEffect [l]) (n + 1) ls with
    | error m => simp [Except.bind, Except.map]
    | ok rest => simp [Except.bind, Except.map, eq_comm]

/-! ### Lines in front and lines behind -/

theorem recordsOf_shift (k : Int) (s : Section) (n : Int) (l : Text) (below : List Text) :
    recordsOf s (n + k) l below = (recordsOf s n l below).mapError (Malformed.shift k) := by
  unfold recordsOf
  split
  · rfl
  · rw [readLine_shift, map_mapError]

/-- Lines in front of the document move the line of its first defect and nothing else. -/
theorem collect_shift (k : Int) (s : Section) (n : Int) (ls : List Text) :
    collect s (n + k) ls = (collect s n ls).mapError (Malformed.shift k) := by
  induction ls generalizing s n with
  | nil => rfl
  | cons l ls ih =>
    rw [collect_cons, collect_cons, recordsOf_shift, show n + k + 1 = n + 1 + k by omega, ih]
    cases recordsOf s n l ls with
    | error m => rfl
    | ok es =>
      cases collect (s.inEffect [l]) (n + 1) ls with
      | error m => rfl
      | ok rest => rfl

theorem recordsOf_append {s : Section} {n : Int} {l : Text} {below : List Text} {es : List (Section × Entry)}
    (h : recordsOf s n l below = .ok es) {more : List Text} (hmore : opensPlainly more = true) :
    recordsOf s n l (below ++ more) = .ok es := by
  unfold recordsOf at h ⊢
  split
  · next hs => rwa [if_pos hs] at h
  · next hs =>
    rw [if_neg hs] at h
    cases hread : readLine n l below with
    | error m => rw [hread] at h; cases h
    | ok r =>
      rw [hread] at h
      rw [readLine_append hread hmore]
      exact h

/-- Behind a document without a defect the walk goes on as if it had started there. -/
theorem collect_append {s : Section} {n : Int} {ls : List Text} {rs : List (Section × Entry)}
    (h : collect s n ls = .ok rs) {more : List Text} (hmore : opensPlainly more = true) :
    collect s n (ls ++ more) = (collect (s.inEffect ls) (n + ls.length) more).map (rs ++ ·) := by
  -- induction on the lines of the front document, with its section and its first number free
  induction ls generalizing s n rs with
  | nil =>
    cases h
    show collect s n more = (collect s (n + 0) more).map ([] ++ ·)
    rw [Int.add_zero]
    cases collect s n more <;> rfl
  | cons l ls ih =>
    obtain ⟨es, rest, hline, hrest, rfl⟩ := collect_cons_eq_ok_iff.1 h
    have hnumber : n + 1 + (ls.length : Int) = n + ((l :: ls).length : Int) := by
      rw [List.length_cons]
      omega
    rw [List.cons_append, collect_cons, recordsOf_append hline hmore, Section.inEffect_cons s l ls]
    show (collect (s.inEffect [l]) (n + 1) (ls ++ more)).map (es ++ ·) = _
    rw [ih hrest, hnumber]
    cases collect ((s.inEffect [l]).inEffect ls) (n + ((l :: ls).length : Int)) more with
    | error m => rfl
    | ok rs => simp only [Except.map, List.append_assoc]

/-! ### Records by the number of the line -/

theorem drop_all (i : Nat) (n : Int) (ls : List Text) : (Place.all n ls).drop i = Place.all (n + i) (ls.drop i) := by
  induction i generalizing n ls with
  | zero => simp
  | succ i ih =>
    cases ls with
    | nil => rfl
    | cons l ls =>
      rw [Place.all, List.drop_succ_cons, List.drop_succ_cons, ih]
      congr 1
      omega

/-- The entry that the heading in a line of a document gives. -/
def entryAt? (ls : List Text) (i : Nat) : Option Entry :=
  match readHeadingAt? ls i with
  | some (.ok r) => r.entry?
  | _ => none

theorem entryAt?_eq (ls : List Text) (i : Nat) :
    entryAt? ls i =
      match ls.drop i with
      | [] => none
      | l :: below => (readLine 0 l below).toOption.bind Reading.entry? := by
  have htape : Place.tape ls i = Place.all i (ls.drop i) := by
    rw [Place.tape, if_pos (Int.natCast_nonneg i), Int.toNat_natCast, drop_all, Int.zero_add]
  rw [entryAt?, readHeadingAt?, htape]
  cases ls.drop i with
  | nil => rfl
  | cons l below =>
    have hshift := readLine_shift i 0 l below
    rw [Int.zero_add] at hshift
    show (match some (readLine i l below) with
      | some (.ok r) => r.entry?
      | _ => none) = (readLine 0 l below).toOption.bind Reading.entry?
    rw [hshift]
    cases readLine 0 l below with
    | error m => rfl
    | ok r => rfl

theorem entryAt?_cons_succ (l : Text) (ls : List Text) (i : Nat) : entryAt? (l :: ls) (i + 1) = entryAt? ls i := by
  rw [entryAt?_eq, entryAt?_eq, List.drop_succ_cons]

/-- What is recorded in a line of a document, with the section in effect there. -/
def recordAt? (s : Section) (ls : List Text) (i : Nat) : Option (Section × Entry) :=
  if s.inEffect (ls.take i) = .other then none else (entryAt? ls i).map (s.inEffect (ls.take i), ·)

theorem recordAt?_cons_succ (s : Section) (l : Text) (ls : List Text) (i : Nat) :
    recordAt? s (l :: ls) (i + 1) = recordAt? (s.inEffect [l]) ls i := by
  rw [recordAt?, recordAt?, List.take_succ_cons, Section.inEffect_cons, entryAt?_cons_succ]

theorem recordAt?_cons_zero {s : Section} {n : Int} {l : Text} {ls : List Text} {es : List (Section × Entry)}
    (h : recordsOf s n l ls = .ok es) : recordAt? s (l :: ls) 0 = es.head? ∧ es.length ≤ 1 := by
  have hshift := recordsOf_shift n s 0 l ls
  rw [Int.zero_add, h] at hshift
  have hzero : recordsOf s 0 l ls = .ok es := by
    cases hrecords : recordsOf s 0 l ls with
    | error m => rw [hrecords] at hshift; cases hshift
    | ok es' => rw [hrecords] at hshift; exact hshift.symm
  have hsection : s.inEffect ((l :: ls).take 0) = s := rfl
  rw [recordAt?, hsection, entryAt?_eq]
  unfold recordsOf at hzero
  by_cases hs : s = .other
  · rw [if_pos hs] at hzero ⊢
    cases hzero
    exact ⟨rfl, Nat.zero_le 1⟩
  · rw [if_neg hs] at hzero ⊢
    simp only [List.drop_zero]
    cases hread : readLine 0 l ls with
    | error m => rw [hread] at hzero; cases hzero
    | ok r =>
      rw [hread] at hzero
      cases hzero
      simp only [Except.toOption, Option.bind_some]
      cases r.entry? with
      | none => exact ⟨rfl, Nat.zero_le 1⟩
      | some e => exact ⟨rfl, Nat.le_refl 1⟩

/-- A walk without a defect records what its lines record, in their order. -/
theorem collect_eq_ok {s : Section} {n : Int} {ls : List Text} {rs : List (Section × Entry)}
    (h : collect s n ls = .ok rs) : rs = (List.range ls.length).filterMap (recordAt? s ls) := by
  induction ls generalizing s n rs with
  | nil =>
    cases h
    rfl
  | cons l ls ih =>
    obtain ⟨es, rest, hline, hrest, rfl⟩ := collect_cons_eq_ok_iff.1 h
    obtain ⟨hhead, hlen⟩ := recordAt?_cons_zero hline
    have htail : (List.map Nat.succ (List.range ls.length)).filterMap (recordAt? s (l :: ls)) = rest := by
      rw [List.filterMap_map, ih hrest]
      exact congrArg (List.filterMap · _) (funext fun i => recordAt?_cons_succ s l ls i)
    rw [List.length_cons, List.range_succ_eq_map, List.filterMap_cons, hhead, htail]
    match es, hlen with
    | [], _ => rfl
    | [e], _ => rfl

/-- An entry has the name in the line that gives it. -/
theorem exists_nameOf?_of_entryAt? {ls : List Text} {i : Nat} {e : Entry} (h : entryAt? ls i = some e) :
    ∃ l ∈ ls, Entry.nameOf? l = some e.name := by
  rw [entryAt?_eq] at h
  cases hdrop : ls.drop i with
  | nil => rw [hdrop] at h; cases h
  | cons l below =>
    have hl : l ∈ ls := List.mem_of_mem_drop (hdrop ▸ List.mem_cons_self)
    simp only [hdrop] at h
    cases hread : readLine 0 l below with
    | error m => rw [hread] at h; cases h
    | ok r =>
      rw [hread] at h
      exact ⟨l, hl, nameOf?_of_readLine hread h⟩

/-! ### The tables of a document -/

/-- A document has tables if its walk meets no defect and every flag it recorded can be put in order. -/
theorem extract_eq_ok_iff {s : Section} {ls : List Text} {t : Tables} :
    extract s ls = .ok t ↔
      ∃ rs, collect s 0 ls = .ok rs ∧ (∀ e ∈ flagTable rs, Collation.collatable e.name = true) ∧
        t = ⟨Collation.sortOn Entry.name (flagTable rs), variableTable rs⟩ := by
  unfold extract Walk.of Walk.tables collect Walk.outcome
  cases (Walk.through s (Place.all 0 ls)).failure? with
  | some m => simp
  | none =>
    simp only [Except.ok.injEq, exists_eq_left']
    cases hsort : Collation.sortOn? Entry.name (flagTable (Walk.through s (Place.all 0 ls)).recorded) with
    | ok flags =>
      obtain ⟨hall, rfl⟩ := (Collation.sortOn?_eq_ok_iff Entry.name).1 hsort
      simp only [Except.ok.injEq]
      exact ⟨fun h => ⟨hall, h.symm⟩, fun h => h.2.symm⟩
    | error name =>
      simp only [reduceCtorEq, false_iff, not_and]
      intro hall
      rw [(Collation.sortOn?_eq_ok_iff Entry.name).2 ⟨hall, rfl⟩] at hsort
      cases hsort

/-- A document is malformed if its walk meets a defect, and the first one is reported. -/
theorem extract_eq_malformed_iff {s : Section} {ls : List Text} {m : Malformed} :
    extract s ls = .error (.malformed m) ↔ collect s 0 ls = .error m := by
  unfold extract Walk.of Walk.tables collect Walk.outcome
  cases (Walk.through s (Place.all 0 ls)).failure? with
  | some m' => simp
  | none =>
    simp only [reduceCtorEq, iff_false]
    cases Collation.sortOn? Entry.name (flagTable (Walk.through s (Place.all 0 ls)).recorded) with
    | ok flags => simp
    | error name => simp

end Manpage
