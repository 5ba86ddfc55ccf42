import Mathlib.Data.Nat.Find
import Manpage.Proofs.Reference.Layout

/-!
# Defects of a document

When a document is malformed, and which of its defects is reported.

* `DefectAt` — the three defects of a heading, each with its wording and its line, said by the layout of the entry;
  `IsMalformedAt` — the headings to which they apply;
* `readHeadingAt?_eq_error_iff` — these are the headings whose reading fails;
* `collect_eq_error_iff` — the walk stops at the first reading that fails in a recorded section, and
  `collect_eq_error_iff_failsAt` — this reading is that of the first heading with a defect there;
* `extract_malformed_iff_failsAt` — so a document is malformed exactly if such a heading exists, and the first one is reported.
-/

namespace Manpage

/-! ### One heading -/

/-- What can be wrong below a heading, and what is reported. -/
inductive DefectAt (ls : List Text) (i : Nat) : Diagnostic → Prop
  /-- A comment opens in the second line below, and nothing closes it. -/
  | unterminatedComment (hopen : holdsAt opensComment ls (i + 2) = true) (hclose : NoneBelow closesComment ls i) :
    DefectAt ls i ⟨"Unterminated comment after heading.".toList, some i⟩
  /-- There is no prose behind the heading, or behind the comment if there is one. -/
  | missingDescription {c : Nat} (hc : IsSearchedBehind ls i c) (hprose : NoneBelow isProseLine ls c) :
    DefectAt ls i ⟨"Document ended before description.".toList, some c⟩
  /-- From the first line of prose on, no period ends a sentence. -/
  | noSentence {c d : Nat} (hc : IsSearchedBehind ls i c) (hd : IsFirstBelow isProseLine ls c d)
    (hend : ¬ Prose.HasSentenceEnd (Text.unlines (ls.drop d))) :
    DefectAt ls i ⟨"Could not find sentence.".toList, some d⟩

/-- A heading with a defect.  Where the next heading stands in the second line below, nothing can be wrong. -/
structure IsMalformedAt (ls : List Text) (i : Nat) (d : Diagnostic) : Prop where
  heading : ∃ l, ls[i]? = some l ∧ IsOptionHeading l
  described : holdsAt opensEntry ls (i + 2) = false
  defect : DefectAt ls i d

variable {ls : List Text} {i : Nat}

theorem firstSentenceFrom_eq_error_iff {n : Int} {ls : List Text} {m : Malformed} :
    firstSentenceFrom n ls = .error m ↔ ¬ Prose.HasSentenceEnd (Text.unlines ls) ∧ m = ⟨.noSentence, n⟩ := by
  rw [← Prose.firstSentenceOfLines?_eq_none_iff, firstSentenceFrom]
  cases Prose.firstSentenceOfLines? ls with
  | none => simp [eq_comm]
  | some s => simp

theorem map_eq_error_iff {ε α β : Type} {f : α → β} {x : Except ε α} {e : ε} : x.map f = .error e ↔ x = .error e := by
  cases x with
  | error e' => simp [Except.map]
  | ok a => simp [Except.map]

/-- A description cannot be read exactly if there is a defect. -/
theorem readDescription_eq_error_iff {d : Diagnostic} :
    (∃ m, readDescription i (ls.drop (i + 1)) = .error m ∧ m.diagnostic = d) ↔ DefectAt ls i d := by
  constructor
  · rintro ⟨m, hm, rfl⟩
    rcases exists_isSearchedBehind_or ls i with ⟨c, hc⟩ | ⟨hopen, hnone⟩
    · rw [readDescription_of_isSearchedBehind hc] at hm
      rcases exists_isFirstBelow_or_noneBelow isProseLine ls c with ⟨d, hd⟩ | hnone
      · rw [descriptionAfter_of_isFirstBelow hd, map_eq_error_iff, firstSentenceFrom_eq_error_iff] at hm
        obtain ⟨hend, rfl⟩ := hm
        exact .noSentence hc hd hend
      · rw [descriptionAfter_of_noneBelow hnone] at hm
        obtain rfl := Except.error.inj hm
        exact .missingDescription hc hnone
    · rw [readDescription_of_noneBelow hopen hnone] at hm
      obtain rfl := Except.error.inj hm
      exact .unterminatedComment hopen hnone
  · intro h
    cases h with
    | unterminatedComment hopen hclose =>
      exact ⟨⟨.unterminatedComment, i⟩, readDescription_of_noneBelow hopen hclose, rfl⟩
    | missingDescription hc hprose =>
      refine ⟨⟨.missingDescription, _⟩, ?_, rfl⟩
      rw [readDescription_of_isSearchedBehind hc, descriptionAfter_of_noneBelow hprose]
    | noSentence hc hd hend =>
      refine ⟨⟨.noSentence, _⟩, ?_, rfl⟩
      rw [readDescription_of_isSearchedBehind hc, descriptionAfter_of_isFirstBelow hd, map_eq_error_iff,
        firstSentenceFrom_eq_error_iff]
      exact ⟨hend, rfl⟩

/-- The reading of a line fails exactly if it is the heading of an entry that needs a description and has none. -/
theorem readLine_eq_error_iff {n : Int} {l : Text} {below : List Text} {m : Malformed} :
    readLine n l below = .error m ↔
      IsOptionHeading l ∧ Lookahead.ofLine? below[1]? ≠ .heading ∧ readDescription n below = .error m := by
  rw [isOptionHeading_iff]
  cases hname : Entry.nameOf? l with
  | none => simp [readLine_of_nameOf?_none hname]
  | some name =>
    cases hs : Entry.isSentinel name with
    | true => simp [readLine_of_isSentinel hname hs, hs]
    | false =>
      rw [readLine_of_nameOf?_some hname hs]
      split
      · next hheading => simp [hheading]
      · next hheading => simp [map_eq_error_iff, hheading, hs]

/-- The headings whose reading fails are those with a defect. -/
theorem readHeadingAt?_eq_error_iff {d : Diagnostic} :
    (∃ m, readHeadingAt? ls i = some (.error m) ∧ m.diagnostic = d) ↔ IsMalformedAt ls i d := by
  have hahead : (ls.drop (i + 1))[1]? = ls[i + 2]? := List.getElem?_drop
  constructor
  · rintro ⟨m, hm, hd⟩
    rw [readHeadingAt?_eq, Option.map_eq_some_iff] at hm
    obtain ⟨l, hl, hread⟩ := hm
    obtain ⟨hheading, hnext, hdescription⟩ := readLine_eq_error_iff.1 hread
    rw [hahead, Ne, ofLine?_eq_heading_iff, Bool.not_eq_true] at hnext
    exact ⟨⟨l, hl, hheading⟩, hnext, readDescription_eq_error_iff.1 ⟨m, hdescription, hd⟩⟩
  · rintro ⟨⟨l, hl, hheading⟩, hnext, hdefect⟩
    obtain ⟨m, hdescription, hd⟩ := readDescription_eq_error_iff.2 hdefect
    rw [← Bool.not_eq_true, ← ofLine?_eq_heading_iff, ← hahead] at hnext
    refine ⟨m, ?_, hd⟩
    rw [readHeadingAt?_eq, hl, Option.map_some, readLine_eq_error_iff.2 ⟨hheading, hnext, hdescription⟩]

/-! ### The walk -/

/-- The defect found in a line of a document, if its section is recorded. -/
def defectAt? (s : Section) (ls : List Text) (i : Nat) : Option Malformed :=
  if s.inEffect (ls.take i) = .other then none
  else match readHeadingAt? ls i with
    | some (.error m) => some m
    | _ => none

theorem defectAt?_eq_some_iff {s : Section} {m : Malformed} :
    defectAt? s ls i = some m ↔ s.inEffect (ls.take i) ≠ .other ∧ readHeadingAt? ls i = some (.error m) := by
  unfold defectAt?
  split
  · next hs => simp [hs]
  · next hs =>
    rcases readHeadingAt? ls i with _ | m' | r
    · simp
    · simp [hs]
    · simp

theorem defectAt?_cons_zero (s : Section) (l : Text) (ls : List Text) :
    defectAt? s (l :: ls) 0 = match recordsOf s 0 l ls with
      | .error m => some m
      | .ok _ => none := by
  have hread : readHeadingAt? (l :: ls) ((0 : Nat) : Int) = some (readLine 0 l ls) := readHeadingAt?_eq (l :: ls) 0
  have hsection : s.inEffect ((l :: ls).take 0) = s := rfl
  rw [defectAt?, hread, hsection, recordsOf]
  by_cases hs : s = .other
  · rw [if_pos hs, if_pos hs]
  · rw [if_neg hs, if_neg hs]
    cases readLine 0 l ls with
    | error m => rfl
    | ok r => rfl

theorem defectAt?_cons_succ (s : Section) (l : Text) (ls : List Text) (i : Nat) :
    defectAt? s (l :: ls) (i + 1) = (defectAt? (s.inEffect [l]) ls i).map (Malformed.shift 1) := by
  rw [defectAt?, defectAt?, readHeadingAt?_eq, readHeadingAt?_eq, List.take_succ_cons, Section.inEffect_cons,
    List.getElem?_cons_succ, List.drop_succ_cons]
  split
  · rfl
  · cases ls[i]? with
    | none => rfl
    | some m =>
      have hshift : readLine ((i + 1 : Nat) : Int) m (ls.drop (i + 1)) =
          (readLine i m (ls.drop (i + 1))).mapError (Malformed.shift 1) := readLine_shift 1 i m _
      simp only [Option.map_some, hshift]
      cases readLine i m (ls.drop (i + 1)) with
      | error e => rfl
      | ok r => rfl

/-- The walk stops at the first line with a defect. -/
theorem collect_eq_error_iff {s : Section} {ls : List Text} {m : Malformed} :
    collect s 0 ls = .error m ↔ ∃ i, defectAt? s ls i = some m ∧ ∀ k < i, defectAt? s ls k = none := by
  induction ls generalizing s m with
  | nil =>
    have hnone (i : Nat) : defectAt? s [] i = none := by
      rw [defectAt?, readHeadingAt?_eq]
      split
      · rfl
      · rfl
    simp [hnone]
  | cons l ls ih =>
    have hzero := defectAt?_cons_zero s l ls
    rw [collect_cons]
    cases hline : recordsOf s 0 l ls with
    | error e =>
      -- the first line itself has the defect, and no later one can be the first
      rw [hline] at hzero
      constructor
      · intro h
        obtain rfl := Except.error.inj h
        exact ⟨0, hzero, fun k hk => absurd hk (Nat.not_lt_zero k)⟩
      · rintro ⟨i, hi, hfirst⟩
        cases i with
        | zero => rw [Option.some.inj (hzero.symm.trans hi)]; rfl
        | succ i => exact absurd (hzero.symm.trans (hfirst 0 (Nat.succ_pos i))) (by simp)
    | ok es =>
      rw [hline] at hzero
      have hshift := collect_shift 1 (s.inEffect [l]) 0 ls
      show ((collect (s.inEffect [l]) (0 + 1) ls).map (es ++ ·)) = .error m ↔ _
      rw [map_eq_error_iff, hshift]
      constructor
      · intro h
        cases hrest : collect (s.inEffect [l]) 0 ls with
        | ok rs => rw [hrest] at h; cases h
        | error e =>
          rw [hrest] at h
          obtain rfl := Except.error.inj h
          obtain ⟨i, hi, hfirst⟩ := ih.1 hrest
          refine ⟨i + 1, by rw [defectAt?_cons_succ, hi]; rfl, fun k hk => ?_⟩
          cases k with
          | zero => exact hzero
          | succ k => rw [defectAt?_cons_succ, hfirst k (Nat.lt_of_succ_lt_succ hk)]; rfl
      · rintro ⟨i, hi, hfirst⟩
        cases i with
        | zero => exact absurd (hzero.symm.trans hi) (by simp)
        | succ i =>
          rw [defectAt?_cons_succ, Option.map_eq_some_iff] at hi
          obtain ⟨e, he, rfl⟩ := hi
          rw [ih.2 ⟨i, he, fun k hk => ?_⟩]
          · rfl
          · have hk' := hfirst (k + 1) (Nat.succ_lt_succ hk)
            rwa [defectAt?_cons_succ, Option.map_eq_none_iff] at hk'

/-! ### The document -/

/-- A heading with a defect in a recorded section, for a section in effect at the start of the document. -/
def FailsAt (s : Section) (ls : List Text) (i : Nat) (d : Diagnostic) : Prop :=
  s.inEffect (ls.take i) ≠ .other ∧ IsMalformedAt ls i d

theorem failsAt_iff {s : Section} {d : Diagnostic} :
    FailsAt s ls i d ↔ ∃ m, defectAt? s ls i = some m ∧ m.diagnostic = d := by
  simp only [FailsAt, ← readHeadingAt?_eq_error_iff, defectAt?_eq_some_iff, and_assoc, exists_and_left]

theorem defectAt?_eq_none_iff {s : Section} : defectAt? s ls i = none ↔ ∀ d, ¬ FailsAt s ls i d := by
  simp only [failsAt_iff]
  cases defectAt? s ls i with
  | none => simp
  | some m => simp

/-- The walk reports the defect of the first heading that fails. -/
theorem collect_eq_error_iff_failsAt {s : Section} {d : Diagnostic} :
    (∃ m, collect s 0 ls = .error m ∧ m.diagnostic = d) ↔ ∃ i, FailsAt s ls i d ∧ ∀ k < i, ∀ d', ¬ FailsAt s ls k d' := by
  simp only [collect_eq_error_iff]
  constructor
  · rintro ⟨m, ⟨i, hi, hnone⟩, hd⟩
    exact ⟨i, failsAt_iff.2 ⟨m, hi, hd⟩, fun k hk => defectAt?_eq_none_iff.1 (hnone k hk)⟩
  · rintro ⟨i, hi, hnone⟩
    obtain ⟨m, hm, hd⟩ := failsAt_iff.1 hi
    exact ⟨m, ⟨i, hm, fun k hk => defectAt?_eq_none_iff.2 (hnone k hk)⟩, hd⟩

/-- The walk is stopped exactly if some heading fails. -/
theorem exists_collect_eq_error_iff {s : Section} : (∃ m, collect s 0 ls = .error m) ↔ ∃ i d, FailsAt s ls i d := by
  constructor
  · rintro ⟨m, hm⟩
    obtain ⟨i, hi, -⟩ := collect_eq_error_iff_failsAt.1 ⟨m, hm, rfl⟩
    exact ⟨i, m.diagnostic, hi⟩
  · -- of the headings that fail, one comes first
    intro hfails
    classical
    obtain ⟨d, hd⟩ := Nat.find_spec hfails
    have hfirst : ∀ k < Nat.find hfails, ∀ d', ¬ FailsAt s ls k d' :=
      fun k hk d' hd' => Nat.find_min hfails hk ⟨d', hd'⟩
    obtain ⟨m, hm, -⟩ := collect_eq_error_iff_failsAt.2 ⟨Nat.find hfails, hd, hfirst⟩
    exact ⟨m, hm⟩

/-- **When a document is malformed.**  The reading of a heading fails exactly with its defects.  A document is
malformed exactly if a heading in a recorded section has a defect, and what is reported is the defect of the first such
heading. -/
theorem extract_malformed_iff_failsAt (ls : List Text) :
    (∀ (i : Nat) d, (∃ m, readHeadingAt? ls i = some (.error m) ∧ m.diagnostic = d) ↔ IsMalformedAt ls i d) ∧
      ∀ s, ((∃ m, extract s ls = .error (.malformed m)) ↔ ∃ i d, FailsAt s ls i d) ∧
        ∀ d, (∃ m, extract s ls = .error (.malformed m) ∧ m.diagnostic = d) ↔
          ∃ i, FailsAt s ls i d ∧ ∀ k < i, ∀ d', ¬ FailsAt s ls k d' := by
  simp only [extract_eq_malformed_iff]
  exact ⟨fun i d => readHeadingAt?_eq_error_iff,
    fun s => ⟨exists_collect_eq_error_iff, fun d => collect_eq_error_iff_failsAt⟩⟩

end Manpage
