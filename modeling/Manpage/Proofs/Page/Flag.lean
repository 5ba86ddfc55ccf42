import Mathlib.Data.List.TakeWhile
import Manpage.Page.Flag

/-!
# Spellings and their stems

* `Flag.IsCut` — a spelling cut at its first break, said without a scan; `isCut_iff` — the stem is the one such cut;
* `isBreak_of_mem_stem`, `isBreak_of_mem_value?` — neither the stem nor the value holds a break;
* `mem_of_mem_aliases` — every spelling in a name is made of characters of the name; `aliases_of_not_mem`: a name without a
  space is one spelling;
* `valueText_eq_nil_or` — on the page the value is empty or set off by a space;
* `mem_text` — the page shows a spelling in its own characters and those of the macros; `lineFeed_not_mem_text`: one that
  stands in one line of a document stands in one line of the page.
-/

namespace Manpage.Flag

/-! ### Stems -/

/-- A spelling and what is left of it when it is cut at its first break, along with a bracket that opens right before
that break. -/
inductive IsCut : (flag cut : Text) → Prop
  /-- There is no break. -/
  | whole {s : Text} (hs : ∀ c ∈ s, isBreak c = false) : IsCut s s
  /-- A bracket opens right before the first break. -/
  | bracket {s : Text} (hs : ∀ c ∈ s, isBreak c = false) {c : Char} (hc : isBreak c = true) (t : Text) :
    IsCut (s ++ '[' :: c :: t) s
  /-- No bracket opens right before the first break. -/
  | plain {s : Text} (hs : ∀ c ∈ s, isBreak c = false) (hlast : s.getLast? ≠ some '[') {c : Char}
    (hc : isBreak c = true) (t : Text) : IsCut (s ++ c :: t) s

theorem startsWithBreak_append {s : Text} (hs : ∀ c ∈ s, isBreak c = false) (hne : s ≠ []) (t : Text) :
    startsWithBreak (s ++ t) = false := by
  cases s with
  | nil => exact absurd rfl hne
  | cons c s => exact hs c List.mem_cons_self

/-- The stem goes on past what holds no break, unless it ends in a bracket that opens right before one. -/
theorem stem_append {s t : Text} (hs : ∀ c ∈ s, isBreak c = false)
    (ht : startsWithBreak t = false ∨ s.getLast? ≠ some '[') : stem (s ++ t) = s ++ stem t := by
  induction s with
  | nil => rfl
  | cons c s ih =>
    have hc : isBreak c = false := hs c List.mem_cons_self
    have hs' : ∀ d ∈ s, isBreak d = false := fun d hd => hs d (List.mem_cons_of_mem c hd)
    by_cases hne : s = []
    · subst hne
      have hbracket : ¬(c = '[' ∧ startsWithBreak t = true) := by
        rintro ⟨rfl, hopen⟩
        rcases ht with ht | ht
        · exact Bool.false_ne_true (ht.symm.trans hopen)
        · exact ht rfl
      simp [stem, hc, hbracket]
    · have hlast : (c :: s).getLast? = s.getLast? := by
        obtain ⟨d, u, rfl⟩ := List.exists_cons_of_ne_nil hne
        exact List.getLast?_cons_cons
      rw [hlast] at ht
      simp [stem, hc, startsWithBreak_append hs' hne t, ih hs' ht]

theorem IsCut.eq_stem {flag cut : Text} (h : IsCut flag cut) : cut = stem flag := by
  cases h with
  | whole hs =>
    have happend := stem_append hs (t := []) (Or.inl rfl)
    rw [List.append_nil] at happend
    rw [happend, stem, List.append_nil]
  | bracket hs hc t =>
    rw [stem_append hs (Or.inl rfl)]
    simp [stem, startsWithBreak, hc]
  | plain hs hlast hc t =>
    rw [stem_append hs (Or.inr hlast)]
    simp [stem, hc]

/-- A character in front of a spelling belongs to the cut, unless it is itself where the cut has to be. -/
theorem IsCut.cons {flag cut : Text} (h : IsCut flag cut) {c : Char} (hc : isBreak c = false)
    (hb : ¬(c = '[' ∧ startsWithBreak flag = true)) : IsCut (c :: flag) (c :: cut) := by
  have hcut : ∀ {s : Text}, (∀ d ∈ s, isBreak d = false) → ∀ d ∈ c :: s, isBreak d = false :=
    fun hs => List.forall_mem_cons.2 ⟨hc, hs⟩
  cases h with
  | whole hs => exact .whole (hcut hs)
  | bracket hs hd t => exact .bracket (hcut hs) hd t
  | plain hs hlast hd t =>
    refine .plain (hcut hs) ?_ hd t
    by_cases hne : cut = []
    · subst hne
      intro h
      exact hb ⟨Option.some.inj h, hd⟩
    · obtain ⟨e, u, rfl⟩ := List.exists_cons_of_ne_nil hne
      rwa [List.getLast?_cons_cons]

theorem isCut_stem (flag : Text) : IsCut flag (stem flag) := by
  have hnil : ∀ d ∈ ([] : Text), isBreak d = false := fun d hd => absurd hd List.not_mem_nil
  induction flag with
  | nil => exact .whole hnil
  | cons c t ih =>
    by_cases hc : isBreak c = true
    · have hstem : stem (c :: t) = [] := by simp [stem, hc]
      rw [hstem]
      exact .plain hnil (by simp) hc t
    · by_cases hb : c = '[' ∧ startsWithBreak t = true
      · have hstem : stem (c :: t) = [] := by simp [stem, hb]
        rw [hstem, hb.1]
        cases t with
        | nil => exact absurd hb.2 Bool.false_ne_true
        | cons d t => exact .bracket hnil hb.2 t
      · have hstem : stem (c :: t) = c :: stem t := by simp [stem, hc, hb]
        rw [hstem]
        exact ih.cons (Bool.eq_false_iff.2 hc) hb

/-- A spelling has one cut, and the scan finds it. -/
theorem isCut_iff {flag cut : Text} : IsCut flag cut ↔ cut = stem flag := by
  constructor
  · exact IsCut.eq_stem
  · intro h
    rw [h]
    exact isCut_stem flag

theorem IsCut.mem {flag cut : Text} (h : IsCut flag cut) {c : Char} (hc : c ∈ cut) : c ∈ flag := by
  cases h with
  | whole hs => exact hc
  | bracket hs hd t => exact List.mem_append_left _ hc
  | plain hs hlast hd t => exact List.mem_append_left _ hc

/-- The stem ends before the first break. -/
theorem isBreak_of_mem_stem {flag : Text} {c : Char} (h : c ∈ stem flag) : isBreak c = false := by
  have hcut := isCut_stem flag
  generalize stem flag = s at h hcut
  cases hcut with
  | whole hs => exact hs c h
  | bracket hs hd t => exact hs c h
  | plain hs hlast hd t => exact hs c h

/-! ### Spellings in a name -/

theorem mem_of_mem_aliases {name a : Text} (ha : a ∈ aliases name) {c : Char} (hc : c ∈ a) : c ∈ name := by
  fun_induction aliases name generalizing a with
  | case1 =>
    rw [List.mem_singleton.1 ha] at hc
    exact hc
  | case2 t ih =>
    rcases List.mem_cons.1 ha with rfl | ha
    · exact absurd hc List.not_mem_nil
    · exact List.mem_cons_of_mem _ (List.mem_cons_of_mem _ (ih ha hc))
  | case3 d t hsep ih =>
    cases haliases : aliases t with
    | nil =>
      rw [haliases] at ha
      exact absurd ha List.not_mem_nil
    | cons b bs =>
      rw [haliases, List.modifyHead_cons] at ha
      rcases List.mem_cons.1 ha with rfl | ha
      · rcases List.mem_cons.1 hc with rfl | hc
        · exact List.mem_cons_self
        · exact List.mem_cons_of_mem _ (ih (haliases ▸ List.mem_cons_self) hc)
      · exact List.mem_cons_of_mem _ (ih (haliases ▸ List.mem_cons_of_mem _ ha) hc)

theorem aliases_ne_nil (name : Text) : aliases name ≠ [] := by
  fun_induction aliases name with
  | case1 => exact List.cons_ne_nil _ _
  | case2 t ih => exact List.cons_ne_nil _ _
  | case3 c t hsep ih =>
    obtain ⟨a, as, ha⟩ := List.exists_cons_of_ne_nil ih
    rw [ha]
    exact List.cons_ne_nil _ _

theorem aliases_of_not_mem {name : Text} (h : ' ' ∉ name) : aliases name = [name] := by
  fun_induction aliases name with
  | case1 => rfl
  | case2 t ih => exact absurd (List.mem_cons_of_mem _ List.mem_cons_self) h
  | case3 c t hsep ih => rw [ih fun hmem => h (List.mem_cons_of_mem c hmem), List.modifyHead_cons]

/-! ### Spellings on the page -/

theorem mem_of_mem_dropBracket {v : Text} {c : Char} (h : c ∈ dropBracket v) : c ∈ v := by
  fun_induction dropBracket v with
  | case1 => exact h
  | case2 => exact absurd h List.not_mem_nil
  | case3 d hd => exact h
  | case4 d e t ih =>
    rcases List.mem_cons.1 h with rfl | h
    · exact List.mem_cons_self
    · exact List.mem_cons_of_mem _ (ih h)

theorem mem_of_value? {flag v : Text} (h : value? flag = some v) {c : Char} (hc : c ∈ v) : c ∈ flag := by
  unfold value? at h
  split at h
  · next t ht =>
    have hmem : ∀ d ∈ t, d ∈ flag := fun d hd =>
      (List.dropWhile_sublist _).subset (ht ▸ List.mem_cons_of_mem _ hd)
    simp only at h
    split at h
    · cases h
    · obtain rfl := Option.some.inj h
      exact hmem c ((List.takeWhile_sublist _).subset (mem_of_mem_dropBracket hc))
  · cases h

/-- The value ends before the next break. -/
theorem isBreak_of_mem_value? {flag v : Text} (h : value? flag = some v) {c : Char} (hc : c ∈ v) :
    isBreak c = false := by
  unfold value? at h
  split at h
  · simp only at h
    split at h
    · cases h
    · obtain rfl := Option.some.inj h
      have hpart := List.mem_takeWhile_imp (mem_of_mem_dropBracket hc)
      simpa using hpart
  · cases h

theorem mem_of_mem_dropDash {t : Text} {c : Char} (h : c ∈ dropDash t) : c ∈ t := by
  unfold dropDash at h
  split at h
  · exact List.mem_cons_of_mem _ h
  · exact h

/-- The value on the page is empty or set off by a space. -/
theorem valueText_eq_nil_or (flag : Text) : valueText flag = [] ∨ ∃ t, valueText flag = ' ' :: t := by
  unfold valueText
  cases value? flag with
  | none => exact Or.inl rfl
  | some v => exact Or.inr ⟨_, rfl⟩

/-- The characters that the page adds to a spelling. -/
def marks : Text := "Fl Ns=Ar".toList

/-- The page shows a spelling in its own characters and those of the macros. -/
theorem mem_text {flag : Text} {c : Char} (h : c ∈ text flag) : c ∈ flag ∨ c ∈ marks := by
  have hopening : "Fl ".toList ⊆ marks := by decide
  have hattached : " Ns = Ns Ar ".toList ⊆ marks := by decide
  rcases List.mem_append.1 h with h | h
  · rcases List.mem_append.1 h with h | h
    · exact Or.inr (hopening h)
    · exact Or.inl ((isCut_stem flag).mem (mem_of_mem_dropDash h))
  · unfold valueText at h
    cases hv : value? flag with
    | none =>
      rw [hv] at h
      exact absurd h List.not_mem_nil
    | some v =>
      rw [hv] at h
      rcases List.mem_append.1 h with h | h
      · exact Or.inr (hattached h)
      · exact Or.inl (mem_of_value? hv h)

/-- A page shows no line feed for a spelling without one. -/
theorem lineFeed_not_mem_text {flag : Text} (h : '\n' ∉ flag) : '\n' ∉ text flag := by
  intro hmem
  rcases mem_text hmem with hmem | hmem
  · exact h hmem
  · exact absurd hmem (by decide)

end Manpage.Flag
