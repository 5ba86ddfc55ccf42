import Manpage.Proofs.Reference.Contents

/-!
# Extraction from any line on

No entry is read by looking back, so that a document can be read from the middle, in the section in effect there.

* `entryUnder?` — the entry that a line gives under some sections; `entryUnder?_drop` — it is the same one in what is
  left of the document from an earlier line on, and `entriesUnder_drop` — so the entries behind a cut follow those in
  front of it;
* `exists_collect_drop` — a walk without a defect has none from any line on;
* `HoldsLatest.subset_of_append`, `IsFlagTable.pair_sublist_iff` — a table of later records in the table of all;
* `extract_restart` — from any line on there are tables again, and how they stand to those of the whole document.
-/

namespace Manpage

open Collation

/-! ### Entries by the number of the line -/

theorem Section.inEffect_append (s : Section) (front back : List Text) :
    s.inEffect (front ++ back) = (s.inEffect front).inEffect back := by
  induction front generalizing s with
  | nil => rfl
  | cons l front ih => rw [List.cons_append, Section.inEffect_cons, ih, ← Section.inEffect_cons]

theorem entryAt?_drop (ls : List Text) (k i : Nat) : entryAt? (ls.drop k) i = entryAt? ls (k + i) := by
  rw [entryAt?_eq, entryAt?_eq, List.drop_drop]

theorem entryAt?_eq_none_of_length_le {ls : List Text} {i : Nat} (h : ls.length ≤ i) : entryAt? ls i = none := by
  rw [entryAt?_eq, List.drop_eq_nil_of_le h]

section EntryUnder

variable (sections : List Section) (s : Section) (ls : List Text)

/-- The entry that a line of a document gives, if it stands in one of the given sections. -/
def entryUnder? (i : Nat) : Option Entry := if s.inEffect (ls.take i) ∈ sections then entryAt? ls i else none

theorem entryUnder?_drop (k i : Nat) :
    entryUnder? sections (s.inEffect (ls.take k)) (ls.drop k) i = entryUnder? sections s ls (k + i) := by
  rw [entryUnder?, entryUnder?, ← Section.inEffect_append, ← List.take_add, entryAt?_drop]

theorem filterMap_range_entryUnder? {n : Nat} (h : ls.length ≤ n) :
    (List.range n).filterMap (entryUnder? sections s ls) = entriesUnder sections s ls := by
  obtain ⟨m, rfl⟩ := Nat.exists_eq_add_of_le h
  have hbehind : ((List.range m).map (ls.length + ·)).filterMap (entryUnder? sections s ls) = [] := by
    rw [List.filterMap_eq_nil_iff]
    intro i hi
    obtain ⟨j, -, rfl⟩ := List.mem_map.1 hi
    rw [entryUnder?, entryAt?_eq_none_of_length_le (Nat.le_add_right _ _), ite_self]
  rw [List.range_add, List.filterMap_append, hbehind, List.append_nil]
  rfl

/-- The entries of a document are those of the lines in front of a cut, and then those of what is left. -/
theorem entriesUnder_drop (k : Nat) :
    entriesUnder sections s ls = (List.range k).filterMap (entryUnder? sections s ls) ++
      entriesUnder sections (s.inEffect (ls.take k)) (ls.drop k) := by
  have hlen : ls.length ≤ k + (ls.drop k).length := by
    rw [List.length_drop]
    omega
  rw [← filterMap_range_entryUnder? sections s ls hlen, List.range_add, List.filterMap_append, List.filterMap_map]
  congr 1
  exact List.filterMap_congr fun i _ => (entryUnder?_drop sections s ls k i).symm

end EntryUnder

theorem mem_entriesUnder_of_entryUnder? {sections : List Section} {s : Section} {ls : List Text} {i : Nat} {e : Entry}
    (h : entryUnder? sections s ls i = some e) : e ∈ entriesUnder sections s ls := by
  rw [← filterMap_range_entryUnder? sections s ls (Nat.le_add_right ls.length (i + 1))]
  exact List.mem_filterMap.2 ⟨i, List.mem_range.2 (by omega), h⟩

/-! ### The walk from a line on -/

/-- A walk without a defect has none from any line on. -/
theorem exists_collect_drop {s : Section} {n : Int} {ls : List Text} {rs : List (Section × Entry)}
    (h : collect s n ls = .ok rs) (k : Nat) : ∃ us, collect (s.inEffect (ls.take k)) (n + k) (ls.drop k) = .ok us := by
  induction k generalizing s n ls rs with
  | zero => exact ⟨rs, by simpa [Section.inEffect] using h⟩
  | succ k ih =>
    cases ls with
    | nil => exact ⟨[], rfl⟩
    | cons l ls =>
      obtain ⟨-, rest, -, hrest, -⟩ := collect_cons_eq_ok_iff.1 h
      have hnumber : n + ((k + 1 : Nat) : Int) = n + 1 + k := by omega
      rw [List.take_succ_cons, List.drop_succ_cons, Section.inEffect_cons, hnumber]
      exact ih hrest

/-- The number of the first line is of no account to a walk without a defect. -/
theorem collect_eq_ok_of_add {s : Section} {n k : Int} {ls : List Text} {rs : List (Section × Entry)}
    (h : collect s (n + k) ls = .ok rs) : collect s n ls = .ok rs := by
  rw [collect_shift] at h
  cases hcollect : collect s n ls with
  | error m => rw [hcollect] at h; cases h
  | ok us => rw [hcollect] at h; exact h

/-! ### The table of later records in the table of all -/

section Tables

variable {older newer whole tail : List Entry}

/-- Later records are the latest ones of their names. -/
theorem HoldsLatest.subset_of_append (h : HoldsLatest (older ++ newer) whole) (h' : HoldsLatest newer tail) {e : Entry}
    (he : e ∈ tail) : e ∈ whole := by
  rw [h.mem_iff, lastOf_append, h'.latest e he, Option.some_or]

/-- An entry that the later records do not account for has a name that they lack. -/
theorem HoldsLatest.notMem_names_of_append (h : HoldsLatest (older ++ newer) whole) (h' : HoldsLatest newer tail)
    {e : Entry} (he : e ∈ whole) (hnew : e ∉ tail) : e.name ∉ newer.map Entry.name := by
  intro hname
  obtain ⟨d, hd, hde⟩ := List.mem_map.1 ((h'.names _).2 hname)
  -- the later entry of that name is in the table of all, where there is one entry of a name
  obtain rfl : d = e := List.inj_on_of_nodup_map h.nodup (h.subset_of_append h' hd) he hde
  exact hnew hd

theorem pair_sublist_or_of_mem {α : Type} {l : List α} {a b : α} (ha : a ∈ l) (hb : b ∈ l) (hab : a ≠ b) :
    [a, b].Sublist l ∨ [b, a].Sublist l := by
  obtain ⟨front, back, rfl⟩ := List.mem_iff_append.1 ha
  rcases List.mem_append.1 hb with hb | hb
  · exact Or.inr ((List.singleton_sublist.2 hb).append (List.singleton_sublist.2 List.mem_cons_self))
  · have hback : b ∈ back := (List.mem_cons.1 hb).resolve_left hab.symm
    exact Or.inl (((List.singleton_sublist.2 hback).cons_cons a).trans (List.sublist_append_right front _))

/-- Of two flags with different keys, the one that stands first in a table is the one that sorts first. -/
theorem IsFlagTable.pair_sublist_iff {recorded flags : List Entry} (h : IsFlagTable recorded flags) {a b : Entry}
    (ha : a ∈ flags) (hb : b ∈ flags) (hkey : key a.name ≠ key b.name) :
    [a, b].Sublist flags ↔ precedes a.name b.name = true := by
  have hsorted {c d : Entry} (hcd : [c, d].Sublist flags) : precedes c.name d.name = true :=
    List.pairwise_iff_forall_sublist.1 h.sorted hcd
  refine ⟨hsorted, fun hab => ?_⟩
  have hne : a ≠ b := fun heq => hkey (heq ▸ rfl)
  exact (pair_sublist_or_of_mem ha hb hne).resolve_right fun hba => hkey (key_eq_of_precedes hab (hsorted hba))

end Tables

/-! ### Tables from a line on -/

/-- How the tables of what is left of a document from a line on, `u`, stand to those of the whole document, `t`. -/
structure IsRestart (s : Section) (ls : List Text) (k : Nat) (t u : Tables) : Prop where
  /-- The environment variables are the last ones of the document. -/
  environment : u.environment <:+ t.environment
  /-- The flags are flags of the document, with their descriptions. -/
  flags : ∀ e ∈ u.flags, e ∈ t.flags
  /-- Two flags that sort differently stand in the same order. -/
  order : ∀ a ∈ u.flags, ∀ b ∈ u.flags, key a.name ≠ key b.name → ([a, b].Sublist u.flags ↔ [a, b].Sublist t.flags)
  /-- A flag that is left out has a heading in front of the line, and none from it on. -/
  earlier : ∀ e ∈ t.flags, e ∉ u.flags →
    (∃ i < k, entryUnder? [.options, .v8Options] s ls i = some e) ∧
      ∀ i d, entryUnder? [.options, .v8Options] s ls i = some d → d.name = e.name → i < k

/-- **Extraction can be restarted at any line.**  Let a document have tables.  What is left of it from a line on, read
in the section in effect at that line, has tables too.  Their environment variables are the last ones of the document;
their flags are flags of the document, with the same descriptions and in the same order, up to flags of one sorting
key; and each other flag of the document comes from headings in front of that line only. -/
theorem extract_restart {s : Section} {ls : List Text} {t : Tables} (h : extract s ls = .ok t) (k : Nat) :
    ∃ u, extract (s.inEffect (ls.take k)) (ls.drop k) = .ok u ∧ IsRestart s ls k t u := by
  obtain ⟨henvironment, hwhole⟩ := extract_contents h
  obtain ⟨rs, hrs, hnames, rfl⟩ := extract_eq_ok_iff.1 h
  obtain ⟨us, hshifted⟩ := exists_collect_drop hrs k
  have hus := collect_eq_ok_of_add hshifted
  have htail := (holdsLatest_flagTable us).isFlagTable_sortOn
  rw [entriesUnder_drop _ s ls k, ← recordedFlags_eq hus] at hwhole
  have hsubset {e : Entry} (he : e ∈ sortOn Entry.name (flagTable us)) :
      e ∈ sortOn Entry.name (flagTable rs) := hwhole.toHoldsLatest.subset_of_append htail.toHoldsLatest he
  have hcollatable : ∀ e ∈ sortOn Entry.name (flagTable us), collatable e.name = true :=
    fun e he => hnames e ((sortOn_perm Entry.name _).mem_iff.1 (hsubset he))
  refine ⟨_, extract_eq_of_isFlagTable hus htail hcollatable, ?_⟩
  refine { environment := ?_, flags := fun e he => hsubset he, order := ?_, earlier := ?_ }
  · rw [henvironment, entriesUnder_drop _ s ls k, variableTable_eq hus]
    exact List.suffix_append _ _
  · intro a ha b hb hkey
    rw [htail.pair_sublist_iff ha hb hkey, hwhole.pair_sublist_iff (hsubset ha) (hsubset hb) hkey]
  · intro e he hleft
    have hname := hwhole.toHoldsLatest.notMem_names_of_append htail.toHoldsLatest he hleft
    constructor
    · have hfront := (List.mem_append.1 (hwhole.toHoldsLatest.mem_recorded he)).resolve_right
        fun hmem => hname (List.mem_map_of_mem hmem)
      obtain ⟨i, hi, hentry⟩ := List.mem_filterMap.1 hfront
      exact ⟨i, List.mem_range.1 hi, hentry⟩
    · intro i d hd hde
      by_contra hik
      obtain ⟨j, rfl⟩ := Nat.exists_eq_add_of_le (Nat.le_of_not_lt hik)
      rw [← entryUnder?_drop] at hd
      refine hname (hde ▸ List.mem_map_of_mem ?_)
      rw [recordedFlags_eq hus]
      exact mem_entriesUnder_of_entryUnder? hd

/-- A document cut within a comment: the flag in front of it is left out, and the one that is defined again stays. -/
theorem restart_within_comment :
    let ls := ["## Options", "### `-a`", "", "<!-- Also", "### `-b`", "", "Old.", "-->", "Of a.", "### `-b`", "", "New.",
      "## Environment variables", "### `X`", "", "Of x."].map String.toList
    ∃ t, extract .other ls = .ok t ∧ t.flags.map Entry.name = ["-a", "-b"].map String.toList ∧
      ∃ u, extract (Section.inEffect .other (ls.take 4)) (ls.drop 4) = .ok u ∧
        u.flags = [⟨"-b".toList, "New.".toList⟩] ∧ IsRestart .other ls 4 t u := by
  intro ls
  let a : Entry := ⟨"-a".toList, "Of a.".toList⟩
  let old : Entry := ⟨"-b".toList, "Old.".toList⟩
  let new : Entry := ⟨"-b".toList, "New.".toList⟩
  let x : Entry := ⟨"X".toList, "Of x.".toList⟩
  have hwalk : collect .other 0 ls = .ok [(.options, a), (.options, old), (.options, new), (.environment, x)] := by
    decide +kernel
  have htable : IsFlagTable [a, old, new] [a, new] := by
    have hsub : [a, new].map Entry.name ⊆ [a, old, new].map Entry.name := by decide
    have hsup : [a, old, new].map Entry.name ⊆ [a, new].map Entry.name := by decide
    exact
      { nodup := by decide
        names := fun n => ⟨fun h => hsub h, fun h => hsup h⟩
        latest := by decide
        ties := by decide +kernel
        sorted := by decide +kernel }
  have hextract := extract_eq_of_isFlagTable hwalk htable (by decide +kernel)
  obtain ⟨u, hu, hrestart⟩ := extract_restart hextract 4
  have hback : extract (Section.inEffect .other (ls.take 4)) (ls.drop 4) = .ok ⟨[new], [x]⟩ := by decide +kernel
  obtain rfl : u = ⟨[new], [x]⟩ := Except.ok.inj (hu.symm.trans hback)
  exact ⟨_, hextract, rfl, _, hu, rfl, hrestart⟩

end Manpage
