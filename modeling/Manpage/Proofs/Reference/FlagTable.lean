import Mathlib.Data.List.Nodup
import Manpage.Proofs.Collation
import Manpage.Reference.Tables

/-!
# The table of flags

A flag may be recorded more than once.  Its last record decides what the table says of it, its first record where
it stands among flags of one sorting key.

* `lastOf`, `firstAt` — the last record of a name, and the position of its first;
* `HoldsLatest` — a table with one entry for each recorded name, the last one, where entries with one key stand in the
  order in which their names first appeared; `IsFlagTable` — the same in ascending order of the keys;
* `IsFlagTable.unique` — records have one such table only;
* `redefine` — a table brought up to date by a later one (`HoldsLatest.redefine`), of which `upsert` is the case of a
  single entry;
* `holdsLatest_flagTable` — the walk keeps such a table, and `HoldsLatest.isFlagTable_sortOn` — sorting completes it.
-/

namespace Manpage

open Collation

/-! ### Records of a name -/

/-- The last of the entries that has a name. -/
def lastOf (recorded : List Entry) (name : Text) : Option Entry :=
  recorded.reverse.find? fun e => e.name = name

/-- The position of the first of the entries that has a name. -/
def firstAt (recorded : List Entry) (name : Text) : Nat := (recorded.map Entry.name).idxOf name

theorem lastOf_append (older newer : List Entry) (name : Text) :
    lastOf (older ++ newer) name = (lastOf newer name).or (lastOf older name) := by
  simp only [lastOf, List.reverse_append, List.find?_append]

theorem lastOf_eq_none {recorded : List Entry} {name : Text} (h : name ∉ recorded.map Entry.name) :
    lastOf recorded name = none := by
  simp only [lastOf, List.find?_eq_none, List.mem_reverse, decide_eq_true_eq]
  intro e he hname
  exact h (hname ▸ List.mem_map_of_mem he)

theorem mem_of_lastOf {recorded : List Entry} {name : Text} {e : Entry} (h : lastOf recorded name = some e) :
    e ∈ recorded :=
  List.mem_reverse.1 (List.mem_of_find?_eq_some h)

theorem firstAt_append_of_mem {older : List Entry} (newer : List Entry) {name : Text}
    (h : name ∈ older.map Entry.name) : firstAt (older ++ newer) name = firstAt older name := by
  rw [firstAt, List.map_append, List.idxOf_append_of_mem h, firstAt]

theorem firstAt_append_of_notMem {older : List Entry} (newer : List Entry) {name : Text}
    (h : name ∉ older.map Entry.name) : firstAt (older ++ newer) name = older.length + firstAt newer name := by
  rw [firstAt, List.map_append, List.idxOf_append_of_notMem h, List.length_map, firstAt]

theorem firstAt_lt_length {recorded : List Entry} {name : Text} (h : name ∈ recorded.map Entry.name) :
    firstAt recorded name < recorded.length := by
  have hlt := List.idxOf_lt_length_of_mem h
  rwa [List.length_map] at hlt

/-! ### Tables of the latest entries -/

/-- A table of what was recorded: each name once, with its last entry.  Entries whose names have one sorting key stand
in the order in which these names were first recorded. -/
structure HoldsLatest (recorded table : List Entry) : Prop where
  nodup : (table.map Entry.name).Nodup
  names : ∀ n, n ∈ table.map Entry.name ↔ n ∈ recorded.map Entry.name
  latest : ∀ e ∈ table, lastOf recorded e.name = some e
  ties : table.Pairwise fun a b => key a.name = key b.name → firstAt recorded a.name < firstAt recorded b.name

/-- A table of the latest entries in ascending order of their sorting keys. -/
structure IsFlagTable (recorded flags : List Entry) : Prop extends HoldsLatest recorded flags where
  sorted : flags.Pairwise fun a b => precedes a.name b.name = true

theorem HoldsLatest.mem_recorded {recorded table : List Entry} (h : HoldsLatest recorded table) {e : Entry}
    (he : e ∈ table) : e ∈ recorded :=
  mem_of_lastOf (h.latest e he)

theorem HoldsLatest.mem_iff {recorded table : List Entry} (h : HoldsLatest recorded table) (e : Entry) :
    e ∈ table ↔ lastOf recorded e.name = some e := by
  refine ⟨h.latest e, ?_⟩
  intro he
  have hname : e.name ∈ table.map Entry.name := (h.names _).2 (List.mem_map_of_mem (mem_of_lastOf he))
  obtain ⟨d, hd, hde⟩ := List.mem_map.1 hname
  have hlast := h.latest d hd
  rw [hde, he] at hlast
  cases hlast
  exact hd

theorem HoldsLatest.perm {recorded table table' : List Entry} (h : HoldsLatest recorded table)
    (h' : HoldsLatest recorded table') : table.Perm table' := by
  rw [List.perm_ext_iff_of_nodup (List.Nodup.of_map _ h.nodup) (List.Nodup.of_map _ h'.nodup)]
  intro e
  rw [h.mem_iff, h'.mem_iff]

/-- What was recorded determines the sorted table. -/
theorem IsFlagTable.unique {recorded flags flags' : List Entry} (h : IsFlagTable recorded flags)
    (h' : IsFlagTable recorded flags') : flags = flags' := by
  refine (h.toHoldsLatest.perm h'.toHoldsLatest).eq_of_pairwise ?_ (h.sorted.and h.ties) (h'.sorted.and h'.ties)
  intro a b _ _ hab hba
  -- two entries, each at or before the other, share a key, and then neither name was recorded first
  have hkey : key a.name = key b.name := key_eq_of_precedes hab.1 hba.1
  have h1 := hab.2 hkey
  have h2 := hba.2 hkey.symm
  omega

/-- Sorting a table of the latest entries gives the table of flags. -/
theorem HoldsLatest.isFlagTable_sortOn {recorded table : List Entry} (h : HoldsLatest recorded table) :
    IsFlagTable recorded (sortOn Entry.name table) := by
  have hperm := sortOn_perm Entry.name table
  refine { nodup := ?_, names := ?_, latest := ?_, ties := ?_, sorted := pairwise_sortOn Entry.name table }
  · exact (hperm.map Entry.name).nodup_iff.2 h.nodup
  · intro n
    rw [(hperm.map Entry.name).mem_iff]
    exact h.names n
  · intro e he
    exact h.latest e (hperm.mem_iff.1 he)
  · exact pairwise_sortOn_of_pairwise Entry.name h.ties

/-! ### Later tables -/

/-- A table brought up to date: an entry gives way to the newer one of its name, and new names come at the end. -/
def redefine (table newer : List Entry) : List Entry :=
  table.map (fun e => (newer.find? fun d => d.name = e.name).getD e) ++
    newer.filter fun d => table.all fun e => e.name ≠ d.name

theorem name_getD_find? (newer : List Entry) (e : Entry) :
    ((newer.find? fun d => d.name = e.name).getD e).name = e.name := by
  cases hfind : newer.find? fun d => d.name = e.name with
  | none => rfl
  | some d => simpa using List.find?_some hfind

theorem mem_filter_new {table newer : List Entry} {d : Entry} :
    (d ∈ newer.filter fun d => table.all fun e => e.name ≠ d.name) ↔ d ∈ newer ∧ d.name ∉ table.map Entry.name := by
  simp only [List.mem_filter, List.all_eq_true, decide_eq_true_eq, List.mem_map, not_exists, not_and]

theorem mem_of_mem_redefine {table newer : List Entry} {e : Entry} (h : e ∈ redefine table newer) :
    e ∈ table ∨ e ∈ newer := by
  rcases List.mem_append.1 h with h | h
  · obtain ⟨d, hd, rfl⟩ := List.mem_map.1 h
    cases hfind : newer.find? fun x => x.name = d.name with
    | none => exact Or.inl hd
    | some x => exact Or.inr (List.mem_of_find?_eq_some hfind)
  · exact Or.inr (mem_filter_new.1 h).1

theorem map_name_redefine (table newer : List Entry) :
    (redefine table newer).map Entry.name = table.map Entry.name ++
      (newer.filter fun d => table.all fun e => e.name ≠ d.name).map Entry.name := by
  rw [redefine, List.map_append, List.map_map]
  congr 1
  exact List.map_congr_left fun e _ => name_getD_find? newer e

section Redefine

variable {older newer table table' : List Entry}

theorem HoldsLatest.nodup_redefine (h : HoldsLatest older table) (h' : HoldsLatest newer table') :
    ((redefine table table').map Entry.name).Nodup := by
  rw [map_name_redefine]
  refine List.Nodup.append h.nodup (h'.nodup.sublist (List.filter_sublist.map _)) ?_
  intro n hn hn'
  obtain ⟨d, hd, rfl⟩ := List.mem_map.1 hn'
  exact (mem_filter_new.1 hd).2 hn

theorem HoldsLatest.names_redefine (h : HoldsLatest older table) (h' : HoldsLatest newer table') (n : Text) :
    n ∈ (redefine table table').map Entry.name ↔ n ∈ (older ++ newer).map Entry.name := by
  rw [map_name_redefine, List.map_append, List.mem_append, List.mem_append, ← h.names, ← h'.names]
  constructor
  · intro hn
    rcases hn with hn | hn
    · exact Or.inl hn
    · obtain ⟨d, hd, rfl⟩ := List.mem_map.1 hn
      exact Or.inr (List.mem_map_of_mem (mem_filter_new.1 hd).1)
  · intro hn
    by_cases hold : n ∈ table.map Entry.name
    · exact Or.inl hold
    · obtain ⟨d, hd, rfl⟩ := List.mem_map.1 (hn.resolve_left hold)
      exact Or.inr (List.mem_map_of_mem (mem_filter_new.2 ⟨hd, hold⟩))

theorem HoldsLatest.latest_redefine (h : HoldsLatest older table) (h' : HoldsLatest newer table') {e : Entry}
    (he : e ∈ redefine table table') : lastOf (older ++ newer) e.name = some e := by
  rw [lastOf_append]
  rcases List.mem_append.1 he with he | he
  · obtain ⟨d, hd, rfl⟩ := List.mem_map.1 he
    cases hfind : table'.find? fun x => x.name = d.name with
    | none =>
      -- a name that the newer table lacks was not recorded again
      have hnew : d.name ∉ newer.map Entry.name := by
        rw [← h'.names]
        intro hmem
        obtain ⟨x, hx, hxd⟩ := List.mem_map.1 hmem
        exact absurd (by simpa using hxd) (List.find?_eq_none.1 hfind x hx)
      show (lastOf newer d.name).or (lastOf older d.name) = some d
      rw [lastOf_eq_none hnew, Option.none_or]
      exact h.latest d hd
    | some x =>
      show (lastOf newer x.name).or (lastOf older x.name) = some x
      rw [h'.latest x (List.mem_of_find?_eq_some hfind), Option.some_or]
  · rw [h'.latest e (mem_filter_new.1 he).1, Option.some_or]

/-- Replaced entries stay in their places and new ones come behind them, as their names do among the records. -/
theorem HoldsLatest.ties_redefine (h : HoldsLatest older table) (h' : HoldsLatest newer table') :
    (redefine table table').Pairwise fun a b =>
      key a.name = key b.name → firstAt (older ++ newer) a.name < firstAt (older ++ newer) b.name := by
  have hkept : ∀ e ∈ table, e.name ∈ older.map Entry.name := by
    intro e he
    exact (h.names _).1 (List.mem_map_of_mem he)
  have hnew : ∀ e ∈ table'.filter (fun d => table.all fun x => x.name ≠ d.name), e.name ∉ older.map Entry.name := by
    intro e he hmem
    exact (mem_filter_new.1 he).2 ((h.names _).2 hmem)
  refine List.pairwise_append.2 ⟨?_, ?_, ?_⟩
  · refine List.pairwise_map.2 (h.ties.imp_of_mem ?_)
    intro a b ha hb hab
    rw [name_getD_find?, name_getD_find?, firstAt_append_of_mem newer (hkept a ha),
      firstAt_append_of_mem newer (hkept b hb)]
    exact hab
  · refine (h'.ties.sublist List.filter_sublist).imp_of_mem ?_
    intro a b ha hb hab hkey
    rw [firstAt_append_of_notMem newer (hnew a ha), firstAt_append_of_notMem newer (hnew b hb)]
    exact Nat.add_lt_add_left (hab hkey) _
  · intro a ha b hb _
    obtain ⟨d, hd, rfl⟩ := List.mem_map.1 ha
    have hlt := firstAt_lt_length (hkept d hd)
    rw [name_getD_find?, firstAt_append_of_mem newer (hkept d hd), firstAt_append_of_notMem newer (hnew b hb)]
    omega

/-- A table of later records brings a table of earlier records up to date. -/
theorem HoldsLatest.redefine (h : HoldsLatest older table) (h' : HoldsLatest newer table') :
    HoldsLatest (older ++ newer) (redefine table table') :=
  { nodup := h.nodup_redefine h'
    names := h.names_redefine h'
    latest := fun _ he => h.latest_redefine h' he
    ties := h.ties_redefine h' }

end Redefine

/-! ### The table that a walk keeps -/

theorem holdsLatest_nil : HoldsLatest [] [] :=
  { nodup := List.nodup_nil, names := fun _ => Iff.rfl, latest := fun _ he => absurd he List.not_mem_nil,
    ties := List.Pairwise.nil }

theorem holdsLatest_singleton (e : Entry) : HoldsLatest [e] [e] := by
  refine { nodup := List.nodup_singleton _, names := fun _ => Iff.rfl, latest := ?_,
           ties := List.pairwise_singleton _ _ }
  intro d hd
  rw [List.mem_singleton.1 hd]
  simp [lastOf]

/-- Putting an entry into a table without double names brings the table up to date. -/
theorem upsert_eq_redefine (e : Entry) {table : List Entry} (h : (table.map Entry.name).Nodup) :
    upsert e table = redefine table [e] := by
  induction table with
  | nil => rfl
  | cons d table ih =>
    obtain ⟨hd, ht⟩ := List.nodup_cons.1 h
    by_cases hde : d.name = e.name
    · -- the entry takes the place of `d`, and no later one has its name
      have hkeep : ∀ x ∈ table, (([e].find? fun y => y.name = x.name).getD x) = x := by
        intro x hx
        have hxe : ¬ e.name = x.name := by
          intro hex
          exact hd (hde.trans hex ▸ List.mem_map_of_mem hx)
        simp [hxe]
      have hnew : ([e].filter fun y => (d :: table).all fun x => x.name ≠ y.name) = [] := by
        simp [hde]
      rw [upsert, if_pos hde, redefine, hnew, List.append_nil, List.map_cons, List.map_congr_left hkeep,
        List.map_id']
      simp [hde]
    · have hed : ¬ e.name = d.name := fun h => hde h.symm
      have hnew : ([e].filter fun y => (d :: table).all fun x => x.name ≠ y.name) =
          [e].filter fun y => table.all fun x => x.name ≠ y.name := by
        refine List.filter_congr ?_
        intro y hy
        rw [List.mem_singleton.1 hy]
        simp [hde]
      rw [upsert, if_neg hde, ih ht, redefine, redefine, hnew, List.map_cons, List.cons_append]
      simp [hed]

/-- The flags among recorded entries, in the order of the document. -/
def recordedFlags (recorded : List (Section × Entry)) : List Entry :=
  recorded.filterMap fun (s, e) => if s.holdsFlags then some e else none

theorem recordedFlags_append (rs us : List (Section × Entry)) :
    recordedFlags (rs ++ us) = recordedFlags rs ++ recordedFlags us :=
  List.filterMap_append

theorem variableTable_append (rs us : List (Section × Entry)) :
    variableTable (rs ++ us) = variableTable rs ++ variableTable us :=
  List.filterMap_append

theorem HoldsLatest.upsert {older table : List Entry} (h : HoldsLatest older table) (e : Entry) :
    HoldsLatest (older ++ [e]) (upsert e table) := by
  rw [upsert_eq_redefine e h.nodup]
  exact h.redefine (holdsLatest_singleton e)

/-- One more record keeps the table. -/
theorem HoldsLatest.record {older table : List Entry} (h : HoldsLatest older table) (s : Section) (e : Entry) :
    HoldsLatest (older ++ recordedFlags [(s, e)]) (if s.holdsFlags then Manpage.upsert e table else table) := by
  by_cases hs : s.holdsFlags = true
  · have hflag : recordedFlags [(s, e)] = [e] := by simp [recordedFlags, hs]
    rw [hflag, if_pos hs]
    exact h.upsert e
  · have hflag : recordedFlags [(s, e)] = [] := by simp [recordedFlags, hs]
    rw [hflag, if_neg hs, List.append_nil]
    exact h

theorem HoldsLatest.foldl {older table : List Entry} (h : HoldsLatest older table)
    (records : List (Section × Entry)) :
    HoldsLatest (older ++ recordedFlags records)
      (records.foldl (fun table (s, e) => if s.holdsFlags then Manpage.upsert e table else table) table) := by
  induction records generalizing older table with
  | nil => rwa [recordedFlags, List.filterMap_nil, List.append_nil]
  | cons r records ih =>
    have hrest := ih (h.record r.1 r.2)
    rwa [List.append_assoc, ← recordedFlags_append, List.singleton_append] at hrest

/-- Before sorting, the table holds the latest record of every flag. -/
theorem holdsLatest_flagTable (recorded : List (Section × Entry)) :
    HoldsLatest (recordedFlags recorded) (flagTable recorded) :=
  holdsLatest_nil.foldl recorded

end Manpage
