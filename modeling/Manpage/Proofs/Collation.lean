import Manpage.Collation

/-!
# Sorting in the order of collation

What `Collation.sortOn` does to a list, whatever its members are.

* `Key.eq_of_compare` — keys that compare as equal are equal, so that the order ties names only where their keys
  agree;
* `sortOn_perm` and `pairwise_sortOn` — the same members, in ascending order of their keys;
* `filter_sortOn` — stability: the members of one key stand as they stood before the sorting, and
  `pairwise_sortOn_of_pairwise` carries over what holds between them;
* `collatable_iff_notMem` — the one character of which no name may be made;
* `sortOn?_eq_ok_iff` — sorting succeeds exactly if every name can be put in order.
-/

namespace Manpage.Collation

/-! ### Equal keys -/

theorem Group.rank_injective {g h : Group} (e : g.rank = h.rank) : g = h := by
  cases g <;> cases h <;> first | rfl | cases e

theorem Weight.eq_of_compare {v w : Weight} (h : Weight.compare v w = .eq) : v = w := by
  obtain ⟨hgroup, hrank⟩ := compareLex_eq_eq.1 h
  obtain ⟨g, m⟩ := v
  obtain ⟨g', m'⟩ := w
  have hg : g = g' := Group.rank_injective (Std.LawfulEqOrd.eq_of_compare hgroup)
  have hm : m = m' := Std.LawfulEqOrd.eq_of_compare hrank
  rw [hg, hm]

instance : Std.LawfulEqOrd Weight where
  compare_self := Std.ReflOrd.compare_self
  eq_of_compare := Weight.eq_of_compare

/-- Keys that compare as equal are equal. -/
theorem Key.eq_of_compare {k l : Key} (h : Key.compare k l = .eq) : k = l := by
  obtain ⟨hprimary, htertiary⟩ := compareLex_eq_eq.1 h
  obtain ⟨p, t⟩ := k
  obtain ⟨p', t'⟩ := l
  have hp : p = p' := Std.LawfulEqOrd.eq_of_compare hprimary
  have ht : t = t' := Std.LawfulEqOrd.eq_of_compare htertiary
  rw [hp, ht]

instance : Std.LawfulEqOrd Key where
  compare_self := Std.ReflOrd.compare_self
  eq_of_compare := Key.eq_of_compare

/-! ### The order of names -/

/-- Whether a name stands at or before another in the order. -/
def precedes (a b : Text) : Bool := (compare (key a) (key b)).isLE

theorem precedes_trans {a b c : Text} (hab : precedes a b = true) (hbc : precedes b c = true) :
    precedes a c = true :=
  Std.TransOrd.isLE_trans hab hbc

theorem precedes_total (a b : Text) : (precedes a b || precedes b a) = true := by
  have h : compare (key b) (key a) = (compare (key a) (key b)).swap := Std.OrientedOrd.eq_swap
  unfold precedes
  rw [h]
  cases compare (key a) (key b) <;> rfl

theorem precedes_of_key_eq {a b : Text} (h : key a = key b) : precedes a b = true := by
  rw [precedes, h, Std.ReflOrd.compare_self]
  rfl

/-- Names that stand at or before each other have the same key. -/
theorem key_eq_of_precedes {a b : Text} (hab : precedes a b = true) (hba : precedes b a = true) :
    key a = key b :=
  Std.LawfulEqOrd.eq_of_compare (Std.OrientedCmp.isLE_antisymm hab hba)

/-! ### Sorting -/

variable {α : Type} (name : α → Text)

theorem sortOn_eq_mergeSort (xs : List α) :
    sortOn name xs = xs.mergeSort fun a b => precedes (name a) (name b) := by
  have hmap := List.map_mergeSort (l := xs) (f := fun x => (key (name x), x))
    (r := fun a b => precedes (name a) (name b)) (s := fun a b => (Key.compare a.1 b.1).isLE)
    fun a _ b _ => rfl
  rw [sortOn, ← hmap, List.map_map]
  exact List.map_id _

theorem sortOn_perm (xs : List α) : (sortOn name xs).Perm xs := by
  rw [sortOn_eq_mergeSort]
  exact List.mergeSort_perm xs _

/-- The sorted members stand in ascending order of their names. -/
theorem pairwise_sortOn (xs : List α) :
    (sortOn name xs).Pairwise fun a b => precedes (name a) (name b) = true := by
  rw [sortOn_eq_mergeSort]
  exact List.pairwise_mergeSort (fun a b c => precedes_trans (a := name a) (b := name b) (c := name c))
    (fun a b => precedes_total (name a) (name b)) xs

/-- Members with one key keep their order. -/
theorem filter_sortOn (k : Key) (xs : List α) :
    (sortOn name xs).filter (fun x => key (name x) = k) = xs.filter (fun x => key (name x) = k) := by
  have htied : (xs.filter (fun x => key (name x) = k)).Pairwise fun a b => precedes (name a) (name b) = true := by
    refine List.pairwise_of_forall_mem_list fun a ha b hb => precedes_of_key_eq ?_
    have hka : key (name a) = k := by simpa using (List.mem_filter.1 ha).2
    have hkb : key (name b) = k := by simpa using (List.mem_filter.1 hb).2
    rw [hka, hkb]
  have hsub : (xs.filter (fun x => key (name x) = k)).Sublist (sortOn name xs) := by
    rw [sortOn_eq_mergeSort]
    exact List.sublist_mergeSort (fun a b c => precedes_trans (a := name a) (b := name b) (c := name c))
      (fun a b => precedes_total (name a) (name b)) htied List.filter_sublist
  have hsub' := hsub.filter (fun x => key (name x) = k)
  rw [List.filter_filter] at hsub'
  simp only [Bool.and_self] at hsub'
  refine (hsub'.eq_of_length ?_).symm
  exact ((sortOn_perm name xs).filter _).length_eq.symm

/-- What holds between the members of one key, first to last, holds after sorting. -/
theorem pairwise_sortOn_of_pairwise {R : α → α → Prop} {xs : List α}
    (h : xs.Pairwise fun a b => key (name a) = key (name b) → R a b) :
    (sortOn name xs).Pairwise fun a b => key (name a) = key (name b) → R a b := by
  rw [List.pairwise_iff_forall_sublist] at h ⊢
  intro a b hab hkey
  have hpair := hab.filter (fun x => key (name x) = key (name b))
  rw [filter_sortOn] at hpair
  have hboth : [a, b].filter (fun x => key (name x) = key (name b)) = [a, b] := by simp [hkey]
  rw [hboth] at hpair
  exact h (hpair.trans List.filter_sublist) hkey

/-- One character keeps a name from having a key. -/
theorem collatable_iff_notMem {name : Text} : collatable name = true ↔ '\u0130' ∉ name := by
  simp only [collatable, Unicode.hasLongLower, List.all_eq_true, Bool.not_eq_true', decide_eq_false_iff_not]
  exact ⟨fun h hmem => h _ hmem rfl, fun h c hc heq => h (heq ▸ hc)⟩

/-- Sorting succeeds exactly if every name has a key. -/
theorem sortOn?_eq_ok_iff {xs ys : List α} :
    sortOn? name xs = .ok ys ↔ (∀ x ∈ xs, collatable (name x) = true) ∧ ys = sortOn name xs := by
  unfold sortOn?
  cases hfind : xs.find? fun x => !collatable (name x) with
  | none =>
    have hall : ∀ x ∈ xs, collatable (name x) = true := by simpa using hfind
    simp only [Except.ok.injEq]
    exact ⟨fun h => ⟨hall, h.symm⟩, fun h => h.2.symm⟩
  | some x =>
    have hx : collatable (name x) = false := by simpa using List.find?_some hfind
    simp only [reduceCtorEq, false_iff, not_and]
    intro hall
    rw [hall x (List.mem_of_find?_eq_some hfind)] at hx
    cases hx

end Manpage.Collation
