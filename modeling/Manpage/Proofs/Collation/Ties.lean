import Mathlib.Data.List.Forall2
import Mathlib.Data.List.Nodup
import Manpage.Proofs.Characters
import Manpage.Proofs.Collation

/-!
# Ties in the order of collation

Which names the order does not tell apart, and what of a name decides its place.

* `Weight.Describes` — the characters a weight may come from; the four groups do not meet, so that a weight comes from
  one character, or from letters with one lower-case form (`weight_eq_iff`);
* `Tied` — the characters a key does not tell apart, and `key_eq_iff_forall₂` — the names;
* `eq_of_key_eq` — names of ASCII with one key are the same;
* `sortOn_eq_of_perm` — where no two keys are equal, sorting does not depend on the order it starts from;
* `compare_key_map_toLower` — names of ASCII that differ in more than case stand as their lower-case forms do;
* `order_of_names` — all of this for the keys and the sorting that can be refused.
-/

namespace Manpage.Collation

open Unicode

/-! ### What a weight tells of its character -/

theorem isLetter_eq_false_of_mem_punctuation {c : Char} (h : c ∈ punctuation) : isLetter c = false := by
  have hall : punctuation.all (fun d => !isLetter d) = true := by decide
  simpa using List.all_eq_true.1 hall c h

/-- A letter weighs what its lower-case form says. -/
theorem weight_of_isLetter {c : Char} (h : isLetter c = true) : weight c = ⟨.letter, (toLower c).toNat⟩ := by
  have hnone : punctuation.idxOf? c = none := by
    rw [List.idxOf?_eq_none_iff]
    intro hmem
    rw [isLetter_eq_false_of_mem_punctuation hmem] at h
    cases h
  have hdigit : isDigit c ≠ true := fun hd => by
    rw [isLetter_eq_false_of_isDigit hd] at h
    cases h
  rw [weight, hnone]
  simp only [hdigit, h, Bool.false_eq_true, if_false, if_true]

/-- The characters a weight may come from. -/
def Weight.Describes (w : Weight) (c : Char) : Prop :=
  match w.group with
  | .punctuation => punctuation[w.rank]? = some c
  | .letter => isLetter c = true ∧ (toLower c).toNat = w.rank
  | .digit | .other => c.toNat = w.rank

theorem describes_weight (c : Char) : (weight c).Describes c := by
  unfold weight
  cases hidx : punctuation.idxOf? c with
  | some i =>
    obtain ⟨hi, hget, -⟩ := List.idxOf?_eq_some_iff.1 hidx
    exact List.getElem?_eq_some_iff.2 ⟨hi, hget⟩
  | none =>
    by_cases hdigit : isDigit c = true
    · simp [hdigit, Weight.Describes]
    · by_cases hletter : isLetter c = true <;> simp [hdigit, hletter, Weight.Describes]

/-- A weight comes from one character, or from letters with one lower-case form. -/
theorem Weight.Describes.eq_or_toLower_eq {w : Weight} {c d : Char} (hc : w.Describes c) (hd : w.Describes d) :
    c = d ∨ isLetter c = true ∧ isLetter d = true ∧ toLower c = toLower d := by
  obtain ⟨group, rank⟩ := w
  cases group with
  | punctuation => exact .inl (Option.some.inj (hc.symm.trans hd))
  | letter => exact .inr ⟨hc.1, hd.1, Char.toNat_inj.1 (hc.2.trans hd.2.symm)⟩
  | digit => exact .inl (Char.toNat_inj.1 (hc.trans hd.symm))
  | other => exact .inl (Char.toNat_inj.1 (hc.trans hd.symm))

/-- Two characters weigh the same if they are the same, or letters with one lower-case form, and not otherwise. -/
theorem weight_eq_iff {c d : Char} :
    weight c = weight d ↔ c = d ∨ isLetter c = true ∧ isLetter d = true ∧ toLower c = toLower d := by
  constructor
  · intro h
    exact (describes_weight c).eq_or_toLower_eq (h ▸ describes_weight d)
  · rintro (rfl | ⟨hc, hd, hlower⟩)
    · rfl
    · rw [weight_of_isLetter hc, weight_of_isLetter hd, hlower]

theorem toLower_eq_of_weight_eq {c d : Char} (h : weight c = weight d) : toLower c = toLower d := by
  rcases weight_eq_iff.1 h with rfl | ⟨-, -, hlower⟩
  · rfl
  · exact hlower

/-! ### Names with one key -/

/-- Two characters that a key does not tell apart: the same, or letters with one lower-case form in the same case. -/
def Tied (c d : Char) : Prop :=
  c = d ∨ isLetter c = true ∧ isLetter d = true ∧ toLower c = toLower d ∧ isUpper c = isUpper d

theorem tied_iff {c d : Char} : Tied c d ↔ weight c = weight d ∧ isUpper c = isUpper d := by
  rw [weight_eq_iff]
  constructor
  · rintro (rfl | ⟨hc, hd, hlower, hupper⟩)
    · exact ⟨.inl rfl, rfl⟩
    · exact ⟨.inr ⟨hc, hd, hlower⟩, hupper⟩
  · rintro ⟨rfl | ⟨hc, hd, hlower⟩, hupper⟩
    · exact .inl rfl
    · exact .inr ⟨hc, hd, hlower, hupper⟩

theorem key_cons_eq_iff {c d : Char} {a b : Text} :
    key (c :: a) = key (d :: b) ↔ (weight c = weight d ∧ isUpper c = isUpper d) ∧ key a = key b := by
  simp only [key, List.map_cons, Key.mk.injEq, List.cons.injEq]
  exact and_and_and_comm

/-- Names have one key exactly if they are tied character by character. -/
theorem key_eq_iff_forall₂ {a b : Text} : key a = key b ↔ List.Forall₂ Tied a b := by
  induction a generalizing b with
  | nil => cases b <;> simp [key]
  | cons c a ih =>
    cases b with
    | nil => simp [key]
    | cons d b => rw [key_cons_eq_iff, List.forall₂_cons, ih, tied_iff]

theorem Tied.eq_of_isAscii {c d : Char} (h : Tied c d) (hc : isAscii c = true) (hd : isAscii d = true) : c = d := by
  rcases h with rfl | ⟨-, -, hlower, hupper⟩
  · rfl
  · exact eq_of_toLower_eq hc hd hlower hupper

/-- Names of ASCII with one key are the same. -/
theorem eq_of_key_eq {a b : Text} (ha : a.all isAscii = true) (hb : b.all isAscii = true) (h : key a = key b) :
    a = b := by
  have htied := key_eq_iff_forall₂.1 h
  induction htied with
  | nil => rfl
  | @cons c d a b hcd _ ih =>
    obtain ⟨hc, ha⟩ := (Bool.and_eq_true _ _).mp ha
    obtain ⟨hd, hb⟩ := (Bool.and_eq_true _ _).mp hb
    rw [hcd.eq_of_isAscii hc hd, ih ha hb (key_cons_eq_iff.1 h).2]

theorem key?_of_collatable {a : Text} (ha : collatable a = true) : key? a = some (key a) := by rw [key?, if_pos ha]

/-- Every name of ASCII has a key. -/
theorem collatable_of_isAscii {a : Text} (ha : a.all isAscii = true) : collatable a = true := by
  rw [collatable_iff_notMem]
  intro hmem
  exact absurd (List.all_eq_true.1 ha _ hmem) (by decide)

/-! ### Sorting names that do not tie -/

/-- Where no two members have one key, sorting gives one list for all the orders the members may come in. -/
theorem sortOn_eq_of_perm {α : Type} (name : α → Text) {xs ys : List α} (hperm : xs.Perm ys)
    (hkey : ∀ x ∈ xs, ∀ y ∈ xs, key (name x) = key (name y) → x = y) : sortOn name xs = sortOn name ys := by
  have hsorted : (sortOn name xs).Perm (sortOn name ys) :=
    (sortOn_perm name xs).trans (hperm.trans (sortOn_perm name ys).symm)
  refine hsorted.eq_of_pairwise ?_ (pairwise_sortOn name xs) (pairwise_sortOn name ys)
  intro x y hx hy hxy hyx
  have hx' : x ∈ xs := (sortOn_perm name xs).mem_iff.1 hx
  have hy' : y ∈ xs := hperm.mem_iff.2 ((sortOn_perm name ys).mem_iff.1 hy)
  exact hkey x hx' y hy' (key_eq_of_precedes hxy hyx)

/-! ### Names and their lower-case forms -/

/-- A character of ASCII weighs what its lower-case form weighs. -/
theorem weight_toLower {c : Char} (hc : isAscii c = true) : weight (toLower c) = weight c := by
  by_cases hletter : isLetter c = true
  · obtain ⟨hlower, hidem⟩ := isLetter_toLower hc hletter
    rw [weight_of_isLetter hletter, weight_of_isLetter hlower, hidem]
  · rw [toLower_of_not_isLetter hc hletter]

theorem primary_key_map_toLower {a : Text} (ha : a.all isAscii = true) :
    (key (a.map toLower)).primary = (key a).primary := by
  simp only [key, List.map_map]
  exact List.map_congr_left fun c hc => weight_toLower (List.all_eq_true.1 ha c hc)

/-- The weights of a name determine its lower-case form. -/
theorem map_toLower_eq_of_primary_eq {a b : Text} (h : (key a).primary = (key b).primary) :
    a.map toLower = b.map toLower := by
  induction a generalizing b with
  | nil =>
    cases b with
    | nil => rfl
    | cons => cases h
  | cons c a ih =>
    cases b with
    | nil => cases h
    | cons d b =>
      obtain ⟨hweight, hrest⟩ := List.cons.inj h
      rw [List.map_cons, List.map_cons, toLower_eq_of_weight_eq hweight, ih hrest]

/-- Where the weights differ, they decide. -/
theorem compare_eq_of_primary_ne {k l : Key} (h : k.primary ≠ l.primary) :
    compare k l = compare k.primary l.primary := by
  have hne : compare k.primary l.primary ≠ .eq := fun heq => h (Std.LawfulEqOrd.eq_of_compare heq)
  change (compare k.primary l.primary).then (compare k.tertiary l.tertiary) = _
  cases hcmp : compare k.primary l.primary with
  | eq => exact absurd hcmp hne
  | lt => rfl
  | gt => rfl

/-- Names of ASCII that differ in more than the case of their letters stand as their lower-case forms do. -/
theorem compare_key_map_toLower {a b : Text} (ha : a.all isAscii = true) (hb : b.all isAscii = true)
    (h : a.map toLower ≠ b.map toLower) :
    compare (key (a.map toLower)) (key (b.map toLower)) = compare (key a) (key b) := by
  have hne : (key a).primary ≠ (key b).primary := fun heq => h (map_toLower_eq_of_primary_eq heq)
  have hlower : (key (a.map toLower)).primary ≠ (key (b.map toLower)).primary := by
    rwa [primary_key_map_toLower ha, primary_key_map_toLower hb]
  rw [compare_eq_of_primary_ne hne, compare_eq_of_primary_ne hlower, primary_key_map_toLower ha,
    primary_key_map_toLower hb]

/-! ### The order of names -/

/-- **The order of names.**  Every name without the one character that has no weight has a key.  Two such names have one
key exactly if they are as long as each other and tied at every place.  So names of ASCII never tie unless they are the
same, and two of them that differ in more than the case of their letters stand as their lower-case forms do.  Members
with distinct names of ASCII are sorted into one list whatever order they come in. -/
theorem order_of_names :
    (∀ a b : Text, '\u0130' ∉ a → '\u0130' ∉ b →
      ∃ k l, key? a = some k ∧ key? b = some l ∧ (k = l ↔ List.Forall₂ Tied a b)) ∧
    (∀ a b : Text, a.all isAscii = true → b.all isAscii = true →
      ∃ k l, key? a = some k ∧ key? b = some l ∧ (k = l ↔ a = b) ∧
        (a.map toLower ≠ b.map toLower →
          ∃ k' l', key? (a.map toLower) = some k' ∧ key? (b.map toLower) = some l' ∧ compare k l = compare k' l')) ∧
    ∀ (α : Type) (name : α → Text) (xs ys : List α), xs.Perm ys → (∀ x ∈ xs, (name x).all isAscii = true) →
      (xs.map name).Nodup → ∃ zs, sortOn? name xs = .ok zs ∧ sortOn? name ys = .ok zs := by
  refine ⟨?tied, ?ascii, ?sorted⟩
  case tied =>
    intro a b ha hb
    have hka : key? a = some (key a) := key?_of_collatable (collatable_iff_notMem.2 ha)
    have hkb : key? b = some (key b) := key?_of_collatable (collatable_iff_notMem.2 hb)
    exact ⟨key a, key b, hka, hkb, key_eq_iff_forall₂⟩
  case ascii =>
    intro a b ha hb
    have hkey {c : Text} (hc : c.all isAscii = true) : key? c = some (key c) :=
      key?_of_collatable (collatable_of_isAscii hc)
    have hiff : key a = key b ↔ a = b := ⟨eq_of_key_eq ha hb, congrArg key⟩
    refine ⟨key a, key b, hkey ha, hkey hb, hiff, fun hlower => ?_⟩
    exact ⟨key (a.map toLower), key (b.map toLower), hkey (all_isAscii_map_toLower ha),
      hkey (all_isAscii_map_toLower hb), (compare_key_map_toLower ha hb hlower).symm⟩
  case sorted =>
    intro α name xs ys hperm hascii hnodup
    have hxs : ∀ x ∈ xs, collatable (name x) = true := fun x hx => collatable_of_isAscii (hascii x hx)
    have hys : ∀ y ∈ ys, collatable (name y) = true := fun y hy => hxs y (hperm.mem_iff.2 hy)
    have hinj : ∀ x ∈ xs, ∀ y ∈ xs, key (name x) = key (name y) → x = y := fun x hx y hy hkey =>
      List.inj_on_of_nodup_map hnodup hx hy (eq_of_key_eq (hascii x hx) (hascii y hy) hkey)
    exact ⟨sortOn name xs, (sortOn?_eq_ok_iff name).2 ⟨hxs, rfl⟩,
      (sortOn?_eq_ok_iff name).2 ⟨hys, sortOn_eq_of_perm name hperm hinj⟩⟩

/-- The sign of the kelvin ties with the capital letter; names of ASCII that differ only in case do not tie; the
lower-case forms say that `--Beta` stands after `--alpha`; and with `--beta` they are sorted alike from two orders. -/
theorem order_of_names_of_kelvin :
    key? "--\u212a".toList = key? "--K".toList ∧
      key? "--beta".toList ≠ key? "--Beta".toList ∧
      (∃ k l, key? "--Beta".toList = some k ∧ key? "--alpha".toList = some l ∧ compare k l = .gt) ∧
      ∃ zs, sortOn? id (["--Beta", "--alpha", "--beta"].map String.toList) = .ok zs ∧
        sortOn? id (["--alpha", "--beta", "--Beta"].map String.toList) = .ok zs := by
  obtain ⟨htied, hascii, hsorted⟩ := order_of_names
  refine ⟨?_, ?_, ?_, ?_⟩
  · obtain ⟨k, l, hk, hl, hiff⟩ := htied "--\u212a".toList "--K".toList (by decide) (by decide)
    have hK : Tied '\u212a' 'K' := .inr (by decide +kernel)
    have hpair : List.Forall₂ Tied "--\u212a".toList "--K".toList := .cons (.inl rfl) (.cons (.inl rfl) (.cons hK .nil))
    rw [hk, hl, hiff.2 hpair]
  · obtain ⟨k, l, hk, hl, hiff, -⟩ := hascii "--beta".toList "--Beta".toList (by decide) (by decide)
    rw [hk, hl, ne_eq, Option.some.injEq, hiff]
    decide
  · obtain ⟨k, l, hk, hl, -, hlower⟩ := hascii "--Beta".toList "--alpha".toList (by decide) (by decide)
    obtain ⟨k', l', hk', hl', hcompare⟩ := hlower (by decide)
    have hgt : compare (key "--beta".toList) (key "--alpha".toList) = .gt := by decide +kernel
    have hbeta : key? "--beta".toList = some k' := hk'
    have halpha : key? "--alpha".toList = some l' := hl'
    rw [key?_of_collatable (by decide)] at hbeta halpha
    cases hbeta
    cases halpha
    exact ⟨k, l, hk, hl, hcompare.trans hgt⟩
  · exact hsorted Text id _ _ (by decide) (by decide) (by decide)

end Manpage.Collation
