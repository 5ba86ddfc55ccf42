import Manpage.Files.Tree
import Manpage.Proofs.Text.Utf8

/-!
# Names that grow

A path is followed through the directories and links of a tree to one location.  A run makes directories and at most one
file, and takes nothing away; so a path that leads somewhere leads there still.

* `NameTree.Grows` — one tree has all the names of another; `Grows.locate`: a path leads to the same location in it;
* `followWith_cons_eq_ok_iff` — the ways in which one name of a path can lead on;
* `LeadsTo` — a path leads to a file, in growing trees always to the same one; `openToRead_eq_ok_iff`: what opening it
  takes;
* `at?_parent` — where a path leads to its end, its directory is there; `exists_resolve_false`: something is found there
  also without following a link at the end;
* `AddsDirectories` — one tree is another with some directories more, as after `makeDirectory`;
* `Opens` — one tree is another with a file opened at a location, as after `openToWrite`; where nothing stood, the file
  is one that no name led to (`lt_freshId`).
-/

namespace Manpage

/-! ### Tables -/

theorem lookup_filter_ne {α β : Type} [DecidableEq α] {k l : α} (h : k ≠ l) (entries : List (α × β)) :
    (entries.filter (·.1 ≠ l)).lookup k = entries.lookup k := by
  induction entries with
  | nil => rfl
  | cons entry entries ih =>
    obtain ⟨m, value⟩ := entry
    by_cases hm : m = l
    · have hk : (k == m) = false := beq_false_of_ne (hm ▸ h)
      rw [List.filter_cons_of_neg (by simpa using hm), ih, List.lookup_cons, hk]
    · rw [List.filter_cons_of_pos (by simpa using hm), List.lookup_cons, List.lookup_cons, ih]

/-- What is looked up in a table is entered there. -/
theorem mem_of_lookup {α β : Type} [DecidableEq α] {k : α} {value : β} {entries : List (α × β)}
    (h : entries.lookup k = some value) : (k, value) ∈ entries := by
  induction entries with
  | nil => cases h
  | cons entry entries ih =>
    obtain ⟨m, found⟩ := entry
    rw [List.lookup_cons] at h
    split at h
    · next hk =>
      obtain rfl := eq_of_beq hk
      cases h
      exact List.mem_cons_self
    · exact List.mem_cons_of_mem _ (ih h)

namespace NameTree

variable {t u v : NameTree} {k l m : Location} {id : FileId} {p : Path}

/-! ### One location -/

theorem node?_put_of_ne (h : k ≠ l) (n : Node) : (t.put l n).node? k = t.node? k := by
  rw [node?, node?, put, List.lookup_cons, beq_false_of_ne h]
  simp only [lookup_filter_ne h]

/-- Where no directory stands, a node that is put is what stands there, and all else stays. -/
theorem node?_put (hl : t.node? l ≠ some .directory) (n : Node) (k : Location) :
    (t.put l n).node? k = if k = l then some n else t.node? k := by
  split
  · next h =>
    have hway : ¬ l.isOnWayTo t.here = true := by
      intro hway
      rw [node?, if_pos hway] at hl
      exact hl rfl
    show (if k.isOnWayTo t.here then some Node.directory else ((l, n) :: _).lookup k) = some n
    rw [h, if_neg hway, List.lookup_cons_self]
  · next h => exact node?_put_of_ne h n

/-- A new file has a number above those of all others. -/
theorem lt_freshId (h : t.node? l = some (.file id)) : id < t.freshId := by
  have hmem : (l, Node.file id) ∈ t.nodes := by
    unfold node? at h
    split at h
    · cases h
    · exact mem_of_lookup h
  unfold freshId
  generalize t.nodes = nodes at hmem
  induction nodes with
  | nil => exact absurd hmem List.not_mem_nil
  | cons entry nodes ih =>
    rw [List.foldr_cons]
    rcases List.mem_cons.1 hmem with rfl | hrest
    · exact Nat.lt_of_lt_of_le (Nat.lt_succ_self id) (Nat.le_max_left _ _)
    · obtain ⟨k, _ | _⟩ := entry
      · exact Nat.lt_of_lt_of_le (ih hrest) (Nat.le_max_right _ _)
      · exact ih hrest

/-! ### Growing trees -/

/-- One tree has all that another has, and perhaps more. -/
structure Grows (t u : NameTree) : Prop where
  setting : u.toSetting = t.toSetting
  node?_eq : ∀ l n, t.node? l = some n → u.node? l = some n

theorem Grows.refl (t : NameTree) : t.Grows t := ⟨rfl, fun _ _ h => h⟩

theorem Grows.trans (h : t.Grows u) (h' : u.Grows v) : t.Grows v where
  setting := h'.setting.trans h.setting
  node?_eq l n hl := h'.node?_eq l n (h.node?_eq l n hl)

theorem Grows.rules_eq (h : t.Grows u) : u.rules = t.rules := congrArg Setting.rules h.setting

theorem Grows.links_eq (h : t.Grows u) : u.links = t.links := congrArg Setting.links h.setting

theorem Grows.here_eq (h : t.Grows u) : u.here = t.here := congrArg Setting.here h.setting

/-- A name is found in a directory that may be searched. -/
theorem enter_eq_ok_iff {name : Text} :
    t.enter l name = .ok m ↔
      t.node? l = some .directory ∧ t.rules.refusal? .search l = none ∧ (Utf8.encode name).length ≤ maxNameSize ∧
        m = l.child name := by
  unfold enter
  cases t.node? l with
  | none => simp
  | some n =>
    cases n with
    | file id => simp
    | directory =>
      cases t.rules.refusal? .search l with
      | some refusal => simp
      | none =>
        by_cases hsize : maxNameSize < (Utf8.encode name).length
        · simp [hsize, Nat.not_le.2 hsize]
        · simp [hsize, Nat.le_of_not_lt hsize, eq_comm]

theorem Grows.enter (h : t.Grows u) {name : Text} (hl : t.enter l name = .ok m) : u.enter l name = .ok m := by
  obtain ⟨hnode, hrefusal, hsize, hm⟩ := enter_eq_ok_iff.1 hl
  rw [← h.rules_eq] at hrefusal
  exact enter_eq_ok_iff.2 ⟨h.node?_eq l _ hnode, hrefusal, hsize, hm⟩

/-- A name that leads on is entered; behind it there is no link, or a link at the end that is all that was looked for, or
one that is followed. -/
theorem followWith_cons_eq_ok_iff {throughLast : Bool} {jump : Location → List Text → Except Cause Location}
    {name : Text} {names : List Text} :
    t.followWith throughLast jump l (name :: names) = .ok k ↔
      ∃ m, t.enter l name = .ok m ∧
        (t.links.lookup m = none ∧ t.followWith throughLast jump m names = .ok k ∨
          (names = [] ∧ throughLast = false) ∧ t.links.lookup m ≠ none ∧ m = k ∨
          ¬ (names = [] ∧ throughLast = false) ∧ ∃ target, t.links.lookup m = some target ∧
            jump (start l target.anchor) (target.names ++ names) = .ok k) := by
  rw [followWith]
  cases t.enter l name with
  | error cause => simp
  | ok m =>
    simp only [Except.ok.injEq, exists_eq_left']
    cases t.links.lookup m with
    | none => simp
    | some target => by_cases hlast : names = [] ∧ throughLast = false <;> simp [hlast]

theorem Grows.followWith (h : t.Grows u) {throughLast : Bool} {names : List Text}
    {jump jump' : Location → List Text → Except Cause Location}
    (hjump : ∀ l names k, jump l names = .ok k → jump' l names = .ok k)
    (hk : t.followWith throughLast jump l names = .ok k) : u.followWith throughLast jump' l names = .ok k := by
  induction names generalizing l with
  | nil => exact hk
  | cons name names ih =>
    obtain ⟨m, henter, hrest⟩ := followWith_cons_eq_ok_iff.1 hk
    refine followWith_cons_eq_ok_iff.2 ⟨m, h.enter henter, ?_⟩
    rw [h.links_eq]
    rcases hrest with ⟨hlink, hrest⟩ | hlast | ⟨hlast, target, hlink, hrest⟩
    · exact Or.inl ⟨hlink, ih hrest⟩
    · exact Or.inr (Or.inl hlast)
    · exact Or.inr (Or.inr ⟨hlast, target, hlink, hjump _ _ _ hrest⟩)

theorem Grows.follow (h : t.Grows u) {throughLast : Bool} {links : Nat} {names : List Text}
    (hk : t.follow throughLast links l names = .ok k) : u.follow throughLast links l names = .ok k := by
  induction links generalizing l names k with
  | zero =>
    refine h.followWith ?_ hk
    intro l names k hjump
    cases hjump
  | succ links ih => exact h.followWith (fun _ _ _ hjump => ih hjump) hk

/-- A path that leads to a location leads there still. -/
theorem Grows.locate (h : t.Grows u) (hp : t.locate p = .ok l) : u.locate p = .ok l := by
  unfold NameTree.locate resolve at hp ⊢
  split
  · next hsize =>
    rw [if_pos hsize] at hp
    cases hp
  · next hsize =>
    rw [if_neg hsize] at hp
    rw [h.here_eq]
    exact h.follow hp

/-! ### Files that paths lead to -/

/-- A path leads to a file. -/
def LeadsTo (t : NameTree) (p : Path) (id : FileId) : Prop := ∃ l, t.locate p = .ok l ∧ t.node? l = some (.file id)

theorem LeadsTo.unique {id' : FileId} (h : t.LeadsTo p id) (h' : t.LeadsTo p id') : id = id' := by
  obtain ⟨l, hl, hid⟩ := h
  obtain ⟨l', hl', hid'⟩ := h'
  obtain rfl := Except.ok.inj (hl.symm.trans hl')
  exact Node.file.inj (Option.some.inj (hid.symm.trans hid'))

theorem Grows.leadsTo (h : t.Grows u) (hp : t.LeadsTo p id) : u.LeadsTo p id := by
  obtain ⟨l, hl, hid⟩ := hp
  exact ⟨l, h.locate hl, h.node?_eq l _ hid⟩

theorem at?_eq_ok_iff {n : Node} : t.at? p = .ok n ↔ ∃ l, t.locate p = .ok l ∧ t.node? l = some n := by
  unfold at?
  cases t.locate p with
  | error cause => simp [bind, Except.bind]
  | ok l =>
    simp only [bind, Except.bind, Except.ok.injEq, exists_eq_left']
    cases t.node? l with
    | none => simp
    | some found => simp

theorem leadsTo_iff : t.LeadsTo p id ↔ t.at? p = .ok (.file id) := at?_eq_ok_iff.symm

/-- Where one path leads to a file and another does not, they lead to no file together. -/
theorem LeadsTo.not_leadsTo_of_at? {q : Path} {i : FileId} (h : t.LeadsTo p i) (hp : t.at? p = .ok (.file id))
    (hq : t.at? q ≠ .ok (.file id)) : ¬ t.LeadsTo q i := by
  obtain rfl := (leadsTo_iff.2 hp).unique h
  exact fun hi => hq (leadsTo_iff.1 hi)

theorem openToRead_eq_ok_iff :
    t.openToRead p = .ok (l, id) ↔
      t.locate p = .ok l ∧ t.node? l = some (.file id) ∧ t.rules.refusal? .read l = none := by
  unfold openToRead
  cases t.locate p with
  | error cause => simp [bind, Except.bind]
  | ok found =>
    simp only [bind, Except.bind, Except.ok.injEq]
    cases hnode : t.node? found with
    | none =>
      simp only [reduceCtorEq, false_iff]
      rintro ⟨rfl, hfile, -⟩
      rw [hnode] at hfile
      cases hfile
    | some n =>
      cases hrefusal : t.rules.refusal? .read found with
      | some refusal =>
        simp only [reduceCtorEq, false_iff]
        rintro ⟨rfl, -, hnone⟩
        rw [hrefusal] at hnone
        cases hnone
      | none =>
        cases n with
        | directory =>
          simp only [reduceCtorEq, false_iff]
          rintro ⟨rfl, hfile, -⟩
          rw [hnode] at hfile
          cases hfile
        | file id' =>
          simp only [Except.ok.injEq, Prod.mk.injEq]
          constructor
          · rintro ⟨rfl, rfl⟩
            exact ⟨rfl, hnode, hrefusal⟩
          · rintro ⟨rfl, hfile, -⟩
            rw [hnode] at hfile
            cases hfile
            exact ⟨rfl, rfl⟩

/-! ### The directory of a path -/

/-- Where names lead on from one location to another, all but the last lead to a directory. -/
theorem exists_directory_of_followWith {jump : Location → List Text → Except Cause Location} {names : List Text}
    {name : Text}
    (hjump : ∀ l names k, jump l (names ++ [name]) = .ok k → ∃ m, jump l names = .ok m ∧ t.node? m = some .directory)
    (h : t.followWith true jump l (names ++ [name]) = .ok k) :
    ∃ m, t.followWith true jump l names = .ok m ∧ t.node? m = some .directory := by
  induction names generalizing l with
  | nil =>
    obtain ⟨m, henter, -⟩ := followWith_cons_eq_ok_iff.1 h
    exact ⟨l, rfl, (enter_eq_ok_iff.1 henter).1⟩
  | cons first names ih =>
    rw [List.cons_append] at h
    obtain ⟨m, henter, ⟨hlink, hrest⟩ | ⟨⟨-, hlast⟩, -⟩ | ⟨-, target, hlink, hrest⟩⟩ := followWith_cons_eq_ok_iff.1 h
    · obtain ⟨d, hd, hdirectory⟩ := ih hrest
      exact ⟨d, followWith_cons_eq_ok_iff.2 ⟨m, henter, Or.inl ⟨hlink, hd⟩⟩, hdirectory⟩
    · cases hlast
    · rw [← List.append_assoc] at hrest
      obtain ⟨d, hd, hdirectory⟩ := hjump _ _ _ hrest
      refine ⟨d, followWith_cons_eq_ok_iff.2 ⟨m, henter, Or.inr (Or.inr ⟨?_, target, hlink, hd⟩)⟩, hdirectory⟩
      simp

theorem exists_directory_of_follow {links : Nat} {names : List Text} {name : Text}
    (h : t.follow true links l (names ++ [name]) = .ok k) :
    ∃ m, t.follow true links l names = .ok m ∧ t.node? m = some .directory := by
  induction links generalizing l names k with
  | zero =>
    refine exists_directory_of_followWith ?_ h
    intro l names k hjump
    cases hjump
  | succ links ih => exact exists_directory_of_followWith (fun _ _ _ hjump => ih hjump) h

/-- The text of the directory of a path is no longer than the text of the path, or a single period. -/
theorem length_encode_parent_le (hsize : (Utf8.encode p.text).length ≤ maxPathSize) :
    (Utf8.encode p.parent.text).length ≤ maxPathSize := by
  obtain ⟨anchor, names⟩ := p
  rcases List.eq_nil_or_concat names with rfl | ⟨before, name, rfl⟩
  · exact hsize
  · rw [List.concat_eq_append] at hsize ⊢
    show (Utf8.encode (Path.text ⟨anchor, (before ++ [name]).dropLast⟩)).length ≤ maxPathSize
    rw [List.dropLast_concat]
    have htext : Path.text ⟨anchor, before ++ [name]⟩ = anchor.text ++ Text.joined ['/'] (before ++ [name]) := by
      simp [Path.text]
    rw [htext, Utf8.length_encode_append] at hsize
    by_cases hbefore : before = []
    · subst hbefore
      cases anchor <;> decide
    · have hparent : Path.text ⟨anchor, before⟩ = anchor.text ++ Text.joined ['/'] before := by
        simp [Path.text, hbefore]
      rw [Text.joined_append hbefore (List.cons_ne_nil name []), Utf8.length_encode_append,
        Utf8.length_encode_append] at hsize
      rw [hparent, Utf8.length_encode_append]
      omega

/-- A path starts at a directory that is always there. -/
theorem node?_start (t : NameTree) (anchor : Anchor) : t.node? (start t.here anchor) = some .directory := by
  have hroot : Location.root.isOnWayTo t.here = true := rfl
  have hhere : t.here.isOnWayTo t.here = true := List.isPrefixOf_iff_prefix.2 (List.prefix_refl _)
  cases anchor with
  | here => exact if_pos hhere
  | root => exact if_pos hroot
  | twoSlashes => exact if_pos hroot

/-- Where a path can be followed to its end, its directory is there. -/
theorem at?_parent (h : t.locate p = .ok l) : t.at? p.parent = .ok .directory := by
  unfold locate resolve at h
  split at h
  · cases h
  · next hsize =>
    have hparent : ¬ maxPathSize < (Utf8.encode p.parent.text).length := by
      have := length_encode_parent_le (Nat.le_of_not_lt hsize)
      omega
    have hlocate : t.locate p.parent = t.follow true maxLinks (start t.here p.anchor) p.names.dropLast := by
      rw [locate, resolve, if_neg hparent]
      rfl
    rw [at?_eq_ok_iff, hlocate]
    rcases List.eq_nil_or_concat p.names with hnil | ⟨before, name, hnames⟩
    · rw [hnil]
      exact ⟨_, rfl, node?_start t p.anchor⟩
    · rw [hnames, List.concat_eq_append] at h ⊢
      rw [List.dropLast_concat]
      exact exists_directory_of_follow h

/-! ### Links at the end of a path -/

/-- Something stands at a location, or a link does. -/
def IsTaken (t : NameTree) (l : Location) : Prop := t.links.lookup l ≠ none ∨ t.node? l ≠ none

theorem exists_followWith_false {jump jump' : Location → List Text → Except Cause Location} {names : List Text}
    (hjump : ∀ l names k, jump l names = .ok k → t.node? k ≠ none → ∃ m, jump' l names = .ok m ∧ t.IsTaken m)
    (h : t.followWith true jump l names = .ok k) (hk : t.node? k ≠ none) :
    ∃ m, t.followWith false jump' l names = .ok m ∧ t.IsTaken m := by
  induction names generalizing l with
  | nil =>
    obtain rfl := Except.ok.inj h
    exact ⟨l, rfl, Or.inr hk⟩
  | cons name names ih =>
    obtain ⟨m, henter, ⟨hlink, hrest⟩ | ⟨⟨-, hlast⟩, -⟩ | ⟨-, target, hlink, hrest⟩⟩ := followWith_cons_eq_ok_iff.1 h
    · obtain ⟨j, hj, htaken⟩ := ih hrest
      exact ⟨j, followWith_cons_eq_ok_iff.2 ⟨m, henter, Or.inl ⟨hlink, hj⟩⟩, htaken⟩
    · cases hlast
    · have hthere : t.links.lookup m ≠ none := by simp [hlink]
      by_cases hnames : names = []
      · exact ⟨m, followWith_cons_eq_ok_iff.2 ⟨m, henter, Or.inr (Or.inl ⟨⟨hnames, rfl⟩, hthere, rfl⟩)⟩, Or.inl hthere⟩
      · obtain ⟨j, hj, htaken⟩ := hjump _ _ _ hrest hk
        refine ⟨j, followWith_cons_eq_ok_iff.2 ⟨m, henter, Or.inr (Or.inr ⟨?_, target, hlink, hj⟩)⟩, htaken⟩
        exact fun hlast => hnames hlast.1

theorem exists_follow_false {links : Nat} {names : List Text} (h : t.follow true links l names = .ok k)
    (hk : t.node? k ≠ none) : ∃ m, t.follow false links l names = .ok m ∧ t.IsTaken m := by
  induction links generalizing l names k with
  | zero =>
    refine exists_followWith_false ?_ h hk
    intro l names k hjump
    cases hjump
  | succ links ih => exact exists_followWith_false (fun _ _ _ hjump => ih hjump) h hk

/-- Where something is found at a path, something is found without following a link at its end. -/
theorem exists_resolve_false (h : t.locate p = .ok l) (hl : t.node? l ≠ none) :
    ∃ m, t.resolve false p = .ok m ∧ t.IsTaken m := by
  unfold locate resolve at h
  unfold resolve
  split at h
  · cases h
  · next hsize =>
    rw [if_neg hsize]
    exact exists_follow_false h hl

/-! ### Making directories -/

/-- One tree is another with some directories more. -/
structure AddsDirectories (t u : NameTree) : Prop where
  setting : u.toSetting = t.toSetting
  node?_cases : ∀ l, u.node? l = t.node? l ∨ t.node? l = none ∧ u.node? l = some .directory

theorem AddsDirectories.refl (t : NameTree) : t.AddsDirectories t := ⟨rfl, fun _ => Or.inl rfl⟩

theorem AddsDirectories.trans (h : t.AddsDirectories u) (h' : u.AddsDirectories v) : t.AddsDirectories v where
  setting := h'.setting.trans h.setting
  node?_cases l := by
    rcases h'.node?_cases l with hv | ⟨hnone, hv⟩
    · rw [hv]
      exact h.node?_cases l
    · rcases h.node?_cases l with hu | ⟨-, hu⟩
      · exact Or.inr ⟨hu ▸ hnone, hv⟩
      · rw [hu] at hnone
        cases hnone

theorem AddsDirectories.grows (h : t.AddsDirectories u) : t.Grows u where
  setting := h.setting
  node?_eq l n hl := by
    rcases h.node?_cases l with hu | ⟨hnone, -⟩
    · exact hu.trans hl
    · rw [hl] at hnone
      cases hnone

/-- The files are the same. -/
theorem AddsDirectories.file_iff (h : t.AddsDirectories u) :
    u.node? l = some (.file id) ↔ t.node? l = some (.file id) := by
  rcases h.node?_cases l with hu | ⟨hnone, hu⟩
  · rw [hu]
  · simp [hnone, hu]

theorem makeDirectory_eq_ok_iff :
    t.makeDirectory p = .ok u ↔
      ∃ l, t.resolve false p = .ok l ∧ t.links.lookup l = none ∧ t.node? l = none ∧ t.rules.refusal? .make l = none ∧
        u = t.put l .directory := by
  unfold makeDirectory
  cases t.resolve false p with
  | error cause => simp [bind, Except.bind]
  | ok l =>
    simp only [bind, Except.bind, Except.ok.injEq, exists_eq_left']
    cases t.links.lookup l with
    | some target => simp
    | none =>
      cases t.node? l with
      | some n => simp
      | none =>
        cases t.rules.refusal? .make l with
        | some refusal => simp
        | none => simp [eq_comm]

theorem addsDirectories_of_makeDirectory (h : t.makeDirectory p = .ok u) : t.AddsDirectories u := by
  obtain ⟨l, -, -, hnone, -, rfl⟩ := makeDirectory_eq_ok_iff.1 h
  refine ⟨rfl, ?_⟩
  intro k
  rw [node?_put (by simp [hnone])]
  split
  · next hk => exact Or.inr ⟨hk ▸ hnone, rfl⟩
  · exact Or.inl rfl

/-- No directory is made where something is found. -/
theorem makeDirectory_of_at? {n : Node} (h : t.at? p = .ok n) : t.makeDirectory p = .error .exists := by
  obtain ⟨l, hl, hnode⟩ := at?_eq_ok_iff.1 h
  obtain ⟨m, hm, htaken⟩ := exists_resolve_false hl (by simp [hnode])
  unfold makeDirectory
  rw [hm]
  simp only [bind, Except.bind]
  cases hlink : t.links.lookup m with
  | some target => rfl
  | none =>
    cases hfound : t.node? m with
    | some found => rfl
    | none => exact absurd htaken (by simp [IsTaken, hlink, hfound])

/-! ### Opening files to write them -/

/-- One tree is another with a file opened at a location: the one that stands there, or a new one where nothing does. -/
structure Opens (t u : NameTree) (p : Path) (l : Location) (id : FileId) : Prop where
  locate : t.locate p = .ok l
  setting : u.toSetting = t.toSetting
  file : u.node? l = some (.file id)
  others : ∀ k, k ≠ l → u.node? k = t.node? k
  before : t.node? l = some (.file id) ∨ t.node? l = none ∧ ∀ k, t.node? k ≠ some (.file id)

theorem Opens.grows (h : t.Opens u p l id) : t.Grows u where
  setting := h.setting
  node?_eq k n hk := by
    by_cases hkl : k = l
    · subst hkl
      rcases h.before with hfile | ⟨hnone, -⟩
      · rw [h.file, ← hk, hfile]
      · rw [hk] at hnone
        cases hnone
    · rw [h.others k hkl, hk]

theorem opens_of_openToWrite (h : t.openToWrite p = .ok (l, id, u)) : t.Opens u p l id := by
  unfold openToWrite at h
  cases hlocate : t.locate p with
  | error cause =>
    rw [hlocate] at h
    cases h
  | ok found =>
    rw [hlocate] at h
    simp only [bind, Except.bind] at h
    split at h
    · cases h
    · cases h
    · next hnode _ =>
      cases h
      exact ⟨hlocate, rfl, hnode, fun _ _ => rfl, Or.inl hnode⟩
    · next hnone _ =>
      cases h
      have hput : ∀ k, (t.put l (.file t.freshId)).node? k = if k = l then some (.file t.freshId) else t.node? k :=
        node?_put (by simp [hnone]) _
      refine ⟨hlocate, rfl, (hput l).trans (if_pos rfl), fun k hk => (hput k).trans (if_neg hk), Or.inr ⟨hnone, ?_⟩⟩
      intro k hk
      exact Nat.lt_irrefl _ (lt_freshId hk)

/-- A file that stands there and may be written is opened as it is. -/
theorem openToWrite_of_file (hl : t.locate p = .ok l) (hnode : t.node? l = some (.file id))
    (hrefusal : t.rules.refusal? .write l = none) : t.openToWrite p = .ok (l, id, t) := by
  unfold openToWrite
  rw [hl]
  simp only [bind, Except.bind, hnode, hrefusal]

end NameTree

end Manpage
