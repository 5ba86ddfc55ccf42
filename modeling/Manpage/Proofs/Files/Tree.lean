import Manpage.Proofs.Files.Names

/-!
# Trees that grow

What a run leaves of the files of a tree, and what can be read there.

* `FileTree.read_eq_ok_iff` — what reading takes; `read_of_grows`: a file is read again where it has the same bytes;
* `FileTree.KeepsFiles` — every file stays where it is and keeps its bytes;
* `FileTree.AddsDirectories` — one tree is another with some directories more;
* `FileTree.HasPage` — what is left by writing at a path; `HasPage.read`: it is read back where `Rules.IsPlain`.
-/

namespace Manpage

/-- At a location a file may be read and written, and keeps what is written to it. -/
structure Rules.IsPlain (rules : Rules) (l : Location) : Prop where
  read : rules.refusal? .read l = none
  whole : rules.unread? l = none
  write : rules.refusal? .write l = none
  kept : ∀ bytes, rules.kept l bytes = ⟨bytes, none⟩

namespace FileTree

variable {t u v : FileTree} {k l : Location} {id : FileId} {p output : Path} {bytes : Bytes}

/-! ### Bytes -/

theorem bytes_setBytes (t : FileTree) (id : FileId) (bytes : Bytes) (i : FileId) :
    (t.setBytes id bytes).bytes i = if i = id then bytes else t.bytes i := by
  unfold FileTree.bytes setBytes
  split
  · next h => rw [h, List.lookup_cons_self, Option.getD_some]
  · next h => rw [List.lookup_cons, beq_false_of_ne h, lookup_filter_ne h]

theorem bytes?_of_file (h : t.node? l = some (.file id)) : t.bytes? l = some (t.bytes id) := by
  rw [bytes?, h]

/-- Where a file stands in two trees, it has the same bytes if the same bytes stand there. -/
theorem bytes_eq_of_bytes?_eq (ht : t.node? l = some (.file id)) (hu : u.node? l = some (.file id))
    (h : u.bytes? l = t.bytes? l) : u.bytes id = t.bytes id := by
  rw [bytes?_of_file ht, bytes?_of_file hu] at h
  exact Option.some.inj h

/-- What is read is the file that a path leads to, if it may be read and reading does not break off. -/
theorem read_eq_ok_iff :
    t.read p = .ok bytes ↔
      ∃ l id, t.openToRead p = .ok (l, id) ∧ t.rules.unread? l = none ∧ t.bytes id = bytes := by
  unfold read
  cases t.openToRead p with
  | error cause => simp
  | ok opened =>
    obtain ⟨l, id⟩ := opened
    simp only [Except.ok.injEq, Prod.mk.injEq]
    constructor
    · intro h
      split at h
      · cases h
      · next hunread => exact ⟨l, id, ⟨rfl, rfl⟩, hunread, Except.ok.inj h⟩
    · rintro ⟨l', id', ⟨rfl, rfl⟩, hunread, rfl⟩
      rw [hunread]

/-- A file is read again where it has the same bytes. -/
theorem read_of_grows (hgrow : t.Grows u.toNameTree) (hbytes : ∀ id, t.LeadsTo p id → u.bytes id = t.bytes id)
    (h : t.read p = .ok bytes) : u.read p = .ok bytes := by
  obtain ⟨l, id, hopen, hunread, hid⟩ := read_eq_ok_iff.1 h
  obtain ⟨hl, hnode, hrefusal⟩ := NameTree.openToRead_eq_ok_iff.1 hopen
  have hopened : u.openToRead p = .ok (l, id) := by
    rw [← hgrow.rules_eq] at hrefusal
    exact NameTree.openToRead_eq_ok_iff.2 ⟨hgrow.locate hl, hgrow.node?_eq l _ hnode, hrefusal⟩
  refine read_eq_ok_iff.2 ⟨l, id, hopened, ?_, ?_⟩
  · rw [hgrow.rules_eq, hunread]
  · rw [hbytes id ⟨l, hl, hnode⟩, hid]

/-! ### Files that stay -/

/-- Every file stays where it is and keeps its bytes, and none is new. -/
structure KeepsFiles (t u : FileTree) : Prop where
  file_iff : ∀ l id, u.node? l = some (.file id) ↔ t.node? l = some (.file id)
  bytes_eq : ∀ id, u.bytes id = t.bytes id

theorem KeepsFiles.refl (t : FileTree) : t.KeepsFiles t := ⟨fun _ _ => Iff.rfl, fun _ => rfl⟩

/-- So the same bytes stand everywhere. -/
theorem KeepsFiles.bytes?_eq (h : t.KeepsFiles u) (l : Location) : u.bytes? l = t.bytes? l := by
  unfold bytes?
  split
  · next id hid => rw [(h.file_iff l id).1 hid, h.bytes_eq id]
  · next hnot =>
    split
    · next id hid => exact absurd ((h.file_iff l id).2 hid) (hnot id)
    · rfl

/-- One tree is another with some directories more, and the same files. -/
structure AddsDirectories (t u : FileTree) : Prop where
  names : t.toNameTree.AddsDirectories u.toNameTree
  files : u.files = t.files

theorem AddsDirectories.refl (t : FileTree) : t.AddsDirectories t := ⟨NameTree.AddsDirectories.refl _, rfl⟩

theorem AddsDirectories.trans (h : t.AddsDirectories u) (h' : u.AddsDirectories v) : t.AddsDirectories v :=
  ⟨h.names.trans h'.names, h'.files.trans h.files⟩

theorem AddsDirectories.bytes_eq (h : t.AddsDirectories u) (id : FileId) : u.bytes id = t.bytes id := by
  rw [FileTree.bytes, FileTree.bytes, h.files]

theorem AddsDirectories.keepsFiles (h : t.AddsDirectories u) : t.KeepsFiles u :=
  ⟨fun _ _ => h.names.file_iff, h.bytes_eq⟩

/-! ### Written files -/

/-- What is left by writing bytes at a path, perhaps behind directories that were made for it: the path leads to a file
that holds what is kept of the bytes; no other file is new, and all others have their bytes. -/
structure HasPage (t u : FileTree) (output : Path) (bytes : Bytes) (l : Location) (id : FileId) : Prop where
  nul : output.holdsNul = false
  grows : t.Grows u.toNameTree
  locate : u.locate output = .ok l
  file : u.node? l = some (.file id)
  before : t.node? l = some (.file id) ∨ t.node? l = none ∧ ∀ k, t.node? k ≠ some (.file id)
  kept : u.bytes id = (t.rules.kept l bytes).bytes
  files : ∀ k i, u.node? k = some (.file i) → t.node? k = some (.file i) ∨ k = l
  others : ∀ i, i ≠ id → u.bytes i = t.bytes i

theorem HasPage.bytes?_self (h : t.HasPage u output bytes l id) : u.bytes? l = some (t.rules.kept l bytes).bytes := by
  rw [bytes?_of_file h.file, h.kept]

theorem HasPage.leadsTo (h : t.HasPage u output bytes l id) : u.LeadsTo output id := ⟨l, h.locate, h.file⟩

/-- A file that keeps what is written to it can be read back. -/
theorem HasPage.read (h : t.HasPage u output bytes l id) (hplain : u.rules.IsPlain l) : u.read output = .ok bytes := by
  have hkept := h.kept
  rw [← h.grows.rules_eq, hplain.kept] at hkept
  exact read_eq_ok_iff.2
    ⟨l, id, NameTree.openToRead_eq_ok_iff.2 ⟨h.locate, h.file, hplain.read⟩, hplain.whole, hkept⟩

/-- Where the file kept the bytes, and had them before, every file is as it was. -/
theorem HasPage.keepsFiles (h : t.HasPage u output bytes l id) (hkept : t.rules.kept l bytes = ⟨bytes, none⟩)
    (hbytes : t.bytes? l = some bytes) : t.KeepsFiles u := by
  have hfile : t.node? l = some (.file id) := by
    refine h.before.resolve_right ?_
    rintro ⟨hnone, -⟩
    rw [bytes?, hnone] at hbytes
    cases hbytes
  have hid : t.bytes id = bytes := by
    rw [bytes?_of_file hfile] at hbytes
    exact Option.some.inj hbytes
  refine ⟨fun k i => ⟨?_, h.grows.node?_eq k _⟩, ?_⟩
  · intro hk
    rcases h.files k i hk with hki | rfl
    · exact hki
    · rwa [← h.file.symm.trans hk]
  · intro i
    by_cases hi : i = id
    · rw [hi, h.kept, hkept, hid]
    · exact h.others i hi

/-- Writing to an open file, behind directories that were made. -/
theorem hasPage_of_opens (hadd : t.AddsDirectories v) (hnul : output.holdsNul = false) {names : NameTree}
    (h : v.Opens names output l id) :
    t.HasPage ((v.renamed names).setBytes id (v.rules.kept l bytes).bytes) output bytes l id where
  nul := hnul
  grows := hadd.names.grows.trans h.grows
  locate := h.grows.locate h.locate
  file := h.file
  before := by
    refine h.before.imp hadd.names.file_iff.1 ?_
    rintro ⟨hnone, hfresh⟩
    refine ⟨?_, fun k hk => hfresh k (hadd.names.file_iff.2 hk)⟩
    cases hl : t.node? l with
    | none => rfl
    | some n =>
      rw [hadd.names.grows.node?_eq l n hl] at hnone
      cases hnone
  kept := by
    rw [bytes_setBytes, if_pos rfl, hadd.names.grows.rules_eq]
  files k i hk := by
    by_cases hkl : k = l
    · exact Or.inr hkl
    · exact Or.inl (hadd.names.file_iff.1 ((h.others k hkl).symm.trans hk))
  others i hi := by
    rw [bytes_setBytes, if_neg hi]
    exact hadd.bytes_eq i

/-! ### Machines that refuse nothing -/

/-- Of the machine that refuses nothing, all files but three keep what is written to them. -/
theorem isPlain_openRules (hnull : l ≠ nullDevice) (hfull : l ≠ fullDevice) (hname : l ≠ nameFile) :
    openRules.IsPlain l where
  read := rfl
  whole := rfl
  write := rfl
  kept bytes := by
    unfold openRules
    simp only [hnull, hfull, hname, if_false]

end FileTree

end Manpage
