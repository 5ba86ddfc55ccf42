import Manpage.Proofs.Files.Access

/-!
# Trees that look alike

What a program finds out about a tree is which names it has, and the bytes of those files that it reads.  So on two
trees that differ in the bytes of some files only, a program does the same, unless it reads one of them.

* `FileTree.Alike` — two trees with the same names, where a relation says how the bytes of a file may differ;
* `Alike.setBytes` — they stay alike when a file of both is given bytes, the same or others that may differ;
* `FileTree.Respects` — a program that gives the same on alike trees and leaves alike trees; `Respects.bind`;
* `respects_writeFile`, `respects_kindAt?`, `respects_makeDirectories` — what never reads bytes;
  `Alike.contents_cases`, `Alike.contents_eq` — what does.
-/

namespace Manpage.FileTree

/-- Two trees have the same names, and the bytes of a file are the same, or differ as the relation for it allows. -/
structure Alike (may : FileId → Bytes → Bytes → Prop) (t u : FileTree) : Prop where
  names : u.toNameTree = t.toNameTree
  bytes_cases : ∀ id, t.bytes id = u.bytes id ∨ may id (t.bytes id) (u.bytes id)

variable {may : FileId → Bytes → Bytes → Prop} {t u : FileTree} {p : Path} {id : FileId}

theorem Alike.refl (t : FileTree) : Alike may t t := ⟨rfl, fun _ => Or.inl rfl⟩

/-- Where bytes may not differ, they are the same. -/
theorem Alike.bytes_eq (h : Alike may t u) (hid : ∀ bytes bytes', ¬ may id bytes bytes') : t.bytes id = u.bytes id :=
  (h.bytes_cases id).resolve_right (hid _ _)

/-- Trees stay alike when bytes are given to a file of both, the same or such that may differ. -/
theorem Alike.setBytes (h : Alike may t u) {bytes bytes' : Bytes} (hbytes : bytes = bytes' ∨ may id bytes bytes') :
    Alike may (t.setBytes id bytes) (u.setBytes id bytes') where
  names := h.names
  bytes_cases i := by
    rw [bytes_setBytes, bytes_setBytes]
    split
    · next hi => rwa [hi]
    · exact h.bytes_cases i

theorem Alike.renamed (h : Alike may t u) (names : NameTree) : Alike may (t.renamed names) (u.renamed names) :=
  ⟨rfl, h.bytes_cases⟩

/-! ### Programs -/

/-- A program that gives the same on alike trees and leaves alike trees behind. -/
def Respects (may : FileId → Bytes → Bytes → Prop) {α : Type} (x : StateM FileTree α) : Prop :=
  ∀ t u, Alike may t u → (t.run x).1 = (u.run x).1 ∧ Alike may (t.run x).2 (u.run x).2

variable {α β : Type}

theorem respects_pure (a : α) : Respects may (pure a) := fun _ _ h => ⟨rfl, h⟩

theorem Respects.bind {x : StateM FileTree α} {f : α → StateM FileTree β} (hx : Respects may x)
    (hf : ∀ a, Respects may (f a)) : Respects may (x >>= f) := by
  intro t u h
  obtain ⟨hvalue, htree⟩ := hx t u h
  rw [run_bind, run_bind, hvalue]
  exact hf _ _ _ htree

theorem respects_accessing {ε : Type} {tell : Path → ε → Fault} {access : StateM FileTree (Except ε α)}
    (h : Respects may access) (p : Path) : Respects may (accessing tell p access) := by
  unfold accessing
  split
  · exact respects_pure _
  · refine h.bind ?_
    intro result
    exact respects_pure _

/-- A file is opened in both trees, or in neither, and given the same bytes. -/
theorem respects_write (p : Path) (bytes : Bytes) :
    Respects may (FileAccess.write p bytes : StateM FileTree (Except Mishap Unit)) := by
  intro t u h
  rw [run_write, run_write, write, write, h.names]
  cases t.openToWrite p with
  | error cause => exact ⟨rfl, h⟩
  | ok opened =>
    obtain ⟨l, i, names⟩ := opened
    have halike : Alike may ((t.renamed names).setBytes i (t.rules.kept l bytes).bytes)
        ((u.renamed names).setBytes i (t.rules.kept l bytes).bytes) := (h.renamed names).setBytes (Or.inl rfl)
    simp only [bind, Except.bind]
    cases (t.rules.kept l bytes).stop? with
    | none => exact ⟨rfl, halike⟩
    | some refusal => exact ⟨rfl, halike⟩

theorem respects_writeFile (p : Path) (bytes : Bytes) : Respects may (writeFile p bytes) :=
  respects_accessing (respects_write p bytes) p

theorem respects_makeDirectory (p : Path) :
    Respects may (FileAccess.makeDirectory p : StateM FileTree (Except Cause Unit)) := by
  intro t u h
  rw [run_makeDirectory, run_makeDirectory, h.names]
  cases t.makeDirectory p with
  | error cause => exact ⟨rfl, h⟩
  | ok names => exact ⟨rfl, h.renamed names⟩

theorem respects_kind (p : Path) : Respects may (FileAccess.kind p : StateM FileTree (Except Cause Kind)) := by
  intro t u h
  show t.kind p = u.kind p ∧ Alike may t u
  rw [h.names]
  exact ⟨rfl, h⟩

theorem respects_kindAt? (p : Path) : Respects may (kindAt? p) := by
  refine Respects.bind (respects_accessing (respects_kind p) p) ?_
  intro found
  split <;> exact respects_pure _

theorem respects_ensureDirectory (p : Path) : Respects may (ensureDirectory p) := by
  refine Respects.bind (respects_accessing (respects_makeDirectory p) p) ?_
  intro made
  split
  · exact respects_pure _
  · exact respects_pure _
  · exact respects_pure _
  · refine (respects_kindAt? p).bind ?_
    intro found
    split <;> exact respects_pure _

theorem respects_makeDirectoriesUp (anchor : Anchor) (depth : Nat) (namesUp : List Text) :
    Respects may (makeDirectoriesUp anchor depth namesUp) := by
  induction depth generalizing namesUp with
  | zero =>
    rw [makeDirectoriesUp]
    exact respects_pure _
  | succ depth ih =>
    cases namesUp with
    | nil =>
      rw [makeDirectoriesUp]
      exact respects_ensureDirectory _
    | cons name above =>
      rw [makeDirectoriesUp]
      refine (respects_ensureDirectory _).bind ?_
      intro made
      split
      · refine (ih above).bind ?_
        intro result
        split
        · exact respects_ensureDirectory _
        · exact respects_pure _
      · exact respects_pure _

theorem respects_makeDirectories (p : Path) : Respects may (makeDirectories p) := by
  intro t u h
  have hheadroom : u.headroom = t.headroom := congrArg (fun names => names.headroom) h.names
  rw [run_makeDirectories, run_makeDirectories, hheadroom]
  exact respects_makeDirectoriesUp p.anchor (t.headroom + 1) p.names.reverse t u h

/-! ### Bytes -/

/-- A file that is read has the same bytes in alike trees, or bytes that may differ. -/
theorem Alike.contents_cases (h : Alike may t u) (p : Path) :
    t.contents p = u.contents p ∨ ∃ id bytes bytes', t.LeadsTo p id ∧ t.contents p = .ok bytes ∧
      u.contents p = .ok bytes' ∧ may id bytes bytes' := by
  unfold contents
  split
  · exact Or.inl rfl
  · rw [read, read, h.names]
    cases hopen : t.openToRead p with
    | error cause => exact Or.inl rfl
    | ok opened =>
      obtain ⟨l, i⟩ := opened
      obtain ⟨hl, hnode, -⟩ := NameTree.openToRead_eq_ok_iff.1 hopen
      dsimp only
      cases t.rules.unread? l with
      | some refusal => exact Or.inl rfl
      | none =>
        rcases h.bytes_cases i with heq | hmay
        · exact Or.inl (by rw [heq])
        · exact Or.inr ⟨i, _, _, ⟨l, hl, hnode⟩, rfl, rfl, hmay⟩

/-- Reading gives the same where the bytes of the file may not differ. -/
theorem Alike.contents_eq (h : Alike may t u) (hid : ∀ id, t.LeadsTo p id → ∀ bytes bytes', ¬ may id bytes bytes') :
    t.contents p = u.contents p := by
  rcases h.contents_cases p with heq | ⟨id, bytes, bytes', hp, -, -, hmay⟩
  · exact heq
  · exact absurd hmay (hid id hp bytes bytes')

end Manpage.FileTree
