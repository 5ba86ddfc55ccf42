import Mathlib.Data.Nat.Basic
import Mathlib.Logic.Function.Iterate
import Manpage.Proofs.Files.Access

/-!
# Faults of accesses to a tree

An access fails with a fault that the machine tells, with two exceptions: a path that holds a NUL, and directories of
which too many are missing.

* `Fault.IsTold` — an access was refused, or broke off; without a NUL, reading and writing fail in no other way
  (`isTold_of_contents`, `isTold_of_writeFile`);
* `FileTree.IsAbsent` — nothing stands at a path, and that is what is found there (`standing?_eq_none_iff`);
* `run_ensureDirectory_of_missing`, `run_ensureDirectory_of_ne_missing` — a directory has to wait for the one above it,
  or it is made, is there already, or is refused;
* `FileTree.IsTooDeep` — more directories above one another are missing than the headroom allows for;
  `run_makeDirectories_eq_tooDeep_iff`: that is when making them fails so, and `isTold_of_makeDirectories`: else it is
  told by the machine; `isTooDeep_replicate`: such paths exist.
-/

namespace Manpage

/-- The machine tells of a fault: an access was refused, or broke off. -/
inductive Fault.IsTold : Fault → Prop
  | refused (cause : Cause) (path : Path) : IsTold (.refused cause path)
  | cut (cause : Cause) : IsTold (.cut cause)

namespace FileTree

variable {t : FileTree} {p : Path} {fault : Fault}

/-! ### Reading and writing -/

theorem isTold_at (p : Path) (mishap : Mishap) : (mishap.at p).IsTold := by
  cases mishap with
  | refused cause => exact Fault.IsTold.refused cause p
  | cut cause => exact Fault.IsTold.cut cause

theorem isTold_of_mapError {α : Type} {x : Except Mishap α} (h : x.mapError (Mishap.at p) = .error fault) :
    fault.IsTold := by
  cases x with
  | ok found => cases h
  | error mishap =>
    cases h
    exact isTold_at p mishap

theorem isTold_of_contents (hnul : p.holdsNul = false) (h : t.contents p = .error fault) : fault.IsTold := by
  rw [contents, hnul] at h
  exact isTold_of_mapError h

theorem isTold_of_writeFile (hnul : p.holdsNul = false) {bytes : Bytes}
    (h : (t.run (writeFile p bytes)).1 = .error fault) : fault.IsTold := by
  rw [writeFile, run_accessing hnul] at h
  exact isTold_of_mapError h

/-! ### Looking -/

/-- Nothing stands at a path: what it names is missing or lies below a file, or the links on the way go around in a
circle. -/
def IsAbsent (t : FileTree) (p : Path) : Prop := ∃ cause, t.at? p = .error cause ∧ cause.isAbsence = true

theorem standing?_eq_none_iff : t.standing? p = .ok none ↔ t.IsAbsent p := by
  unfold standing? IsAbsent
  cases t.at? p with
  | ok n => simp
  | error cause => cases habsence : cause.isAbsence <;> simp [habsence]

theorem exists_cause_of_standing? (h : t.standing? p = .error fault) :
    ∃ cause, cause ≠ .missing ∧ fault = .refused cause p := by
  unfold standing? at h
  split at h
  · cases h
  · next cause _ =>
    split at h
    · cases h
    · next habsence =>
      cases h
      refine ⟨cause, ?_, rfl⟩
      rintro rfl
      exact habsence rfl

/-! ### One directory -/

theorem makeDirectory_eq_missing_iff :
    t.makeDirectory p = .error .missing ↔ t.resolve false p = .error .missing := by
  unfold NameTree.makeDirectory
  cases t.resolve false p with
  | error cause => simp [bind, Except.bind]
  | ok l =>
    simp only [bind, Except.bind]
    cases t.links.lookup l with
    | some target => simp
    | none =>
      cases t.node? l with
      | some n => simp
      | none =>
        cases t.rules.refusal? .make l with
        | some refusal => simp [Refusal.cause]
        | none => simp

theorem run_ensureDirectory_of_missing (hnul : p.holdsNul = false) (h : t.resolve false p = .error .missing) :
    t.run (ensureDirectory p) = (.error (.refused .missing p), t) := by
  rw [ensureDirectory, run_bind, run_accessing hnul, run_makeDirectory, makeDirectory_eq_missing_iff.2 h]
  rfl

/-- Where the directory above is there, a directory is made, or there already, or refused for another cause. -/
theorem run_ensureDirectory_of_ne_missing (hnul : p.holdsNul = false) (h : t.resolve false p ≠ .error .missing) :
    (t.run (ensureDirectory p)).1 = .ok () ∨
      ∃ cause, cause ≠ .missing ∧ (t.run (ensureDirectory p)).1 = .error (.refused cause p) := by
  cases hmake : t.makeDirectory p with
  | ok u =>
    rw [ensureDirectory, run_bind, run_accessing hnul, run_makeDirectory, hmake]
    exact Or.inl rfl
  | error cause =>
    have hcause : cause ≠ .missing := fun heq => h (makeDirectory_eq_missing_iff.1 (heq ▸ hmake))
    rw [run_ensureDirectory_of_error hnul hcause hmake]
    cases hstands : t.standing? p with
    | error fault =>
      obtain ⟨cause', hcause', rfl⟩ := exists_cause_of_standing? hstands
      exact Or.inr ⟨cause', hcause', rfl⟩
    | ok found =>
      rcases found with _ | (_ | _)
      · exact Or.inr ⟨cause, hcause, rfl⟩
      · exact Or.inr ⟨cause, hcause, rfl⟩
      · exact Or.inl rfl

/-- One directory is never refused for a NUL that is not there, nor for those above it. -/
theorem ensureDirectory_faults (hnul : p.holdsNul = false) (t : FileTree) :
    (t.run (ensureDirectory p)).1 ≠ .error .nul ∧ (t.run (ensureDirectory p)).1 ≠ .error .tooDeep := by
  by_cases hmissing : t.resolve false p = .error .missing
  · rw [run_ensureDirectory_of_missing hnul hmissing]
    simp
  · rcases run_ensureDirectory_of_ne_missing hnul hmissing with hok | ⟨cause, -, herror⟩
    · simp [hok]
    · simp [herror]

/-! ### Directories above one another -/

/-- Above a path, more directories above one another are missing than the headroom allows for. -/
def IsTooDeep (t : FileTree) (p : Path) : Prop :=
  t.headroom < p.names.length ∧ ∀ k ≤ t.headroom, t.resolve false (Path.parent^[k] p) = .error .missing

theorem iterate_parent (anchor : Anchor) (namesUp : List Text) (k : Nat) :
    Path.parent^[k] ⟨anchor, namesUp.reverse⟩ = ⟨anchor, (namesUp.drop k).reverse⟩ := by
  induction k generalizing namesUp with
  | zero => rfl
  | succ k ih =>
    have hparent : Path.parent ⟨anchor, namesUp.reverse⟩ = ⟨anchor, namesUp.tail.reverse⟩ := by
      rw [Path.parent, List.dropLast_reverse]
    rw [Function.iterate_succ_apply, hparent, ih, List.drop_tail]

section Up

variable {anchor : Anchor} {name : Text} {namesUp above : List Text}

/-- Where the directory above is missing, it is made first. -/
theorem run_makeDirectoriesUp_of_missing (hnul : Path.holdsNul ⟨anchor, (name :: above).reverse⟩ = false)
    (h : t.resolve false ⟨anchor, (name :: above).reverse⟩ = .error .missing) (depth : Nat) :
    t.run (makeDirectoriesUp anchor (depth + 1) (name :: above)) =
      match t.run (makeDirectoriesUp anchor depth above) with
      | (.ok (), u) => u.run (ensureDirectory ⟨anchor, (name :: above).reverse⟩)
      | (.error fault, u) => (.error fault, u) := by
  rw [makeDirectoriesUp, run_bind, run_ensureDirectory_of_missing hnul h]
  dsimp only
  rw [run_bind]
  generalize t.run (makeDirectoriesUp anchor depth above) = made
  obtain ⟨_ | _, u⟩ := made <;> rfl

/-- Where it is not, nothing is made but the directory. -/
theorem run_makeDirectoriesUp_of_ne_missing (hnul : Path.holdsNul ⟨anchor, (name :: above).reverse⟩ = false)
    (h : t.resolve false ⟨anchor, (name :: above).reverse⟩ ≠ .error .missing) (depth : Nat) :
    (t.run (makeDirectoriesUp anchor (depth + 1) (name :: above))).1 =
      (t.run (ensureDirectory ⟨anchor, (name :: above).reverse⟩)).1 := by
  rw [makeDirectoriesUp, run_bind]
  rcases run_ensureDirectory_of_ne_missing hnul h with hok | ⟨cause, hcause, herror⟩
  · rw [hok]
    rfl
  · rw [herror]
    cases cause <;> first | exact absurd rfl hcause | rfl

/-- Directories are never refused for a NUL that is not there, and are too deep exactly if so many of them are
missing. -/
theorem makeDirectoriesUp_faults (hnul : Path.holdsNul ⟨anchor, namesUp.reverse⟩ = false) (depth : Nat)
    (t : FileTree) :
    (t.run (makeDirectoriesUp anchor depth namesUp)).1 ≠ .error .nul ∧
      ((t.run (makeDirectoriesUp anchor depth namesUp)).1 = .error .tooDeep ↔
        depth ≤ namesUp.length ∧
          ∀ k < depth, t.resolve false ⟨anchor, (namesUp.drop k).reverse⟩ = .error .missing) := by
  -- induction on the depth that is left, from the path up
  induction depth generalizing namesUp with
  | zero =>
    have hnone : ∀ k < 0, t.resolve false ⟨anchor, (namesUp.drop k).reverse⟩ = .error .missing :=
      fun k hk => absurd hk (Nat.not_lt_zero k)
    exact ⟨nofun, fun _ => ⟨Nat.zero_le _, hnone⟩, fun _ => rfl⟩
  | succ depth ih =>
    cases namesUp with
    | nil =>
      obtain ⟨hne, hdeep⟩ := ensureDirectory_faults hnul t
      exact ⟨hne, fun h => absurd h hdeep, fun h => absurd h.1 (Nat.not_succ_le_zero depth)⟩
    | cons name above =>
      rw [Nat.forall_lt_succ_left]
      by_cases hmissing : t.resolve false ⟨anchor, (name :: above).reverse⟩ = .error .missing
      · have habove : Path.holdsNul ⟨anchor, above.reverse⟩ = false := by
          have hparent := holdsNul_parent hnul
          rwa [Path.parent, List.dropLast_reverse] at hparent
        obtain ⟨hne, hdeep⟩ := ih habove
        have hstep : (depth + 1 ≤ (name :: above).length ∧
            t.resolve false ⟨anchor, ((name :: above).drop 0).reverse⟩ = .error .missing ∧
              ∀ k < depth, t.resolve false ⟨anchor, ((name :: above).drop (k + 1)).reverse⟩ = .error .missing) ↔
            (t.run (makeDirectoriesUp anchor depth above)).1 = .error .tooDeep := by
          rw [hdeep]
          simpa using fun _ _ => hmissing
        rw [run_makeDirectoriesUp_of_missing hnul hmissing, hstep]
        generalize t.run (makeDirectoriesUp anchor depth above) = made at hne
        obtain ⟨result, u⟩ := made
        cases result with
        | error fault => exact ⟨hne, Iff.rfl⟩
        | ok =>
          obtain ⟨hne', hdeep'⟩ := ensureDirectory_faults hnul u
          exact ⟨hne', fun h => absurd h hdeep', fun h => nomatch h⟩
      · obtain ⟨hne, hdeep⟩ := ensureDirectory_faults hnul t
        rw [run_makeDirectoriesUp_of_ne_missing hnul hmissing]
        exact ⟨hne, fun h => absurd h hdeep, fun h => absurd h.2.1 hmissing⟩

end Up

theorem makeDirectories_faults (hnul : p.holdsNul = false) (t : FileTree) :
    (t.run (makeDirectories p)).1 ≠ .error .nul ∧
      ((t.run (makeDirectories p)).1 = .error .tooDeep ↔ t.IsTooDeep p) := by
  obtain ⟨anchor, names⟩ := p
  have hnul' : Path.holdsNul ⟨anchor, names.reverse.reverse⟩ = false := by rwa [List.reverse_reverse]
  have hfaults := makeDirectoriesUp_faults hnul' (t.headroom + 1) t
  rw [List.length_reverse] at hfaults
  unfold IsTooDeep
  simpa only [run_makeDirectories, ← iterate_parent, List.reverse_reverse, Nat.succ_le_iff, Nat.lt_succ_iff]
    using hfaults

/-- Making directories is too deep exactly if too many of them are missing. -/
theorem run_makeDirectories_eq_tooDeep_iff (hnul : p.holdsNul = false) :
    (t.run (makeDirectories p)).1 = .error .tooDeep ↔ t.IsTooDeep p :=
  (makeDirectories_faults hnul t).2

/-- Else the machine tells where it fails. -/
theorem isTold_of_makeDirectories (hnul : p.holdsNul = false) (hdeep : ¬ t.IsTooDeep p)
    (h : (t.run (makeDirectories p)).1 = .error fault) : fault.IsTold := by
  obtain ⟨hne, hiff⟩ := makeDirectories_faults hnul t
  cases fault with
  | refused cause path => exact Fault.IsTold.refused cause path
  | cut cause => exact Fault.IsTold.cut cause
  | nul => exact absurd h hne
  | tooDeep => exact absurd (hiff.1 h) hdeep

/-! ### A name repeated -/

theorem length_encode_joined_replicate (name : Text) (n : Nat) :
    (Utf8.encode (Text.joined ['/'] (List.replicate n name))).length ≤ n * ((Utf8.encode name).length + 1) := by
  induction n with
  | zero => exact Nat.zero_le _
  | succ n ih =>
    cases n with
    | zero =>
      show (Utf8.encode name).length ≤ 1 * ((Utf8.encode name).length + 1)
      omega
    | succ n =>
      have hslash : (Utf8.encode ['/']).length = 1 := by decide
      have hne : List.replicate (n + 1) name ≠ [] := List.cons_ne_nil name _
      rw [List.replicate_succ, Text.joined_cons _ _ hne, Utf8.length_encode_append, Utf8.length_encode_append, hslash,
        Nat.succ_mul]
      omega

/-- A directory is missing two names below a name that is. -/
theorem resolve_replicate {name : Text} (hmissing : t.node? (t.here.child name) = none)
    (hlink : t.links.lookup (t.here.child name) = none) (hsearch : t.rules.refusal? .search t.here = none)
    (hname : (Utf8.encode name).length ≤ NameTree.maxNameSize) {n : Nat}
    (hsize : (n + 2) * ((Utf8.encode name).length + 1) ≤ NameTree.maxPathSize) :
    t.resolve false ⟨.here, List.replicate (n + 2) name⟩ = .error .missing := by
  have htext : Path.text ⟨.here, List.replicate (n + 2) name⟩ = Text.joined ['/'] (List.replicate (n + 2) name) := by
    simp [Path.text, Anchor.text, List.replicate_succ]
  have hshort : ¬ NameTree.maxPathSize < (Utf8.encode (Path.text ⟨.here, List.replicate (n + 2) name⟩)).length := by
    rw [htext]
    exact Nat.not_lt.2 (Nat.le_trans (length_encode_joined_replicate name (n + 2)) hsize)
  have henter : t.enter t.here name = .ok (t.here.child name) :=
    NameTree.enter_eq_ok_iff.2 ⟨NameTree.node?_start _ .here, hsearch, hname, rfl⟩
  have hstop : t.enter (t.here.child name) name = .error .missing := by
    rw [NameTree.enter, hmissing]
  rw [NameTree.resolve, if_neg hshort]
  show t.followWith false _ t.here (List.replicate (n + 2) name) = _
  rw [List.replicate_succ, List.replicate_succ, NameTree.followWith, henter]
  dsimp only
  rw [hlink]
  dsimp only
  rw [NameTree.followWith, hstop]

/-- The path of a name that is missing, repeated often enough, is too deep. -/
theorem isTooDeep_replicate {name : Text} (hmissing : t.node? (t.here.child name) = none)
    (hlink : t.links.lookup (t.here.child name) = none) (hsearch : t.rules.refusal? .search t.here = none)
    (hname : (Utf8.encode name).length ≤ NameTree.maxNameSize) {n : Nat} (hlow : t.headroom + 1 < n)
    (hhigh : n * ((Utf8.encode name).length + 1) ≤ NameTree.maxPathSize) :
    t.IsTooDeep ⟨.here, List.replicate n name⟩ := by
  have hlength : t.headroom < (List.replicate n name).length := by
    rw [List.length_replicate]
    omega
  refine ⟨hlength, ?_⟩
  intro k hk
  have hup : Path.parent^[k] ⟨.here, List.replicate n name⟩ = ⟨.here, List.replicate (n - k) name⟩ := by
    have h := iterate_parent .here (List.replicate n name) k
    rwa [List.reverse_replicate, List.drop_replicate, List.reverse_replicate] at h
  obtain ⟨m, hm⟩ := Nat.exists_eq_add_of_le' (show 2 ≤ n - k by omega)
  have hsize : (m + 2) * ((Utf8.encode name).length + 1) ≤ NameTree.maxPathSize :=
    Nat.le_trans (Nat.mul_le_mul_right _ (by omega)) hhigh
  rw [hup, hm]
  exact resolve_replicate hmissing hlink hsearch hname hsize

end FileTree

end Manpage
