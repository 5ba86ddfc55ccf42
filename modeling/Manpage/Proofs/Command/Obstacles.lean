import Manpage.Proofs.Command.Delivery
import Manpage.Proofs.Files.Faults

/-!
# Obstacles on the way of a page

What reading a text, comparing a page and writing it come to where they fail, and what a comparison finds.

* `FileTree.IsStale` — a page is missing or differs, and `isUpToDate_eq_false_iff`: that is what a comparison finds;
* `isTold_of_text` — a text in UTF-8 is read, or the machine tells of a fault;
* `written_eq_error`, `compared_eq_error` — a page without a place is neither written nor compared; one with a place may
  lie too deep to be written, and else only a fault that the machine tells of keeps it from that;
* `status_of_written`, `status_of_compared` — a delivery has the status 1 exactly if it was a comparison that found the
  page out of date.
-/

namespace Manpage

namespace FileTree

variable {t : FileTree} {p output : Path} {page : Text}

/-- A page is missing at a path, or the file there holds other bytes. -/
def IsStale (t : FileTree) (output : Path) (page : Text) : Prop :=
  t.IsAbsent output ∨ ∃ bytes, t.read output = .ok bytes ∧ bytes ≠ Utf8.encode page

theorem run_isUpToDate (hnul : output.holdsNul = false) (page : Text) (t : FileTree) :
    (t.run (Command.isUpToDate page output)).1 =
      match t.standing? output with
      | .error fault => .error fault
      | .ok none => .ok false
      | .ok (some _) => (t.contents output).map (· == Utf8.encode page) := by
  rw [Command.isUpToDate, run_bind, run_kindAt? hnul]
  dsimp only
  cases t.standing? output with
  | error fault => rfl
  | ok found =>
    cases found with
    | none => rfl
    | some kind =>
      show (t.run (readFile output >>= _)).1 = _
      rw [run_bind, run_readFile]
      rfl

/-- What can be read stands there. -/
theorem standing?_of_read {bytes : Bytes} (h : t.read output = .ok bytes) : t.standing? output = .ok (some .file) := by
  obtain ⟨l, id, hopen, -, -⟩ := read_eq_ok_iff.1 h
  obtain ⟨hl, hnode, -⟩ := NameTree.openToRead_eq_ok_iff.1 hopen
  rw [standing?, NameTree.at?_eq_ok_iff.2 ⟨l, hl, hnode⟩]
  rfl

/-- Comparing finds a page out of date exactly if it is missing or differs. -/
theorem isUpToDate_eq_false_iff (hnul : output.holdsNul = false) :
    (t.run (Command.isUpToDate page output)).1 = .ok false ↔ t.IsStale output page := by
  rw [run_isUpToDate hnul, IsStale, ← standing?_eq_none_iff]
  constructor
  · intro h
    cases hstands : t.standing? output with
    | error fault =>
      rw [hstands] at h
      cases h
    | ok found =>
      cases found with
      | none => exact Or.inl rfl
      | some kind =>
        rw [hstands] at h
        cases hcontents : t.contents output with
        | error fault =>
          simp only [hcontents] at h
          cases h
        | ok bytes =>
          simp only [hcontents, Except.map, Except.ok.injEq, beq_eq_false_iff_ne] at h
          exact Or.inr ⟨bytes, (contents_eq_ok_iff.1 hcontents).2, h⟩
  · rintro (hnone | ⟨bytes, hread, hne⟩)
    · rw [hnone]
    · rw [standing?_of_read hread, contents_eq_ok_iff.2 ⟨hnul, hread⟩]
      simpa [Except.map] using hne

theorem isTold_of_isUpToDate (hnul : output.holdsNul = false) {fault : Fault}
    (h : (t.run (Command.isUpToDate page output)).1 = .error fault) : fault.IsTold := by
  rw [run_isUpToDate hnul] at h
  cases hstands : t.standing? output with
  | error other =>
    rw [hstands] at h
    cases h
    obtain ⟨cause, -, rfl⟩ := exists_cause_of_standing? hstands
    exact Fault.IsTold.refused cause output
  | ok found =>
    cases found with
    | none =>
      rw [hstands] at h
      cases h
    | some kind =>
      rw [hstands] at h
      cases hcontents : t.contents output with
      | error other =>
        simp only [hcontents] at h
        cases h
        exact isTold_of_contents hnul hcontents
      | ok bytes =>
        simp only [hcontents] at h
        cases h

/-- A text in UTF-8 is read, or the machine tells of a fault. -/
theorem isTold_of_text (hnul : p.holdsNul = false)
    (hutf8 : ∀ bytes, t.read p = .ok bytes → ∃ raw, Utf8.decode bytes = .ok raw) {o : Command.Obstacle}
    (h : t.text p = .error o) : ∃ fault, o = .access fault ∧ fault.IsTold := by
  unfold text at h
  cases hcontents : t.contents p with
  | error fault =>
    rw [hcontents] at h
    cases h
    exact ⟨fault, rfl, isTold_of_contents hnul hcontents⟩
  | ok bytes =>
    obtain ⟨raw, hraw⟩ := hutf8 bytes (contents_eq_ok_iff.1 hcontents).2
    simp only [hcontents, Command.textOfBytes, hraw] at h
    cases h

end FileTree

namespace Command

variable {r : Request} {t u : FileTree} {page : Text} {d : Delivery} {target : Target} {o : Obstacle}

/-! ### Deliveries -/

theorem isTold_of_writePage {output : Path} {fault : Fault} (hnul : output.holdsNul = false)
    (hdeep : ¬ t.IsTooDeep output.parent) (h : (t.run (writePage page output)).1 = .error fault) :
    fault.IsTold := by
  rw [writePage, FileTree.run_bind] at h
  rcases hmade : t.run (makeDirectories output.parent) with ⟨other | _, v⟩
  · rw [hmade] at h
    cases h
    exact FileTree.isTold_of_makeDirectories (FileTree.holdsNul_parent hnul) hdeep (congrArg Prod.fst hmade)
  · rw [hmade] at h
    exact FileTree.isTold_of_writeFile hnul h

theorem writePage_of_isTooDeep {output : Path} (hnul : output.holdsNul = false) (h : t.IsTooDeep output.parent)
    (page : Text) : (t.run (writePage page output)).1 = .error .tooDeep := by
  have hmade := (FileTree.run_makeDirectories_eq_tooDeep_iff (FileTree.holdsNul_parent hnul)).2 h
  rw [writePage, FileTree.run_bind, hmade]
  rfl

/-- A page is not written if it has no place, or lies too deep, or where the machine tells of a fault. -/
theorem written_eq_error (hnul : ∀ p, target = .path p → p.holdsNul = false)
    (h : (t.run (written page target)).1 = .error o) :
    target = .nowhere ∨ (∃ output, target = .path output ∧ t.IsTooDeep output.parent) ∨
      ∃ fault, o = .access fault ∧ fault.IsTold := by
  cases target with
  | nowhere => exact Or.inl rfl
  | path output =>
    right
    by_cases hdeep : t.IsTooDeep output.parent
    · exact Or.inl ⟨output, rfl, hdeep⟩
    · rw [written, FileTree.run_bind] at h
      rcases hrun : t.run (writePage page output) with ⟨fault | _, u⟩
      · rw [hrun] at h
        cases h
        exact Or.inr ⟨fault, rfl, isTold_of_writePage (hnul output rfl) hdeep (congrArg Prod.fst hrun)⟩
      · rw [hrun] at h
        cases h

/-- A page is not compared if it has no place, or where the machine tells of a fault. -/
theorem compared_eq_error (hnul : ∀ p, target = .path p → p.holdsNul = false)
    (h : (t.run (compared page target)).1 = .error o) :
    target = .nowhere ∨ ∃ fault, o = .access fault ∧ fault.IsTold := by
  cases target with
  | nowhere => exact Or.inl rfl
  | path output =>
    right
    rw [compared, FileTree.run_bind] at h
    rcases hrun : t.run (isUpToDate page output) with ⟨fault | _ | _, u⟩
    · rw [hrun] at h
      cases h
      exact ⟨fault, rfl, FileTree.isTold_of_isUpToDate (hnul output rfl) (congrArg Prod.fst hrun)⟩
    · rw [hrun] at h
      cases h
    · rw [hrun] at h
      cases h

theorem status_of_written (h : (t.run (written page target)).1 = .ok d) : d.status = 0 := by
  rcases written_cases page target t with ⟨obstacle, u, -, hrun⟩ | ⟨output, u, l, id, -, -, hrun⟩
  · rw [hrun] at h
    cases h
  · rw [hrun] at h
    generalize (t.rules.kept l (Utf8.encode page)).stop? = stop? at h
    cases stop? with
    | none =>
      cases h
      rfl
    | some refusal => cases h

/-- A comparison has the status 1 exactly if it finds the page out of date. -/
theorem status_of_compared (hnul : ∀ p, target = .path p → p.holdsNul = false)
    (h : (t.run (compared page target)).1 = .ok d) :
    ∃ output, target = .path output ∧
      (d.status = 1 ∧ t.IsStale output page ∨ d.status = 0 ∧ ¬ t.IsStale output page) := by
  cases target with
  | nowhere => cases h
  | path output =>
    refine ⟨output, rfl, ?_⟩
    rw [← FileTree.isUpToDate_eq_false_iff (hnul output rfl)]
    rw [compared, FileTree.run_bind] at h
    rcases hrun : t.run (isUpToDate page output) with ⟨fault | _ | _, u⟩
    · rw [hrun] at h
      cases h
    · rw [hrun] at h
      cases h
      exact Or.inl ⟨rfl, rfl⟩
    · rw [hrun] at h
      cases h
      refine Or.inr ⟨rfl, ?_⟩
      intro hfalse
      cases hfalse

end Command

end Manpage
