import Manpage.Command.Arguments

/-!
# A switch in front of the arguments

Arguments that ask for the page to be written ask for the same page to be checked when `--check` is put in front of
them: words are taken one by one, and nothing but the mode depends on the mode.

* `apply_of_write` — what a bundle sets, in the mode that writes and in the mode that checks;
* `ofWords_of_write` — so for words, by the recursion of `Settings.ofWords`;
* `ofArguments_check_cons` — so for the whole list of arguments.
-/

namespace Manpage.Command

namespace Settings

/-- Settings with the mode that checks. -/
def checking (s : Settings) : Settings := { s with mode := .check }

/-- A bundle that leaves the mode that writes has started from it, and sets the same in the mode that checks. -/
theorem apply_of_write {s s' : Settings} {switches : List (Switch × Option Text)}
    (h : s.apply switches = .ok (some s')) (hmode : s'.mode = .write) :
    s.mode = .write ∧ s.checking.apply switches = .ok (some s'.checking) := by
  fun_induction Settings.apply s switches with
  | case1 s =>
    obtain rfl := Option.some.inj (Except.ok.inj h)
    exact ⟨hmode, rfl⟩
  | case2 s value? rest => cases h
  | case3 s value? rest ih => exact ih h
  | case4 s value? rest ih => exact ih h
  | case5 s value? rest ih => exact ih h
  | case6 s value? rest hlist => cases h
  | case7 s value? rest hlist ih => cases (ih h).1
  | case8 s value? rest hcheck => cases h
  | case9 s value? rest hcheck ih => cases (ih h).1

/-- Words that leave the mode that writes have started from it, and set the same in the mode that checks. -/
theorem ofWords_of_write {s s' : Settings} {ws : List Word} (h : s.ofWords ws = .ok (some s'))
    (hmode : s'.mode = .write) : s.mode = .write ∧ s.checking.ofWords ws = .ok (some s'.checking) := by
  fun_induction Settings.ofWords s ws with
  | case1 s =>
    obtain rfl := Option.some.inj (Except.ok.inj h)
    exact ⟨hmode, rfl⟩
  | case2 s ws hsource ih =>
    obtain ⟨hs, hrest⟩ := ih h
    refine ⟨hs, ?_⟩
    rw [ofWords]
    exact (if_pos hsource).trans hrest
  | case3 s ws hsource ih =>
    obtain ⟨hs, hrest⟩ := ih h
    refine ⟨hs, ?_⟩
    rw [ofWords]
    exact (if_neg hsource).trans hrest
  | case4 s t ws ih => exact ih h
  | case5 s t ws hsource ih =>
    obtain ⟨hs, hrest⟩ := ih h
    refine ⟨hs, ?_⟩
    rw [ofWords.eq_def]
    exact (if_pos hsource).trans hrest
  | case6 s t hsource rest ih =>
    obtain ⟨hs, hrest⟩ := ih h
    refine ⟨hs, ?_⟩
    rw [ofWords]
    exact (if_neg hsource).trans hrest
  | case7 s t hsource ws hdivider ih =>
    obtain ⟨hs, hrest⟩ := ih h
    refine ⟨hs, ?_⟩
    rw [ofWords]
    · exact (if_neg hsource).trans hrest
    · exact hdivider
  | case8 s switch long attached? ws e hbundle => cases h
  | case9 s switch long attached? b hbundle last t rest hlast e happly => cases h
  | case10 s switch long attached? b hbundle last t rest hlast happly => cases h
  | case11 s switch long attached? b hbundle last t rest hlast s₁ happly ih =>
    obtain ⟨hs₁, hrest⟩ := ih h
    obtain ⟨hs, hchecking⟩ := apply_of_write happly hs₁
    refine ⟨hs, ?_⟩
    simp only [ofWords, hbundle, hlast, hchecking, hrest]
  | case12 s switch long attached? ws b hbundle last hlast hoperand => cases h
  | case13 s switch long attached? b hbundle ws hlast e happly => cases h
  | case14 s switch long attached? b hbundle ws hlast happly => cases h
  | case15 s switch long attached? b hbundle ws hlast s₁ happly ih =>
    obtain ⟨hs₁, hrest⟩ := ih h
    obtain ⟨hs, hchecking⟩ := apply_of_write happly hs₁
    refine ⟨hs, ?_⟩
    simp only [ofWords, hbundle, hlast, hchecking, hrest]

end Settings

/-- A request with the mode that checks. -/
def Request.checking (r : Request) : Request := { r with mode := .check }

theorem bind_eq_ok_iff {ε α β : Type} {x : Except ε α} {f : α → Except ε β} {b : β} :
    x >>= f = .ok b ↔ ∃ a, x = .ok a ∧ f a = .ok b := by
  cases x with
  | error e => simp [bind, Except.bind]
  | ok a => simp [bind, Except.bind]

theorem ofArguments_eq_run_iff {d : Defaults} {arguments : List Text} {r : Request} :
    Invocation.ofArguments d arguments = .ok (.run r) ↔
      ∃ ws s, Word.ofArguments arguments = .ok ws ∧ Settings.initial.ofWords ws = .ok (some s) ∧
        s.extras = [] ∧ ¬ (s.mode = .list ∧ s.require? ≠ none) ∧ r = s.request d := by
  unfold Invocation.ofArguments
  simp only [bind_eq_ok_iff]
  constructor
  · rintro ⟨ws, hwords, settings?, hsettings, hrequest⟩
    match settings?, hrequest with
    | some s, hrequest =>
      by_cases hextras : s.extras = []
      · by_cases hlist : s.mode = .list ∧ s.require? ≠ none
        · simp [hextras, hlist, throw, throwThe, MonadExceptOf.throw] at hrequest
        · simp only [hextras, hlist] at hrequest
          cases hrequest
          exact ⟨ws, s, hwords, hsettings, hextras, hlist, rfl⟩
      · simp [hextras, throw, throwThe, MonadExceptOf.throw] at hrequest
  · rintro ⟨ws, s, hwords, hsettings, hextras, hlist, rfl⟩
    refine ⟨ws, hwords, some s, hsettings, ?_⟩
    simp only [hextras, hlist]
    rfl

/-- With `--check` in front, arguments that ask for the page to be written ask for it to be checked. -/
theorem ofArguments_check_cons {d : Defaults} {arguments : List Text} {r : Request}
    (h : Invocation.ofArguments d arguments = .ok (.run r)) (hmode : r.mode = .write) :
    Invocation.ofArguments d ("--check".toList :: arguments) = .ok (.run r.checking) := by
  obtain ⟨ws, s, hwords, hsettings, hextras, -, rfl⟩ := ofArguments_eq_run_iff.1 h
  obtain ⟨-, hchecking⟩ := Settings.ofWords_of_write hsettings hmode
  refine ofArguments_eq_run_iff.2 ⟨.switch .check true none :: ws, s.checking, ?_, hchecking, hextras, ?_, rfl⟩
  · rw [Word.ofArguments, hwords]
    rfl
  · rintro ⟨hlist, -⟩
    cases hlist

end Manpage.Command
