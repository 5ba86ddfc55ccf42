import Mathlib.Data.List.Infix
import Manpage.Proofs.Prose.Markup
import Manpage.Proofs.Reference.Walk

/-!
# Canonical documents

A canonical document has each of its entries in one fixed layout: a heading, perhaps a comment, perhaps a block
quotation, one sentence on a line of its own, and lines that the walk passes over.

* `IsSentence` — a line that is one sentence without markup, and what the readers of prose make of it;
* `Remark`, `Article`, `Chapter` — a comment, an entry and a section of a canonical document, each with what must hold
  of its parts, and their `lines`;
* `document` — the lines of some chapters, and `written`, the entries in them;
* `not_mem_document` — every part of a document is a line.
-/

namespace Manpage

namespace Canonical

/-! ### The parts of a document -/

/-- Whether a line opens a section. -/
def opensSection (l : Text) : Bool := Text.opensWith Section.marker l

/-- A line that is neither the header of a section nor the heading of an entry. -/
structure IsPassed (l : Text) : Prop where
  line : '\n' ∉ l
  section_free : opensSection l = false
  entry_free : opensEntry l = false

instance (l : Text) : Decidable (IsPassed l) :=
  decidable_of_iff ('\n' ∉ l ∧ opensSection l = false ∧ opensEntry l = false)
    ⟨fun ⟨line, section_free, entry_free⟩ => ⟨line, section_free, entry_free⟩,
      fun h => ⟨h.line, h.section_free, h.entry_free⟩⟩

/-- The characters of inline markup and of quotation. -/
def markup : Text := ['*', '[', '\x60', '\x22', '\x27', '\\']

/-- One sentence on one line, without markup and quotation. -/
structure IsSentence (l : Text) : Prop where
  line : '\n' ∉ l
  starts : ∃ c t, l = c :: t ∧ c.isAlphanum = true
  ends : ∃ t, l = t ++ ['.']
  single : ¬ ['.', ' '] <:+: l
  plain : ∀ c ∈ l, c ∉ markup

theorem isSentence_iff {l : Text} :
    IsSentence l ↔ '\n' ∉ l ∧ l.head?.any Char.isAlphanum = true ∧ ['.'] <:+ l ∧ ¬ ['.', ' '] <:+: l ∧
      (l.all fun c => c ∉ markup) = true := by
  have hall : (l.all fun c => c ∉ markup) = true ↔ ∀ c ∈ l, c ∉ markup := by
    simp only [List.all_eq_true, decide_eq_true_eq]
  rw [hall]
  constructor
  · rintro ⟨hline, ⟨c, t, rfl, hc⟩, ⟨u, hu⟩, hsingle, hplain⟩
    exact ⟨hline, hc, ⟨u, hu.symm⟩, hsingle, hplain⟩
  · rintro ⟨hline, hstarts, ⟨u, hu⟩, hsingle, hplain⟩
    refine ⟨hline, ?_, ⟨u, hu.symm⟩, hsingle, hplain⟩
    obtain ⟨c, hc, halphanum⟩ := (Option.any_eq_true _ _).1 hstarts
    obtain ⟨t, ht⟩ := List.head?_eq_some_iff.1 hc
    exact ⟨c, t, ht, halphanum⟩

instance (l : Text) : Decidable (IsSentence l) := decidable_of_iff _ isSentence_iff.symm

/-- A comment below a heading. -/
structure Remark where
  opening : Text
  body : List Text
  opening_line : '\n' ∉ opening
  opening_opens : opensComment opening = true
  body_passed : ∀ l ∈ body, IsPassed l
  body_open : ∀ l ∈ body, l ≠ ['-', '-', '>']

/-- The lines of a comment and the empty line below it. -/
def Remark.lines (r : Remark) : List Text := r.opening :: r.body ++ [['-', '-', '>'], []]

/-- A line of a block quotation, or an empty one. -/
structure IsQuotation (l : Text) : Prop where
  line : '\n' ∉ l
  quoted : l = [] ∨ ∃ t, l = '>' :: t

theorem isQuotation_iff {l : Text} : IsQuotation l ↔ '\n' ∉ l ∧ (l = [] ∨ ['>'] <+: l) := by
  constructor
  · rintro ⟨hline, hquoted⟩
    exact ⟨hline, hquoted.imp_right fun ⟨t, ht⟩ => ⟨t, ht.symm⟩⟩
  · rintro ⟨hline, hquoted⟩
    exact ⟨hline, hquoted.imp_right fun ⟨t, ht⟩ => ⟨t, ht.symm⟩⟩

instance (l : Text) : Decidable (IsQuotation l) := decidable_of_iff _ isQuotation_iff.symm

/-- An entry with all that stands below its heading. -/
structure Article where
  name : Text
  remark? : Option Remark
  quotation : List Text
  sentence : Text
  trailing : List Text
  name_line : '\n' ∉ name
  name_plain : '\x60' ∉ name
  name_ne : name ≠ [] ∧ name ≠ ['-'] ∧ name ≠ ['-', '-']
  quotation_quoted : ∀ l ∈ quotation, IsQuotation l
  sentence_plain : IsSentence sentence
  trailing_passed : ∀ l ∈ trailing, IsPassed l

/-- The heading of an article, its name between backticks. -/
def Article.heading (a : Article) : Text := Entry.marker ++ '\x60' :: (a.name ++ ['\x60'])

/-- What stands below the heading of an article, before its sentence. -/
def Article.preamble (a : Article) : List Text := [] :: ((a.remark?.map Remark.lines).getD [] ++ a.quotation)

/-- The lines of an article. -/
def Article.lines (a : Article) : List Text := a.heading :: (a.preamble ++ a.sentence :: a.trailing)

/-- The entry that an article gives. -/
def Article.entry (a : Article) : Entry := ⟨a.name, a.sentence⟩

/-- The title of a section whose entries are recorded. -/
def title? : Section → Option Text
  | .options => some "Options".toList
  | .v8Options => some "Useful V8 options".toList
  | .environment => some "Environment variables".toList
  | .other => none

/-- A section of a document: one with articles under a title that is recorded, or one with any lines under another
title.  A flag must have a place in the order of names. -/
inductive Chapter where
  | recorded (kind : Section) (title : Text) (articles : List Article) (known : title? kind = some title)
      (ordered : kind.holdsFlags = true → ∀ a ∈ articles, '\u0130' ∉ a.name)
  | passed (title : Text) (body : List Text) (line : '\n' ∉ title) (unknown : ∀ kind, title? kind ≠ some title)
      (body_line : ∀ l ∈ body, '\n' ∉ l) (body_free : ∀ l ∈ body, opensSection l = false)

/-- The lines of a chapter: its title, an empty line, and what it holds. -/
def Chapter.lines : Chapter → List Text
  | .recorded _ title articles _ _ => (Section.marker ++ title) :: [] :: articles.flatMap Article.lines
  | .passed title body _ _ _ _ => (Section.marker ++ title) :: [] :: body

/-- The entries of a chapter, each with its section. -/
def Chapter.records : Chapter → List (Section × Entry)
  | .recorded kind _ articles _ _ => articles.map fun a => (kind, a.entry)
  | .passed .. => []

/-- The section that a chapter opens. -/
def Chapter.kind : Chapter → Section
  | .recorded kind .. => kind
  | .passed .. => .other

/-- The lines of a document. -/
def document (chapters : List Chapter) : List Text := chapters.flatMap Chapter.lines

/-- The entries in the chapters of some sections, in the order of the document. -/
def written (sections : List Section) (chapters : List Chapter) : List Entry :=
  (chapters.filter fun c => c.kind ∈ sections).flatMap fun c => c.records.map Prod.snd

/-! ### Sentences -/

theorem IsSentence.not_mem {l : Text} (h : IsSentence l) {c : Char} (hc : c ∈ markup) : c ∉ l :=
  fun hm => h.plain c hm hc

/-- A sentence is found as such above any lines. -/
theorem IsSentence.firstSentenceOfLines? {l : Text} (h : IsSentence l) (more : List Text) :
    Prose.firstSentenceOfLines? (l :: more) = some l := by
  obtain ⟨c, u, hu, hc⟩ := h.starts
  obtain ⟨t, rfl⟩ := h.ends
  have hsign : ∀ x ∈ t, Prose.isQuotationSign x = false := by
    intro x hx
    have hplain := h.plain x (List.mem_append_left _ hx)
    simp only [markup, List.mem_cons, List.not_mem_nil, or_false, not_or] at hplain
    simp [Prose.isQuotationSign, Prose.isQuote, hplain]
  have hline : '\n' ∉ t := by
    intro hmem
    exact h.line (List.mem_append_left _ hmem)
  exact Prose.firstSentenceOfLines?_cons hu.symm (Unicode.isBlank_of_isAlphanum hc) hsign hline h.single more

theorem IsSentence.convert {l : Text} (h : IsSentence l) : Prose.convert l = l :=
  Prose.convert_of_not_mem (h.not_mem (by decide)) (h.not_mem (by decide)) (h.not_mem (by decide))

theorem IsSentence.startsLikeProse {l : Text} (h : IsSentence l) : Entry.startsLikeProse l = true := by
  obtain ⟨c, u, rfl, hc⟩ := h.starts
  simp [Entry.startsLikeProse, hc]

/-- A sentence looks like nothing else that may stand in a document. -/
theorem IsSentence.isPassed {l : Text} (h : IsSentence l) :
    IsPassed l ∧ isProseLine l = true ∧ opensComment l = false := by
  obtain ⟨c, u, rfl, hc⟩ := h.starts
  have hhash : ¬ '#' = c := by
    rintro rfl
    exact absurd hc (by decide)
  have hangle : ¬ '<' = c := by
    rintro rfl
    exact absurd hc (by decide)
  have hquote : ¬ c = '>' := by
    rintro rfl
    exact absurd hc (by decide)
  refine ⟨⟨h.line, ?_, ?_⟩, ?_, ?_⟩
  · simp [opensSection, Section.marker, Text.opensWith, Text.after?, hhash]
  · simp [opensEntry, Entry.marker, Text.opensWith, Text.after?, hhash]
  · simp [isProseLine, hquote]
  · simp [opensComment, Text.opensWith, Text.after?, hangle]

/-! ### Lines -/

theorem Remark.not_mem {r : Remark} {l : Text} (h : l ∈ r.lines) : '\n' ∉ l := by
  rw [Remark.lines, List.mem_append, List.mem_cons] at h
  rcases h with (rfl | h) | h
  · exact r.opening_line
  · exact (r.body_passed l h).line
  · simp only [List.mem_cons, List.not_mem_nil, or_false] at h
    rcases h with rfl | rfl
    · decide
    · decide

theorem Article.not_mem_heading (a : Article) : '\n' ∉ a.heading := by
  have hmarker : '\n' ∉ Entry.marker := by decide
  simp [Article.heading, hmarker, a.name_line]

theorem Article.mem_preamble {a : Article} {l : Text} (h : l ∈ a.preamble) :
    l = [] ∨ (∃ r, a.remark? = some r ∧ l ∈ r.lines) ∨ IsQuotation l := by
  rw [Article.preamble, List.mem_cons, List.mem_append] at h
  rcases h with rfl | h | h
  · exact Or.inl rfl
  · cases hr : a.remark? with
    | none => rw [hr] at h; exact absurd h List.not_mem_nil
    | some r => rw [hr] at h; exact Or.inr (Or.inl ⟨r, rfl, h⟩)
  · exact Or.inr (Or.inr (a.quotation_quoted l h))

theorem Article.not_mem {a : Article} {l : Text} (h : l ∈ a.lines) : '\n' ∉ l := by
  rw [Article.lines, List.mem_cons, List.mem_append, List.mem_cons] at h
  rcases h with rfl | h | rfl | h
  · exact a.not_mem_heading
  · rcases Article.mem_preamble h with rfl | ⟨r, -, hr⟩ | hq
    · exact List.not_mem_nil
    · exact Remark.not_mem hr
    · exact hq.line
  · exact a.sentence_plain.line
  · exact (a.trailing_passed l h).line

theorem not_mem_title {kind : Section} {title : Text} (h : title? kind = some title) : '\n' ∉ title := by
  cases kind with
  | other => cases h
  | _ => cases h; decide

theorem not_mem_header {title : Text} (h : '\n' ∉ title) : '\n' ∉ Section.marker ++ title := by
  have hmarker : '\n' ∉ Section.marker := by decide
  simp [hmarker, h]

/-- No line of a document holds a line feed. -/
theorem not_mem_document {chapters : List Chapter} {l : Text} (h : l ∈ document chapters) : '\n' ∉ l := by
  obtain ⟨c, -, hc⟩ := List.mem_flatMap.1 h
  cases c with
  | recorded kind title articles known ordered =>
    rw [Chapter.lines, List.mem_cons, List.mem_cons] at hc
    rcases hc with rfl | rfl | hc
    · exact not_mem_header (not_mem_title known)
    · exact List.not_mem_nil
    · obtain ⟨a, -, ha⟩ := List.mem_flatMap.1 hc
      exact Article.not_mem ha
  | passed title body line unknown body_line body_free =>
    rw [Chapter.lines, List.mem_cons, List.mem_cons] at hc
    rcases hc with rfl | rfl | hc
    · exact not_mem_header line
    · exact List.not_mem_nil
    · exact body_line l hc

end Canonical

end Manpage
