import Manpage.Page.Assembly
import Manpage.Proofs.Page.ControlLines

/-!
# The characters of a page

A page is put together from the blocks of its frame, the names and sentences of a document, and the macros, separators
and marks that rendering adds.  So a character that none of the fixed parts has stands on the page only if it stands in
the document.

* `mem_of_firstSentenceOfLines?`, `mem_description`, `mem_name` — what the entries of a document are made of;
* `mem_itemList` — what a list body adds to its entries;
* `mem_ofText` — the characters of a page, and `carriageReturn_not_mem_ofText`: a carriage return is never added.
-/

namespace Manpage

variable {c : Char}

/-! ### Entries -/

/-- A sentence is made of characters of its lines and of line feeds. -/
theorem Prose.mem_of_firstSentenceOfLines? {ls : List Text} {s : Text} (h : firstSentenceOfLines? ls = some s)
    (hc : c ∈ s) : c = '\n' ∨ ∃ l ∈ ls, c ∈ l := by
  rw [firstSentenceOfLines?_eq, firstSentence?] at h
  obtain ⟨found, hfound, rfl⟩ := Option.map_eq_some_iff.1 h
  obtain ⟨u, v, hsplit, rfl, -, -⟩ := sentenceFrom?_eq_some hfound
  have hmem : c ∈ u ++ ['.'] := by simpa using Text.mem_of_mem_trim hc
  have htext : c ∈ Text.unlines ls := by
    rw [hsplit]
    rcases List.mem_append.1 hmem with hu | hperiod
    · exact List.mem_append_left _ hu
    · rw [List.mem_singleton.1 hperiod]
      exact List.mem_append_right _ List.mem_cons_self
  exact (Text.mem_of_mem_joined htext).imp_left List.mem_singleton.1

/-- The characters that a description can add to a sentence: those of converted markup, the line feeds between its
lines, and those of the placeholder. -/
def descriptionMarks : Text := "\n\".B".toList ++ Entry.placeholder

theorem mem_description {source : Text} {i : Nat} {e : Entry} (h : entryAt? (Text.lines source) i = some e)
    (hc : c ∈ e.description) : c ∈ source ∨ c ∈ descriptionMarks := by
  obtain ⟨l, -, -, -, hdescribed⟩ := entryAt?_eq_some_iff.1 h
  generalize e.description = t at hdescribed hc
  cases hdescribed with
  | placeholder => exact Or.inr (List.mem_append_right _ hc)
  | @sentence first d s hnext hfirst hd hs =>
    rw [Entry.kept] at hc
    split at hc
    · have hadded : ['.', 'B', ' ', '\x22'] ⊆ descriptionMarks := by decide
      rcases Prose.mem_convert hc with hc | hc
      · rcases Prose.mem_of_firstSentenceOfLines? hs hc with rfl | ⟨l, hl, hc⟩
        · exact Or.inr (by decide)
        · exact Or.inl (Text.mem_of_mem_pieces (List.mem_of_mem_drop hl) hc)
      · exact Or.inr (hadded hc)
    · exact Or.inr (List.mem_append_right _ hc)

theorem mem_name {source : Text} {i : Nat} {e : Entry} (h : entryAt? (Text.lines source) i = some e)
    (hc : c ∈ e.name) : c ∈ source := by
  obtain ⟨l, hl, hname⟩ := exists_nameOf?_of_entryAt? h
  exact Text.mem_of_mem_pieces hl (mem_of_mem_name hname hc)

namespace Page

/-! ### Lists -/

/-- The characters that a list body adds to its entries. -/
def itemMarks : Text := headMarks ++ ".It\n".toList

theorem mem_itemList {head : Text → Text} (hhead : ∀ name, c ∈ head name → c ∈ name ∨ c ∈ headMarks)
    {es : List Entry} (h : c ∈ itemList (es.map fun e => item (head e.name) e.description)) :
    (∃ e ∈ es, c ∈ e.name ∨ c ∈ e.description) ∨ c ∈ itemMarks := by
  have hopening : ".It ".toList ⊆ itemMarks := by decide
  have hseparator : separator ⊆ itemMarks := by decide
  rcases List.mem_append.1 h with h | h
  · rcases Text.mem_of_mem_joined h with h | ⟨t, ht, h⟩
    · exact Or.inr (hseparator h)
    · obtain ⟨e, he, rfl⟩ := List.mem_map.1 ht
      rcases List.mem_append.1 h with h | h
      · rcases List.mem_append.1 h with h | h
        · exact Or.inr (hopening h)
        · exact (hhead e.name h).imp (fun hc => ⟨e, he, Or.inl hc⟩) (List.mem_append_left _)
      · rcases List.mem_cons.1 h with rfl | h
        · exact Or.inr (by decide)
        · exact Or.inl ⟨e, he, Or.inr h⟩
  · exact Or.inr (hseparator h)

/-! ### Pages -/

/-- The characters of a frame. -/
def Frame.text (frame : Frame) : Text := frame.header ++ frame.variableHeader ++ frame.footer

/-- A page is made of the characters of its entries, of its frame, and of those that its lists add. -/
theorem mem_ofTables {frame : Frame} {t : Tables} (h : c ∈ ofTables frame t) :
    (∃ e ∈ t.flags ++ t.environment, c ∈ e.name ∨ c ∈ e.description) ∨ c ∈ frame.text ∨ c ∈ itemMarks := by
  have hflags (h : c ∈ flagItems t.flags) := mem_itemList (fun name => mem_flagHead) h
  have hvariables (h : c ∈ variableItems t.environment) := mem_itemList (fun name => mem_variableHead) h
  simp only [ofTables, assemble, List.mem_append, List.mem_singleton] at h
  rcases h with ((((h | h) | h) | h) | h) | rfl
  · exact Or.inr (Or.inl (by simp [Frame.text, h]))
  · rcases hflags h with ⟨e, he, hc⟩ | hc
    · exact Or.inl ⟨e, List.mem_append_left _ he, hc⟩
    · exact Or.inr (Or.inr hc)
  · exact Or.inr (Or.inl (by simp [Frame.text, h]))
  · rcases hvariables h with ⟨e, he, hc⟩ | hc
    · exact Or.inl ⟨e, List.mem_append_right _ he, hc⟩
    · exact Or.inr (Or.inr hc)
  · exact Or.inr (Or.inl (by simp [Frame.text, h]))
  · exact Or.inr (Or.inr (by decide))

/-- The page of a document is made of the characters of the document and of its fixed parts. -/
theorem mem_ofText {frame : Frame} {source page : Text} (h : ofText frame source = .ok page) (hc : c ∈ page) :
    c ∈ source ∨ c ∈ frame.text ++ itemMarks ++ descriptionMarks := by
  rw [ofText] at h
  cases htables : extract .other (Text.lines source) with
  | error f =>
    rw [htables] at h
    cases h
  | ok t =>
    rw [htables] at h
    obtain rfl := Except.ok.inj h
    simp only [List.mem_append]
    rcases mem_ofTables hc with ⟨e, he, hc | hc⟩ | hc | hc
    · obtain ⟨i, hi⟩ := exists_entryAt?_of_mem htables he
      exact Or.inl (mem_name hi hc)
    · obtain ⟨i, hi⟩ := exists_entryAt?_of_mem htables he
      exact (mem_description hi hc).imp_right Or.inr
    · exact Or.inr (Or.inl (Or.inl hc))
    · exact Or.inr (Or.inl (Or.inr hc))

/-- A text written out as a literal is searched through its characters. -/
theorem not_mem_toList {s : String} {t : Text} (h : s = String.ofList t) (ht : t.elem c = false) : c ∉ s.toList := by
  rw [h, String.toList_ofList]
  simpa using ht

set_option maxRecDepth 20000 in
theorem carriageReturn_not_mem_standardFrame : '\r' ∉ standardFrame.text := by
  simp only [Frame.text, standardFrame, List.mem_append, not_or]
  unfold Page.header Page.variableHeader Page.footer
  refine ⟨⟨?_, ?_⟩, ?_⟩
  all_goals
    -- the characters are read off the literal before the search, which would decode its bytes otherwise
    apply not_mem_toList
    · exact rfl
    · rfl

/-- No fixed part of the standard page holds a carriage return, so that a page has one only from its document. -/
theorem carriageReturn_not_mem_ofText {source page : Text} (h : ofText standardFrame source = .ok page)
    (hsource : '\r' ∉ source) : '\r' ∉ page := by
  have hitem : '\r' ∉ itemMarks := by decide
  have hdescription : '\r' ∉ descriptionMarks := by decide
  intro hmem
  rcases mem_ofText h hmem with hmem | hmem
  · exact hsource hmem
  · simp only [List.mem_append, carriageReturn_not_mem_standardFrame, hitem, hdescription, or_self] at hmem

end Page

end Manpage
