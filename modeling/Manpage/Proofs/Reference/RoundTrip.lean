import Manpage.Proofs.Reference.Canonical
import Manpage.Proofs.Reference.Contents

/-!
# Reading undoes writing

What was written into a canonical document is what is read from it.

* `Yields` — what a walk over some lines records, whatever follows them, and `Yields.append`, one stretch of lines after
  another;
* `Article.yields`, `Chapter.yields`, `yields_document` — the parts of a canonical document record what they hold;
* `extract_document` — so its tables are those of the entries written into it, whether it is given in lines or as a
  text.
-/

namespace Manpage

namespace Canonical

/-! ### Stretches of lines -/

/-- A walk over the lines in a first section records some entries and ends in a second one, whatever follows. -/
def Yields (s : Section) (ls : List Text) (t : Section) (rs : List (Section × Entry)) : Prop :=
  ∀ n more, collect s n (ls ++ more) = (collect t (n + ls.length) more).map (rs ++ ·)

theorem Yields.nil (s : Section) : Yields s [] s [] := by
  intro n more
  rw [List.nil_append, List.length_nil, Int.natCast_zero, Int.add_zero]
  cases collect s n more <;> rfl

theorem Yields.append {s t u : Section} {ls ms : List Text} {rs us : List (Section × Entry)} (h : Yields s ls t rs)
    (h' : Yields t ms u us) : Yields s (ls ++ ms) u (rs ++ us) := by
  intro n more
  have hnumber : n + (ls.length : Int) + (ms.length : Int) = n + ((ls ++ ms).length : Int) := by
    rw [List.length_append]
    omega
  rw [List.append_assoc, h, h', hnumber]
  cases collect u (n + ((ls ++ ms).length : Int)) more with
  | error m => rfl
  | ok vs => simp only [Except.map, List.append_assoc]

theorem Yields.flatMap {α : Type} {s : Section} {f : α → List Text} {g : α → List (Section × Entry)} {xs : List α}
    (h : ∀ x ∈ xs, Yields s (f x) s (g x)) : Yields s (xs.flatMap f) s (xs.flatMap g) := by
  induction xs with
  | nil => exact Yields.nil s
  | cons x xs ih =>
    rw [List.flatMap_cons, List.flatMap_cons]
    exact (h x List.mem_cons_self).append (ih fun y hy => h y (List.mem_cons_of_mem _ hy))

theorem Yields.collect {s t : Section} {ls : List Text} {rs : List (Section × Entry)} (h : Yields s ls t rs)
    (n : Int) : Manpage.collect s n ls = .ok rs := by
  have hall := h n []
  rw [List.append_nil] at hall
  rw [hall, collect_nil, Except.map, List.append_nil]

/-- A line that records nothing changes the section at most. -/
theorem yields_singleton {s : Section} {l : Text} (h : ∀ n below, recordsOf s n l below = .ok []) :
    Yields s [l] (s.inEffect [l]) [] := by
  intro n more
  rw [List.singleton_append, collect_cons, h]
  rfl

theorem ofHeader?_of_opensSection_false {l : Text} (h : opensSection l = false) : Section.ofHeader? l = none := by
  rw [opensSection, Text.opensWith, Option.isSome_eq_false_iff, Option.isNone_iff_eq_none] at h
  rw [Section.ofHeader?, h, Option.map_none]

theorem nameOf?_of_opensEntry_false {l : Text} (h : opensEntry l = false) : Entry.nameOf? l = none := by
  rw [opensEntry, Text.opensWith, Option.isSome_eq_false_iff, Option.isNone_iff_eq_none] at h
  simp only [Entry.nameOf?, h]

/-- Lines that open no section are passed over, if they are no headings or their section is not recorded. -/
theorem yields_of_forall {s : Section} {ls : List Text} (hsection : ∀ l ∈ ls, opensSection l = false)
    (hentry : s = .other ∨ ∀ l ∈ ls, opensEntry l = false) : Yields s ls s [] := by
  induction ls with
  | nil => exact Yields.nil s
  | cons l ls ih =>
    have hstay : s.inEffect [l] = s :=
      s.inEffect_of_ofHeader?_none (ofHeader?_of_opensSection_false (hsection l List.mem_cons_self))
    have hrecords : ∀ n below, recordsOf s n l below = .ok [] := by
      intro n below
      rcases hentry with rfl | hentry
      · rfl
      · exact recordsOf_of_nameOf?_none (nameOf?_of_opensEntry_false (hentry l List.mem_cons_self)) s n below
    have hone := yields_singleton hrecords
    rw [hstay] at hone
    exact hone.append (ih (fun x hx => hsection x (List.mem_cons_of_mem _ hx))
      (hentry.imp_right fun hall x hx => hall x (List.mem_cons_of_mem _ hx)))

theorem yields_passed {s : Section} {ls : List Text} (h : ∀ l ∈ ls, IsPassed l) : Yields s ls s [] :=
  yields_of_forall (fun l hl => (h l hl).section_free) (Or.inr fun l hl => (h l hl).entry_free)

/-! ### Articles -/

theorem isPassed_nil : IsPassed [] := ⟨by decide, by decide, by decide⟩

theorem isPassed_close : IsPassed ['-', '-', '>'] := ⟨by decide, by decide, by decide⟩

/-- What opens a comment opens nothing else. -/
theorem Remark.isPassed_opening (r : Remark) : IsPassed r.opening := by
  have hopens := r.opening_opens
  rw [opensComment, Text.opensWith_iff] at hopens
  obtain ⟨t, ht⟩ := hopens
  have hline := r.opening_line
  rw [ht] at hline ⊢
  exact ⟨hline, rfl, rfl⟩

theorem IsQuotation.isPassed {l : Text} (h : IsQuotation l) : IsPassed l := by
  rcases h.quoted with rfl | ⟨t, rfl⟩
  · exact isPassed_nil
  · exact ⟨h.line, rfl, rfl⟩

theorem IsQuotation.isProseLine_eq {l : Text} (h : IsQuotation l) : isProseLine l = false := by
  rcases h.quoted with rfl | ⟨t, rfl⟩
  · rfl
  · rfl

theorem IsQuotation.opensComment_eq {l : Text} (h : IsQuotation l) : opensComment l = false := by
  rcases h.quoted with rfl | ⟨t, rfl⟩
  · rfl
  · rfl

theorem Remark.isPassed {r : Remark} {l : Text} (h : l ∈ r.lines) : IsPassed l := by
  rw [Remark.lines, List.mem_append, List.mem_cons] at h
  rcases h with (rfl | h) | h
  · exact r.isPassed_opening
  · exact r.body_passed l h
  · simp only [List.mem_cons, List.not_mem_nil, or_false] at h
    rcases h with rfl | rfl
    · exact isPassed_close
    · exact isPassed_nil

/-- Below its heading, an article has nothing that the walk would stop at. -/
theorem Article.isPassed {a : Article} {l : Text} (h : l ∈ a.preamble ++ a.sentence :: a.trailing) : IsPassed l := by
  rw [List.mem_append, List.mem_cons] at h
  rcases h with h | rfl | h
  · rcases Article.mem_preamble h with rfl | ⟨r, -, hr⟩ | hq
    · exact isPassed_nil
    · exact Remark.isPassed hr
    · exact hq.isPassed
  · exact a.sentence_plain.isPassed.1
  · exact a.trailing_passed l h

theorem findIdx?_append_cons {α : Type} {p : α → Bool} {pre : List α} {x : α} (hpre : ∀ y ∈ pre, p y = false)
    (hx : p x = true) (post : List α) : (pre ++ x :: post).findIdx? p = some pre.length := by
  rw [List.findIdx?_append, List.findIdx?_eq_none_iff.2 hpre, Option.none_or, List.findIdx?_cons, if_pos hx,
    Option.map_some, Nat.zero_add]

theorem drop_append_cons {α : Type} (pre : List α) (x : α) (post : List α) :
    (pre ++ x :: post).drop (pre.length + 1) = post := by
  rw [List.append_cons]
  exact List.drop_left' (by rw [List.length_append, List.length_singleton])

/-- A description below lines that are not prose. -/
theorem descriptionAfter_append_cons {pre : List Text} {x d : Text} {post : List Text}
    (hpre : ∀ l ∈ pre, isProseLine l = false) (hx : isProseLine x = true)
    (hd : Prose.firstSentenceOfLines? (x :: post) = some d) (line n : Int) :
    descriptionAfter line (Place.all n (pre ++ x :: post)) = .ok (Prose.convert d) := by
  rw [descriptionAfter_all, findIdx?_append_cons hpre hx]
  simp only [List.drop_left, firstSentenceFrom, hd]
  rfl

/-- Below a quotation, the description is the sentence of the article. -/
theorem Article.descriptionAfter_eq (a : Article) (line n : Int) (more : List Text) :
    descriptionAfter line (Place.all n (([] :: a.quotation) ++ a.sentence :: more)) = .ok a.sentence := by
  have hquotation : ∀ l ∈ [] :: a.quotation, isProseLine l = false := by
    intro l hl
    rcases List.mem_cons.1 hl with rfl | hl
    · rfl
    · exact (a.quotation_quoted l hl).isProseLine_eq
  have hprose := a.sentence_plain.isPassed.2.1
  rw [descriptionAfter_append_cons hquotation hprose (a.sentence_plain.firstSentenceOfLines? more),
    a.sentence_plain.convert]

theorem Article.preamble_of_none {a : Article} (h : a.remark? = none) : a.preamble = [] :: a.quotation := by
  rw [Article.preamble, h]
  rfl

theorem Article.preamble_of_some {a : Article} {r : Remark} (h : a.remark? = some r) :
    a.preamble = ([] :: r.opening :: r.body) ++ ['-', '-', '>'] :: [] :: a.quotation := by
  rw [Article.preamble, h, Option.map_some, Option.getD_some, Remark.lines]
  simp only [List.cons_append, List.append_assoc, List.nil_append]

/-- The second line below the heading of an article opens its comment, if it has one, and never another entry. -/
theorem Article.ofLine?_eq (a : Article) (more : List Text) :
    Lookahead.ofLine? (a.preamble ++ a.sentence :: more)[1]? = if a.remark? = none then .prose else .comment := by
  obtain ⟨hpassed, -, hcomment⟩ := a.sentence_plain.isPassed
  cases hremark : a.remark? with
  | none =>
    rw [Article.preamble_of_none hremark, if_pos rfl]
    cases hq : a.quotation with
    | nil =>
      show Lookahead.ofLine? (some a.sentence) = .prose
      simp only [Lookahead.ofLine?, hcomment, hpassed.entry_free, Bool.false_eq_true, if_false]
    | cons q quotation =>
      have hfirst : IsQuotation q := a.quotation_quoted q (hq ▸ List.mem_cons_self)
      show Lookahead.ofLine? (some q) = .prose
      simp only [Lookahead.ofLine?, hfirst.opensComment_eq, hfirst.isPassed.entry_free, Bool.false_eq_true, if_false]
  | some r =>
    rw [Article.preamble_of_some hremark, if_neg (Option.some_ne_none r)]
    show Lookahead.ofLine? (some r.opening) = .comment
    simp only [Lookahead.ofLine?, r.opening_opens, if_true]

/-- No line from the heading to the end of the body closes the comment. -/
theorem Remark.closesComment_eq (r : Remark) {l : Text} (h : l ∈ [] :: r.opening :: r.body) :
    closesComment l = false := by
  rw [List.mem_cons, List.mem_cons] at h
  rcases h with rfl | rfl | h
  · rfl
  · obtain ⟨t, ht⟩ := Text.opensWith_iff.1 r.opening_opens
    rw [ht]
    rfl
  · simpa [closesComment] using r.body_open l h

/-- The description below the heading of an article is its sentence. -/
theorem Article.readDescription_eq (a : Article) (n : Int) (more : List Text) :
    readDescription n (a.preamble ++ a.sentence :: more) = .ok a.sentence := by
  unfold readDescription
  rw [a.ofLine?_eq more]
  cases hremark : a.remark? with
  | none =>
    rw [if_pos rfl, Article.preamble_of_none hremark]
    exact a.descriptionAfter_eq n (n + 1) more
  | some r =>
    -- the search for the end of the comment stops behind its body, and the quotation follows
    have hbelow : a.preamble ++ a.sentence :: more =
        ([] :: r.opening :: r.body) ++ ['-', '-', '>'] :: (([] :: a.quotation) ++ a.sentence :: more) := by
      rw [Article.preamble_of_some hremark, List.append_assoc]
      rfl
    have hopen : ∀ l ∈ [] :: r.opening :: r.body, closesComment l = false := fun l hl => r.closesComment_eq hl
    rw [if_neg (Option.some_ne_none r), hbelow, findIdx?_append_cons hopen rfl]
    simp only [drop_append_cons]
    exact a.descriptionAfter_eq _ _ more

theorem Article.nameOf?_heading (a : Article) : Entry.nameOf? a.heading = some a.name := by
  have hafter : Text.after? Entry.marker a.heading = some ('\x60' :: (a.name ++ ['\x60'])) :=
    Text.after?_append Entry.marker _
  have hname : ('\x60' :: (a.name ++ ['\x60'])).filter (· ≠ '\x60') = a.name := by
    have hplain : a.name.filter (· ≠ '\x60') = a.name := by
      refine List.filter_eq_self.2 fun c hc => decide_eq_true ?_
      rintro rfl
      exact a.name_plain hc
    rw [List.filter_cons_of_neg (by decide), List.filter_append, hplain]
    exact List.append_nil _
  simp only [Entry.nameOf?, hafter, hname, if_neg a.name_ne.1]

theorem Article.isSentinel_name (a : Article) : Entry.isSentinel a.name = false := by
  simp [Entry.isSentinel, a.name_ne.2]

/-- The heading of an article is read with the sentence below it. -/
theorem Article.recordsOf_heading (a : Article) {kind : Section} (hkind : kind ≠ .other) (n : Int)
    (more : List Text) :
    recordsOf kind n a.heading (a.preamble ++ a.sentence :: more) = .ok [(kind, a.entry)] := by
  have hahead : Lookahead.ofLine? (a.preamble ++ a.sentence :: more)[1]? ≠ .heading := by
    rw [a.ofLine?_eq more]
    split
    · decide
    · decide
  have hentry : Reading.entry? (.described a.name a.sentence) = some a.entry := by
    rw [Reading.entry?, a.sentence_plain.startsLikeProse]
    rfl
  rw [recordsOf, if_neg hkind, readLine_of_nameOf?_some a.nameOf?_heading a.isSentinel_name, if_neg hahead,
    a.readDescription_eq n more]
  show Except.ok (Option.toList (Option.map (kind, ·) <| Reading.entry? (.described a.name a.sentence))) = _
  rw [hentry]
  rfl

theorem Article.inEffect_heading (a : Article) (s : Section) : s.inEffect [a.heading] = s := by
  refine s.inEffect_of_ofHeader?_none ?_
  rw [Section.ofHeader?, Option.map_eq_none_iff]
  rfl

/-- An article records its entry. -/
theorem Article.yields (a : Article) {kind : Section} (hkind : kind ≠ .other) :
    Yields kind a.lines kind [(kind, a.entry)] := by
  intro n more
  have hbelow := yields_passed (s := kind) (fun l hl => a.isPassed hl) (n + 1) more
  rw [Article.lines, List.cons_append, collect_cons, a.inEffect_heading]
  have hrecords : recordsOf kind n a.heading ((a.preamble ++ a.sentence :: a.trailing) ++ more) =
      .ok [(kind, a.entry)] := by
    rw [List.append_assoc, List.cons_append]
    exact a.recordsOf_heading hkind n _
  have hnumber : n + 1 + ((a.preamble ++ a.sentence :: a.trailing).length : Int) =
      n + ((a.heading :: (a.preamble ++ a.sentence :: a.trailing)).length : Int) := by
    rw [List.length_cons]
    omega
  rw [hrecords, hbelow, hnumber]
  show ((collect kind _ more).map ([] ++ ·)).map ([(kind, a.entry)] ++ ·) = _
  cases collect kind (n + ((a.heading :: (a.preamble ++ a.sentence :: a.trailing)).length : Int)) more with
  | error m => rfl
  | ok rs => rfl

/-! ### Chapters -/

theorem ofHeader?_title {kind : Section} {title : Text} (h : title? kind = some title) :
    Section.ofHeader? (Section.marker ++ title) = some kind := by
  cases kind with
  | other => cases h
  | _ => cases h; decide

theorem ofHeader?_of_unknown {title : Text} (h : ∀ kind, title? kind ≠ some title) :
    Section.ofHeader? (Section.marker ++ title) = some .other := by
  have hoptions : title ≠ "Options".toList := fun e => h .options (congrArg some e.symm)
  have hv8 : title ≠ "Useful V8 options".toList := fun e => h .v8Options (congrArg some e.symm)
  have henvironment : title ≠ "Environment variables".toList := fun e => h .environment (congrArg some e.symm)
  rw [Section.ofHeader?, Text.after?_append, Option.map_some, Section.ofTitle, if_neg hoptions, if_neg hv8,
    if_neg henvironment]

theorem kind_ne_other {kind : Section} {title : Text} (h : title? kind = some title) : kind ≠ .other := by
  rintro rfl
  cases h

/-- A header and the empty line below it open a section. -/
theorem yields_header {title : Text} {kind : Section}
    (h : Section.ofHeader? (Section.marker ++ title) = some kind) (s : Section) :
    Yields s [Section.marker ++ title, []] kind [] := by
  have hheader : Yields s [Section.marker ++ title] (s.inEffect [Section.marker ++ title]) [] :=
    yields_singleton fun n below => recordsOf_of_nameOf?_none (nameOf?_of_ofHeader?_some h) s n below
  rw [s.inEffect_of_ofHeader?_some h] at hheader
  have hempty : ∀ l ∈ [([] : Text)], IsPassed l := by
    intro l hl
    rw [List.mem_singleton.1 hl]
    exact isPassed_nil
  exact hheader.append (yields_passed hempty)

/-- A chapter records its entries, whatever section stands before it. -/
theorem Chapter.yields (c : Chapter) (s : Section) : Yields s c.lines c.kind c.records := by
  cases c with
  | recorded kind title articles known ordered =>
    have hall : Yields kind (articles.flatMap Article.lines) kind (articles.flatMap fun a => [(kind, a.entry)]) :=
      Yields.flatMap fun a _ => a.yields (kind_ne_other known)
    rw [← List.map_eq_flatMap] at hall
    exact (yields_header (ofHeader?_title known) s).append hall
  | passed title body line unknown body_line body_free =>
    exact (yields_header (ofHeader?_of_unknown unknown) s).append (yields_of_forall body_free (Or.inl rfl))

theorem yields_document (chapters : List Chapter) (s : Section) :
    ∃ t, Yields s (document chapters) t (chapters.flatMap Chapter.records) := by
  induction chapters generalizing s with
  | nil => exact ⟨s, Yields.nil s⟩
  | cons c chapters ih =>
    obtain ⟨t, ht⟩ := ih c.kind
    exact ⟨t, (c.yields s).append ht⟩

/-! ### Documents -/

theorem Chapter.filterMap_records (c : Chapter) {sections : List Section} (hother : .other ∉ sections)
    {f : Section × Entry → Option Entry} (hf : Selects sections f) :
    c.records.filterMap f = if c.kind ∈ sections then c.records.map Prod.snd else [] := by
  cases c with
  | passed title body line unknown body_line body_free =>
    show [] = if Section.other ∈ sections then [] else []
    rw [if_neg hother]
  | recorded kind title articles known ordered =>
    have hpick : f ∘ (fun a : Article => (kind, a.entry)) =
        fun a => if kind ∈ sections then some a.entry else none := by
      funext a
      exact hf kind a.entry (kind_ne_other known)
    show (articles.map fun a => (kind, a.entry)).filterMap f =
      if kind ∈ sections then (articles.map fun a => (kind, a.entry)).map Prod.snd else []
    rw [List.filterMap_map, hpick, List.map_map]
    by_cases hkind : kind ∈ sections
    · simp only [if_pos hkind]
      exact congrFun List.filterMap_eq_map articles
    · simp only [if_neg hkind]
      exact List.filterMap_none articles

/-- The records of a document in some sections are the entries written there. -/
theorem filterMap_records (chapters : List Chapter) {sections : List Section} (hother : .other ∉ sections)
    {f : Section × Entry → Option Entry} (hf : Selects sections f) :
    (chapters.flatMap Chapter.records).filterMap f = written sections chapters := by
  induction chapters with
  | nil => rfl
  | cons c chapters ih =>
    rw [List.flatMap_cons, List.filterMap_append, c.filterMap_records hother hf, ih, written, written]
    by_cases hkind : c.kind ∈ sections
    · rw [if_pos hkind, List.filter_cons_of_pos (by simpa using hkind), List.flatMap_cons]
    · rw [if_neg hkind, List.filter_cons_of_neg (by simpa using hkind), List.nil_append]

theorem variableTable_records (chapters : List Chapter) :
    variableTable (chapters.flatMap Chapter.records) = written [.environment] chapters :=
  filterMap_records chapters (by decide) selects_variables

theorem recordedFlags_records (chapters : List Chapter) :
    recordedFlags (chapters.flatMap Chapter.records) = written [.options, .v8Options] chapters :=
  filterMap_records chapters (by decide) selects_flags

/-- Every flag of a document has a place in the order of names. -/
theorem collatable_of_mem_written {chapters : List Chapter} {e : Entry}
    (h : e ∈ written [.options, .v8Options] chapters) : Collation.collatable e.name = true := by
  obtain ⟨c, hc, he⟩ := List.mem_flatMap.1 h
  have hkind : c.kind ∈ [Section.options, .v8Options] := by simpa using (List.mem_filter.1 hc).2
  cases c with
  | passed title body line unknown body_line body_free => exact absurd he List.not_mem_nil
  | recorded kind title articles known ordered =>
    have heither : kind = .options ∨ kind = .v8Options := by simpa [Chapter.kind] using hkind
    have hflags : kind.holdsFlags = true := by
      rcases heither with rfl | rfl
      · rfl
      · rfl
    obtain ⟨⟨t, e'⟩, hmem, rfl⟩ := List.mem_map.1 he
    obtain ⟨a, ha, hae⟩ := List.mem_map.1 hmem
    cases hae
    have hfree := ordered hflags a ha
    refine List.all_eq_true.2 ?_
    intro x hx
    have hne : x ≠ '\u0130' := by
      rintro rfl
      exact hfree hx
    simp [Unicode.hasLongLower, hne]

/-- A document records the same whether it is given in lines or as a text. -/
theorem collect_lines_unlines (chapters : List Chapter) (s : Section) :
    collect s 0 (Text.lines (Text.unlines (document chapters))) = .ok (chapters.flatMap Chapter.records) := by
  cases chapters with
  | nil =>
    have hempty : ∀ l ∈ [([] : Text)], IsPassed l := fun l hl => List.mem_singleton.1 hl ▸ isPassed_nil
    exact (yields_passed hempty).collect 0
  | cons c chapters =>
    have hne : document (c :: chapters) ≠ [] := by
      cases c <;> exact List.cons_ne_nil _ _
    obtain ⟨t, ht⟩ := yields_document (c :: chapters) s
    rw [Text.lines_unlines hne fun l hl => not_mem_document hl]
    exact ht.collect 0

/-- **Reading undoes writing.**  A document of chapters is read without a defect, from its lines or from its text and in
any section at its start.  Its environment variables are the entries written under them, one for one; its flags are the
table of the latest entries written under the two sections of options. -/
theorem extract_document (chapters : List Chapter) (s : Section) :
    ∃ t, extract s (document chapters) = .ok t ∧
      extract s (Text.lines (Text.unlines (document chapters))) = .ok t ∧
      t.environment = written [.environment] chapters ∧
      IsFlagTable (written [.options, .v8Options] chapters) t.flags := by
  obtain ⟨u, hu⟩ := yields_document chapters s
  have hflags := (holdsLatest_flagTable (chapters.flatMap Chapter.records)).isFlagTable_sortOn
  have hnames : ∀ e ∈ Collation.sortOn Entry.name (flagTable (chapters.flatMap Chapter.records)),
      Collation.collatable e.name = true := by
    intro e he
    have hmem := hflags.mem_recorded he
    rw [recordedFlags_records] at hmem
    exact collatable_of_mem_written hmem
  refine ⟨_, extract_eq_of_isFlagTable (hu.collect 0) hflags hnames,
    extract_eq_of_isFlagTable (collect_lines_unlines chapters s) hflags hnames, variableTable_records chapters, ?_⟩
  rw [← recordedFlags_records]
  exact hflags

/-! ### A manual of four chapters -/

/-- An article of a heading and a sentence. -/
def Article.brief (name sentence : Text) (name_line : '\n' ∉ name) (name_plain : '\x60' ∉ name)
    (name_ne : name ≠ [] ∧ name ≠ ['-'] ∧ name ≠ ['-', '-']) (sentence_plain : IsSentence sentence) : Article where
  name := name
  remark? := none
  quotation := []
  sentence := sentence
  trailing := []
  name_line := name_line
  name_plain := name_plain
  name_ne := name_ne
  quotation_quoted := List.forall_mem_nil _
  sentence_plain := sentence_plain
  trailing_passed := List.forall_mem_nil _

/-- An article with a comment, a quotation and a line below its sentence. -/
def stableArticle : Article where
  name := "--x".toList
  remark? := some
    { opening := "<!-- YAML".toList
      body := ["added: 1".toList]
      opening_line := by decide
      opening_opens := rfl
      body_passed := by decide +kernel
      body_open := by decide }
  quotation := ["> Stability: 2".toList, []]
  sentence := "Does x.".toList
  trailing := ["Rarely. Never `y`.".toList]
  name_line := by decide
  name_plain := by decide
  name_ne := by decide
  quotation_quoted := by decide +kernel
  sentence_plain := by decide +kernel
  trailing_passed := by decide +kernel

/-- A manual with two chapters of flags, which share a flag, one of other matters and one of variables. -/
def manual : List Chapter :=
  [.recorded .options "Options".toList
      [.brief "-a".toList "Does a.".toList (by decide) (by decide) (by decide) (by decide +kernel), stableArticle] rfl
      (by decide),
    .passed "See also".toList ["### node".toList] (by decide)
      (fun kind => by cases kind <;> decide) (by decide) (by decide),
    .recorded .v8Options "Useful V8 options".toList
      [.brief "--x".toList "Does more.".toList (by decide) (by decide) (by decide) (by decide +kernel)] rfl (by decide),
    .recorded .environment "Environment variables".toList
      [.brief "PATH".toList "Tells where.".toList (by decide) (by decide) (by decide) (by decide +kernel)] rfl
      (by decide)]

/-- Of the manual, the later entry of the shared flag is read, and the flags are in order. -/
theorem extract_manual :
    document manual =
        ["## Options", "", "### `-a`", "", "Does a.", "### `--x`", "", "<!-- YAML", "added: 1", "-->", "",
          "> Stability: 2", "", "Does x.", "Rarely. Never `y`.", "## See also", "", "### node",
          "## Useful V8 options", "", "### `--x`", "", "Does more.", "## Environment variables", "", "### `PATH`", "",
          "Tells where."].map String.toList ∧
      ∃ t, extract .other (document manual) = .ok t ∧
        extract .other (Text.lines (Text.unlines (document manual))) = .ok t ∧
        t.environment = [⟨"PATH".toList, "Tells where.".toList⟩] ∧
        t.flags = [⟨"--x".toList, "Does more.".toList⟩, ⟨"-a".toList, "Does a.".toList⟩] := by
  let old : Entry := ⟨"--x".toList, "Does x.".toList⟩
  let other : Entry := ⟨"-a".toList, "Does a.".toList⟩
  let new : Entry := ⟨"--x".toList, "Does more.".toList⟩
  have htable : IsFlagTable [other, old, new] [new, other] := by
    have hsub : [new, other].map Entry.name ⊆ [other, old, new].map Entry.name := by decide
    have hsup : [other, old, new].map Entry.name ⊆ [new, other].map Entry.name := by decide
    exact
      { nodup := by decide
        names := fun n => ⟨fun h => hsub h, fun h => hsup h⟩
        latest := by decide
        ties := by decide +kernel
        sorted := by decide +kernel }
  obtain ⟨t, hlines, htext, henvironment, hflags⟩ := extract_document manual .other
  exact ⟨by decide +kernel, t, hlines, htext, henvironment, hflags.unique htable⟩

end Canonical

end Manpage
