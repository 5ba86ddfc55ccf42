import Manpage.Page.Assembly
import Manpage.Proofs.Page.Flag
import Manpage.Proofs.Page.Mention
import Manpage.Proofs.Reference.Contents

/-!
# The page documents its flags

* `flagHead_eq` — in the head of an item each spelling of the flag stands as a macro of its own;
* `mentions_ofTables` — so a page mentions every spelling of every flag in its table;
* `not_mem_undocumented_ofText` — and none of them is reported when the page is checked against a list of options.
-/

namespace Manpage.Page

open Unicode

/-! ### The head of an item -/

/-- What stands in front of a text in a list is empty or ends as the separator does. -/
theorem flatMap_append_eq_nil_or (us : List Text) (sep : Text) (c : Char) :
    us.flatMap (· ++ (sep ++ [c])) = [] ∨ ∃ v, us.flatMap (· ++ (sep ++ [c])) = v ++ [c] := by
  rcases List.eq_nil_or_concat us with rfl | ⟨us, u, rfl⟩
  · exact Or.inl rfl
  · refine Or.inr ⟨us.flatMap (· ++ (sep ++ [c])) ++ (u ++ sep), ?_⟩
    rw [List.concat_eq_append, List.flatMap_append, List.flatMap_singleton]
    simp only [List.append_assoc]

theorem eq_nil_or_of_isPrefix {t u : Text} {c : Char} (h : t <+: u) (hu : u = [] ∨ ∃ v, u = c :: v) :
    t = [] ∨ ∃ v, t = c :: v := by
  cases t with
  | nil => exact Or.inl rfl
  | cons d t =>
    obtain ⟨w, rfl⟩ := h
    rcases hu with hu | ⟨v, hu⟩
    · cases hu
    · exact Or.inr ⟨t, by rw [(List.cons.inj hu).1]⟩

/-- A head opens with a macro, so that nothing is trimmed off its front. -/
theorem trimStart_joined_text (sep : Text) (spellings : List Text) :
    Text.trimStart (Text.joined sep (spellings.map Flag.text)) = Text.joined sep (spellings.map Flag.text) := by
  cases spellings with
  | nil => rfl
  | cons a spellings =>
    rw [List.map_cons, Text.joined_cons_eq_flatMap]
    rfl

theorem lineFeed_not_mem_spellings {spellings : List Text} (h : ∀ b ∈ spellings, '\n' ∉ b) :
    '\n' ∉ (spellings.map Flag.text).flatMap (· ++ " , ".toList) := by
  intro hmem
  obtain ⟨d, hd, hmem⟩ := List.mem_flatMap.1 hmem
  obtain ⟨b, hb, rfl⟩ := List.mem_map.1 hd
  rcases List.mem_append.1 hmem with hmem | hmem
  · exact Flag.lineFeed_not_mem_text (h b hb) hmem
  · exact absurd hmem (by decide)

/-- What follows a name in the head, its value and further spellings, is empty or set off by a space. -/
theorem valueText_append_eq_nil_or (a : Text) (spellings : List Text) :
    Flag.valueText a ++ (spellings.map Flag.text).flatMap (" , ".toList ++ ·) = [] ∨
      ∃ v, Flag.valueText a ++ (spellings.map Flag.text).flatMap (" , ".toList ++ ·) = ' ' :: v := by
  rcases Flag.valueText_eq_nil_or a with h | ⟨v, h⟩
  · rw [h]
    cases spellings with
    | nil => exact Or.inl rfl
    | cons b spellings => exact Or.inr ⟨_, rfl⟩
  · rw [h]
    exact Or.inr ⟨_, rfl⟩

/-- In the head of an item each spelling stands as a macro of its own, at the start or behind a space, and the name in
it ends with the head or before a space.  Trimming the head takes nothing off a name. -/
theorem flagHead_eq {name a : Text} (ha : a ∈ Flag.aliases name) (hname : '\n' ∉ name)
    (hblank : ∀ c ∈ Flag.stem a, isBlank c = false) (hne : Flag.dropDash (Flag.stem a) ≠ []) :
    ∃ t u, flagHead name = t ++ ("Fl ".toList ++ Flag.dropDash (Flag.stem a) ++ u) ∧ '\n' ∉ t ∧
      (t = [] ∨ ∃ v, t = v ++ [' ']) ∧ (u = [] ∨ ∃ v, u = ' ' :: v) := by
  obtain ⟨bs, cs, hsplit⟩ := List.append_of_mem ha
  obtain ⟨m, c, hm⟩ := (List.eq_nil_or_concat (Flag.dropDash (Flag.stem a))).resolve_left hne
  rw [List.concat_eq_append] at hm
  have hc : isBlank c = false :=
    hblank c (Flag.mem_of_mem_dropDash (hm ▸ List.mem_append_right m (List.mem_singleton_self c)))
  have hbs : ∀ b ∈ bs, '\n' ∉ b := by
    intro b hb hmem
    exact hname (Flag.mem_of_mem_aliases (hsplit ▸ List.mem_append_left _ hb) hmem)
  let before := (bs.map Flag.text).flatMap (· ++ " , ".toList)
  let rest := Flag.valueText a ++ (cs.map Flag.text).flatMap (" , ".toList ++ ·)
  have hhead : Text.joined " , ".toList ((Flag.aliases name).map Flag.text) =
      (before ++ "Fl ".toList ++ m) ++ c :: rest := by
    rw [hsplit, List.map_append, List.map_cons, Text.joined_append_cons, Flag.text, hm]
    simp only [before, rest, List.append_assoc, List.cons_append, List.nil_append]
  refine ⟨before, Text.trimEnd rest, ?_, lineFeed_not_mem_spellings hbs, ?_, ?_⟩
  · -- the name ends in a character that is not white space, and trimming stops there
    rw [flagHead, Text.trim, trimStart_joined_text, hhead, Text.trimEnd_append_cons _ hc, hm]
    simp only [List.append_assoc, List.singleton_append]
  · exact flatMap_append_eq_nil_or (bs.map Flag.text) [' ', ','] ' '
  · exact eq_nil_or_of_isPrefix (Text.isPrefix_trimEnd rest) (valueText_append_eq_nil_or a cs)

/-! ### Items on the page -/

theorem isWholeLines_flatMap_separator (items : List Text) : IsWholeLines (items.flatMap (· ++ separator)) := by
  rcases flatMap_append_eq_nil_or items ['\n', '.'] '\n' with h | ⟨v, h⟩
  · exact Or.inl h
  · right
    show (items.flatMap (· ++ (['\n', '.'] ++ ['\n']))).getLast? = some '\n'
    rw [h, List.getLast?_concat]

theorem item_append (head description more : Text) :
    item head description ++ more = ".It ".toList ++ (head ++ '\n' :: (description ++ more)) := by
  -- with a variable for the marker, which need not be spelled out
  have hmarker (m : Text) :
      m ++ head ++ '\n' :: description ++ more = m ++ (head ++ '\n' :: (description ++ more)) := by
    simp only [List.append_assoc, List.cons_append]
  exact hmarker _

/-- The item of a flag stands behind those of the flags before it. -/
theorem flagItems_append_cons (front : List Entry) (e : Entry) (back : List Entry) :
    flagItems (front ++ e :: back) =
      (front.map flagItem).flatMap (· ++ separator) ++
        (flagItem e ++ ((back.map flagItem).flatMap (separator ++ ·) ++ separator)) := by
  rw [flagItems, itemList, List.map_append, List.map_cons, Text.joined_append_cons]
  simp only [List.append_assoc]

/-- A page mentions every spelling of every flag in its table, as long as the block in front of the list is made of
whole lines. -/
theorem mentions_ofTables {frame : Frame} (hheader : IsWholeLines frame.header) {t : Tables} {e : Entry}
    (he : e ∈ t.flags) (hname : '\n' ∉ e.name) {a : Text} (ha : a ∈ Flag.aliases e.name)
    (hblank : ∀ c ∈ Flag.stem a, isBlank c = false) (hne : Flag.dropDash (Flag.stem a) ≠ []) :
    mentions (Flag.dropDash (Flag.stem a)) (ofTables frame t) = true := by
  obtain ⟨front, back, hsplit⟩ := List.append_of_mem he
  obtain ⟨u, v, hhead, hline, hstart, hend⟩ := flagHead_eq ha hname hblank hne
  let before := frame.header ++ (front.map flagItem).flatMap (· ++ separator)
  let rest := '\n' :: (e.description ++ ((back.map flagItem).flatMap (separator ++ ·) ++ separator ++
    frame.variableHeader ++ variableItems t.environment ++ frame.footer ++ ['\n']))
  have hpage : ofTables frame t = before ++ (".It ".toList ++ (flagHead e.name ++ rest)) := by
    rw [ofTables, assemble, hsplit, flagItems_append_cons, flagItem]
    simp only [before, rest, List.append_assoc, List.cons_append, item_append]
  have hrest : atWordEnd (v ++ rest) = true := by
    rcases hend with rfl | ⟨w, rfl⟩
    · rfl
    · rfl
  rw [hpage, hhead, List.append_assoc u, List.append_assoc _ v]
  refine mentions_append (hheader.append (isWholeLines_flatMap_separator _)) (opensWithItem_append _ hline ?_ hrest)
  rcases hstart with h | ⟨w, h⟩
  · exact Or.inl h
  · exact Or.inr ⟨w, ' ', h, rfl⟩

/-! ### The check of a compiled page -/

/-- **A page documents its flags.**  Let a document compile behind a block of whole lines.  Then for every flag in its
table and every spelling in the name of that flag, the spelling cut before its value is not reported as undocumented,
whatever list of options the page is checked against, provided that it holds no white space and is more than a dash. -/
theorem not_mem_undocumented_ofText {frame : Frame} (hheader : IsWholeLines frame.header) {source page : Text}
    (hpage : ofText frame source = .ok page) :
    ∃ t, extract .other (Text.lines source) = .ok t ∧
      ∀ e ∈ t.flags, ∀ a ∈ Flag.aliases e.name, ∀ s, Flag.IsCut a s → (∀ c ∈ s, isBlank c = false) →
        Flag.dropDash s ≠ [] → ∀ options, s ∉ undocumented options page := by
  unfold ofText at hpage
  cases hextract : extract .other (Text.lines source) with
  | error m =>
    rw [hextract] at hpage
    cases hpage
  | ok t =>
    rw [hextract] at hpage
    obtain rfl := Except.ok.inj hpage
    refine ⟨t, rfl, ?_⟩
    intro e he a ha s hcut hblank hne options hmem
    rw [hcut.eq_stem] at hblank hne hmem
    obtain ⟨l, hl, hname⟩ := exists_nameOf?_of_mem_flags hextract he
    have hlf : '\n' ∉ e.name := lineFeed_not_mem_name hname (Text.not_mem_of_mem_pieces hl)
    have hmentions := mentions_ofTables hheader he hlf ha hblank hne
    rw [(mem_undocumented.1 hmem).2] at hmentions
    cases hmentions

/-- A page with one flag of two spellings documents the second of them. -/
theorem not_mem_undocumented_conditions :
    ∃ page, ofText ⟨".Bl\n".toList, ".El\n.Bl\n".toList, ".El".toList⟩
        "## Options\n\n### `-C condition`, `--conditions[=condition]`\n\nAdds a condition.".toList = .ok page ∧
      "--conditions".toList ∉ undocumented ["--input".toList, "--conditions".toList] page := by
  have hextract : extract .other (Text.lines
      "## Options\n\n### `-C condition`, `--conditions[=condition]`\n\nAdds a condition.".toList) =
        .ok ⟨[⟨"-C condition, --conditions[=condition]".toList, "Adds a condition.".toList⟩], []⟩ := by
    decide +kernel
  have hpage := congrArg (Except.map (ofTables ⟨".Bl\n".toList, ".El\n.Bl\n".toList, ".El".toList⟩)) hextract
  obtain ⟨t, ht, hflags⟩ := not_mem_undocumented_ofText (Or.inr rfl) hpage
  obtain rfl := Except.ok.inj (hextract.symm.trans ht)
  have hblank : ∀ c ∈ "--conditions".toList, isBlank c = false := by
    have hall : "--conditions".toList.all (!isBlank ·) = true := by decide
    intro c hc
    simpa only [Bool.not_eq_true'] using List.all_eq_true.1 hall c hc
  refine ⟨_, hpage, ?_⟩
  exact hflags _ List.mem_cons_self "--conditions[=condition]".toList (by decide) "--conditions".toList
    (Flag.isCut_iff.2 (by decide)) hblank (by decide) _

end Manpage.Page
