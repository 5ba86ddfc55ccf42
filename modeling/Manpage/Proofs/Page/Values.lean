import Manpage.Page.Items
import Manpage.Proofs.Page.Flag

/-!
# Values on the page

A spelling gives its value after an equals sign, or in brackets with the equals sign if the value may be left out.  On
the page the value stands behind the name, and where an entry has one spelling it ends the line of the item.

* `Flag.withValue`, `Flag.withOptionalValue` — the two spellings of a name with a value;
* `Flag.isBalanced` — texts whose brackets close one another; `Flag.isBalanced_dropBracket_iff`: taking a bracket off the
  end keeps one balanced only if there is none;
* `Flag.value?_append` — the value is looked for behind the first equals sign and ends at the next break;
  `Flag.text_of_spellings` — so a value is shown whole in brackets, and without them unless it ends in one, as in
  `Flag.not_text_shows_value`;
* `Page.uptoEquals` — what a value holds in front of an equals sign of its own;
* `Page.flagHead_keyed`, `Page.variableHead_keyed` — the heads of an entry that is named with a value;
  `Page.items_of_keyed_value` — both leave out what follows a second equals sign, as in `Page.not_items_show_value`.
-/

namespace Manpage.Flag

/-! ### Spellings with a value -/

/-- A name with its value. -/
def withValue (base v : Text) : Text := base ++ '=' :: v

/-- A name with a value that may be left out. -/
def withOptionalValue (base v : Text) : Text := base ++ '[' :: '=' :: (v ++ [']'])

theorem forall_isBreak_eq_false {t : Text} (hequals : '=' ∉ t) (hspace : ' ' ∉ t) : ∀ c ∈ t, isBreak c = false := by
  intro c hc
  have hne : c ≠ '=' := fun h => hequals (h ▸ hc)
  have hne' : c ≠ ' ' := fun h => hspace (h ▸ hc)
  simp [isBreak, hne, hne']

theorem stem_withValue {base : Text} (hbase : ∀ c ∈ base, isBreak c = false) (hlast : base.getLast? ≠ some '[')
    (v : Text) : stem (withValue base v) = base :=
  (isCut_iff.1 (.plain hbase hlast rfl v)).symm

theorem stem_withOptionalValue {base : Text} (hbase : ∀ c ∈ base, isBreak c = false) (v : Text) :
    stem (withOptionalValue base v) = base :=
  (isCut_iff.1 (.bracket hbase rfl (v ++ [']']))).symm

/-- The value of a spelling stands behind the first equals sign and ends before the next break. -/
theorem value?_append {s : Text} (hs : ∀ c ∈ s, isBreak c = false) {t : Text} (ht : t.takeWhile (!isBreak ·) ≠ []) :
    value? (s ++ '=' :: t) = some (dropBracket (t.takeWhile (!isBreak ·))) := by
  have hbreak : isBreak '=' = true := rfl
  have hrest : (s ++ '=' :: t).dropWhile (!isBreak ·) = '=' :: t := by
    rw [List.dropWhile_append_of_pos (by simpa using hs), List.dropWhile_cons_of_neg (by simp [hbreak])]
  rw [value?, hrest]
  exact if_neg ht

theorem takeWhile_of_forall_not_isBreak {v : Text} (hv : ∀ c ∈ v, isBreak c = false) :
    v.takeWhile (!isBreak ·) = v := by
  rw [List.takeWhile_eq_self_iff]
  simpa using hv

/-! ### Brackets -/

theorem dropBracket_append (v : Text) : dropBracket (v ++ [']']) = v := by
  induction v with
  | nil => rfl
  | cons c v ih =>
    cases v with
    | nil => rfl
    | cons d v => exact congrArg (c :: ·) ih

theorem dropBracket_of_getLast?_ne {v : Text} (h : v.getLast? ≠ some ']') : dropBracket v = v := by
  fun_induction dropBracket v with
  | case1 => rfl
  | case2 => exact absurd rfl h
  | case3 c hc => rfl
  | case4 c d t ih =>
    rw [List.getLast?_cons_cons] at h
    rw [ih h]

/-- A bracket is taken off the end exactly if there is one. -/
theorem dropBracket_eq_self_iff {v : Text} : dropBracket v = v ↔ v.getLast? ≠ some ']' := by
  constructor
  · intro h hlast
    obtain ⟨u, rfl⟩ := List.getLast?_eq_some_iff.1 hlast
    rw [dropBracket_append] at h
    have hlength := congrArg List.length h
    simp at hlength
  · exact dropBracket_of_getLast?_ne

/-- Whether the brackets of a text close one another, and those that are open before it. -/
def closesBrackets : (depth : Nat) → Text → Bool
  | depth, [] => depth == 0
  | depth, c :: t =>
    if c = '[' then closesBrackets (depth + 1) t
    else if c = ']' then
      match depth with
      | 0 => false
      | outer + 1 => closesBrackets outer t
    else closesBrackets depth t

/-- Whether the brackets of a text close one another. -/
def isBalanced (t : Text) : Bool := closesBrackets 0 t

/-- As many brackets close as open, those before the text included. -/
theorem count_of_closesBrackets {depth : Nat} {t : Text} (h : closesBrackets depth t = true) :
    depth + t.count '[' = t.count ']' := by
  fun_induction closesBrackets depth t with
  | case1 depth => simpa using h
  | case2 depth t ih =>
    have hrest := ih h
    simp only [List.count_cons_self, List.count_cons_of_ne (show '[' ≠ ']' by decide)]
    omega
  | case3 t hopen => cases h
  | case4 t hopen outer ih =>
    have hrest := ih h
    simp only [List.count_cons_self, List.count_cons_of_ne (show ']' ≠ '[' by decide)]
    omega
  | case5 depth c t hopen hclose ih =>
    rw [List.count_cons_of_ne hopen, List.count_cons_of_ne hclose]
    exact ih h

/-- Less a bracket at its end, a balanced text is not balanced any more. -/
theorem isBalanced_dropBracket_iff {v : Text} (h : isBalanced v = true) :
    isBalanced (dropBracket v) = true ↔ v.getLast? ≠ some ']' := by
  constructor
  · intro hdropped hlast
    obtain ⟨u, rfl⟩ := List.getLast?_eq_some_iff.1 hlast
    rw [dropBracket_append] at hdropped
    have hu := count_of_closesBrackets hdropped
    have hv := count_of_closesBrackets h
    rw [List.count_append, List.count_append] at hv
    simp only [List.count_singleton_self, List.count_singleton] at hv
    simp at hv
    omega
  · intro hlast
    rwa [dropBracket_of_getLast?_ne hlast]

/-! ### Spellings with brackets in the value -/

/-- A value in brackets ends before the last bracket of its spelling. -/
theorem value?_withOptionalValue {base v : Text} (hbase : ∀ c ∈ base, isBreak c = false)
    (hv : ∀ c ∈ v, isBreak c = false) : value? (withOptionalValue base v) = some v := by
  have hopen : ∀ c ∈ base ++ ['['], isBreak c = false :=
    List.forall_mem_append.2 ⟨hbase, List.forall_mem_singleton.2 rfl⟩
  have hclosed : ∀ c ∈ v ++ [']'], isBreak c = false :=
    List.forall_mem_append.2 ⟨hv, List.forall_mem_singleton.2 rfl⟩
  have hwhole := takeWhile_of_forall_not_isBreak hclosed
  have hvalue := value?_append hopen (t := v ++ [']']) (by simp [hwhole])
  rw [hwhole, dropBracket_append, List.append_assoc] at hvalue
  exact hvalue

theorem value?_withValue {base v : Text} (hbase : ∀ c ∈ base, isBreak c = false) (hv : ∀ c ∈ v, isBreak c = false)
    (hne : v ≠ []) : value? (withValue base v) = some (dropBracket v) := by
  have hwhole := takeWhile_of_forall_not_isBreak hv
  have hvalue := value?_append hbase (t := v) (by rwa [hwhole])
  rwa [hwhole] at hvalue

/-- On the page a spelling with a value is its name, less a dash, and its value behind an equals sign. -/
theorem text_of_value? {flag v : Text} (h : value? flag = some v) :
    valueText flag = " Ns = Ns Ar ".toList ++ v ∧
      text flag = "Fl ".toList ++ dropDash (stem flag) ++ " Ns = Ns Ar ".toList ++ v := by
  have hvalue : valueText flag = " Ns = Ns Ar ".toList ++ v := by rw [valueText, h]
  refine ⟨hvalue, ?_⟩
  rw [text, hvalue]
  simp only [List.append_assoc]

/-- A value that ends in a bracket of its own is not shown whole. -/
theorem not_text_shows_value :
    ¬ ∀ base v : Text, '=' ∉ base → ' ' ∉ base → base.getLast? ≠ some '[' → v ≠ [] → '=' ∉ v → ' ' ∉ v →
      isBalanced v = true → valueText (withValue base v) = " Ns = Ns Ar ".toList ++ v := by
  intro h
  have hhost := h "--listen".toList "[host]".toList (by decide) (by decide) (by decide) (by decide) (by decide)
    (by decide) (by decide)
  exact absurd hhost (by decide)

/-- **Values with brackets.**  Let a name hold no break and not end in an opening bracket, and let a value be non-empty,
without a break, and balanced.  In brackets, the value is shown whole behind the name less a dash.  Without them, one
closing bracket is taken off its end: it is shown whole, and what is shown is balanced, exactly if it does not end in
one. -/
theorem text_of_spellings {base v : Text} (hequals : '=' ∉ base) (hspace : ' ' ∉ base)
    (hlast : base.getLast? ≠ some '[') (hne : v ≠ []) (hequals' : '=' ∉ v) (hspace' : ' ' ∉ v)
    (hbalanced : isBalanced v = true) :
    (valueText (withOptionalValue base v) = " Ns = Ns Ar ".toList ++ v ∧
      text (withOptionalValue base v) = "Fl ".toList ++ dropDash base ++ " Ns = Ns Ar ".toList ++ v) ∧
    (valueText (withValue base v) = " Ns = Ns Ar ".toList ++ dropBracket v ∧
      text (withValue base v) = "Fl ".toList ++ dropDash base ++ " Ns = Ns Ar ".toList ++ dropBracket v) ∧
    (valueText (withValue base v) = " Ns = Ns Ar ".toList ++ v ↔ v.getLast? ≠ some ']') ∧
    (isBalanced (dropBracket v) = true ↔ v.getLast? ≠ some ']') := by
  have hbase := forall_isBreak_eq_false hequals hspace
  have hv := forall_isBreak_eq_false hequals' hspace'
  have hoptional := text_of_value? (value?_withOptionalValue hbase hv)
  have hplain := text_of_value? (value?_withValue hbase hv hne)
  rw [stem_withOptionalValue hbase] at hoptional
  rw [stem_withValue hbase hlast] at hplain
  refine ⟨hoptional, hplain, ?_, isBalanced_dropBracket_iff hbalanced⟩
  rw [hplain.1, List.append_cancel_left_eq, dropBracket_eq_self_iff]

/-- A host in brackets before a port is shown in both spellings; on its own it loses a bracket in one of them. -/
theorem text_of_spellings_of_host :
    text "--inspect[=[host:]port]".toList = "Fl -inspect Ns = Ns Ar [host:]port".toList ∧
      text "--inspect=[host:]port".toList = "Fl -inspect Ns = Ns Ar [host:]port".toList ∧
      text "--inspect[=[host]]".toList = "Fl -inspect Ns = Ns Ar [host]".toList ∧
      text "--inspect=[host]".toList = "Fl -inspect Ns = Ns Ar [host".toList ∧
      isBalanced "[host".toList = false := by
  obtain ⟨⟨-, hoptional⟩, ⟨-, hplain⟩, -, -⟩ :=
    @text_of_spellings "--inspect".toList "[host:]port".toList (by decide) (by decide) (by decide) (by decide)
      (by decide) (by decide) (by decide)
  obtain ⟨⟨-, hoptional'⟩, ⟨-, hplain'⟩, -, hbalanced⟩ :=
    @text_of_spellings "--inspect".toList "[host]".toList (by decide) (by decide) (by decide) (by decide) (by decide)
      (by decide) (by decide)
  exact ⟨hoptional, hplain, hoptional', hplain', Bool.eq_false_iff.2 fun h => hbalanced.1 h rfl⟩

end Manpage.Flag

namespace Manpage.Page

open Unicode

variable {k v : Text}

/-! ### Values with equals signs -/

/-- A value up to its first equals sign. -/
def uptoEquals (v : Text) : Text := v.takeWhile (· ≠ '=')

theorem uptoEquals_ne_nil (hne : v ≠ []) (hstart : v.head? ≠ some '=') : uptoEquals v ≠ [] := by
  cases v with
  | nil => exact absurd rfl hne
  | cons c v =>
    have hc : c ≠ '=' := fun h => hstart (congrArg some h)
    simp [uptoEquals, hc]

theorem uptoEquals_of_not_mem (h : '=' ∉ v) : uptoEquals v = v := by
  rw [uptoEquals, List.takeWhile_eq_self_iff]
  intro c hc
  exact decide_eq_true fun heq => h (heq ▸ hc)

theorem equals_not_mem_uptoEquals (v : Text) : '=' ∉ uptoEquals v := by
  intro h
  have hc := List.mem_takeWhile_imp h
  simp at hc

/-- In a value without spaces only an equals sign is a break. -/
theorem takeWhile_not_isBreak (hspace : ' ' ∉ v) : v.takeWhile (!Flag.isBreak ·) = uptoEquals v := by
  induction v with
  | nil => rfl
  | cons c v ih =>
    rw [List.mem_cons, not_or] at hspace
    have hc : (!Flag.isBreak c) = decide (c ≠ '=') := by simp [Flag.isBreak, Ne.symm hspace.1]
    rw [uptoEquals] at ih ⊢
    rw [List.takeWhile_cons, List.takeWhile_cons, hc, ih hspace.2]

/-! ### Heads of items -/

/-- A variable is shown with what stands between the first equals sign of its name and the second. -/
theorem variableHead_keyed (hk : '=' ∉ k) (hv : uptoEquals v ≠ []) :
    variableHead (Flag.withValue k v) = "Ev ".toList ++ k ++ " Ar ".toList ++ uptoEquals v := by
  obtain ⟨ps, hps⟩ := Text.exists_pieces_eq_cons '=' v
  have hpieces : Text.pieces '=' (Flag.withValue k v) = k :: uptoEquals v :: ps := by
    rw [Flag.withValue, Text.pieces_append hk, hps, uptoEquals]
  simp only [variableHead, hpieces]
  rw [if_neg hv, List.append_assoc]
  simp only [List.append_assoc]

/-- So is a flag, if its value holds no space and no closing bracket; white space is trimmed off the end of what is shown. -/
theorem flagHead_keyed (hk : ∀ c ∈ k, Flag.isBreak c = false) (hspace : ' ' ∉ v) (hbracket : ']' ∉ v)
    (hv : uptoEquals v ≠ []) :
    flagHead (Flag.withValue k v) =
      "Fl ".toList ++ Flag.dropDash (Flag.stem (Flag.withValue k v)) ++ " Ns = Ns Ar".toList ++
        Text.trimEnd (' ' :: uptoEquals v) := by
  have halone : Flag.aliases (Flag.withValue k v) = [Flag.withValue k v] := by
    refine Flag.aliases_of_not_mem ?_
    simp only [Flag.withValue, List.mem_append, List.mem_cons, not_or]
    exact ⟨fun hmem => absurd (hk ' ' hmem) (by decide), by decide, hspace⟩
  have hpart := takeWhile_not_isBreak hspace
  have hkept : Flag.dropBracket (uptoEquals v) = uptoEquals v := by
    refine Flag.dropBracket_of_getLast?_ne fun hlast => hbracket ?_
    exact (List.takeWhile_sublist _).subset (List.mem_of_getLast? hlast)
  have hvalue := Flag.value?_append hk (t := v) (by rwa [hpart])
  rw [hpart, hkept] at hvalue
  obtain ⟨-, htext⟩ := Flag.text_of_value? hvalue
  -- the line is trimmed at its end, where the last character sure to be kept is that of the macro
  have hsplit : Flag.text (Flag.withValue k v) =
      ("Fl ".toList ++ Flag.dropDash (Flag.stem (Flag.withValue k v)) ++ " Ns = Ns A".toList) ++
        'r' :: (' ' :: uptoEquals v) := by
    rw [Flag.withValue, htext]
    simp only [List.append_assoc]
    rfl
  have hstart : Text.trimStart (Flag.text (Flag.withValue k v)) = Flag.text (Flag.withValue k v) :=
    Text.trimStart_cons_of_not_blank (by decide) _
  rw [flagHead, halone]
  show Text.trimEnd (Text.trimStart (Flag.text (Flag.withValue k v))) = _
  rw [hstart, hsplit, Text.trimEnd_append_cons _ (by decide)]
  simp only [List.append_assoc]
  rfl

/-! ### Ends of item lines -/

/-- An item with the given text at the end of its line. -/
def EndsItemLine (shown description t : Text) : Prop :=
  ∃ front, t = ".It ".toList ++ front ++ shown ++ '\n' :: description

theorem endsItemLine_item {shown head description : Text} :
    EndsItemLine shown description (item head description) ↔ shown <:+ head := by
  show (∃ front, ".It ".toList ++ head ++ '\n' :: description = ".It ".toList ++ front ++ shown ++ '\n' :: description) ↔
    shown <:+ head
  simp only [List.append_assoc, List.append_cancel_left_eq]
  constructor
  · rintro ⟨front, h⟩
    rw [← List.append_assoc] at h
    exact ⟨front, (List.append_cancel_right h).symm⟩
  · rintro ⟨front, rfl⟩
    exact ⟨front, by rw [List.append_assoc]⟩

/-- The line of a variable ends with the whole value exactly if the value holds no equals sign. -/
theorem isSuffix_variableHead_iff (hk : '=' ∉ k) (hne : v ≠ []) (hstart : v.head? ≠ some '=') :
    "Ar ".toList ++ v <:+ variableHead (Flag.withValue k v) ↔ '=' ∉ v := by
  rw [variableHead_keyed hk (uptoEquals_ne_nil hne hstart)]
  constructor
  · intro h hmem
    have hhead := h.subset (List.mem_append_right _ hmem)
    simp only [List.mem_append] at hhead
    rcases hhead with ((hhead | hhead) | hhead) | hhead
    · exact absurd hhead (by decide)
    · exact hk hhead
    · exact absurd hhead (by decide)
    · exact equals_not_mem_uptoEquals v hhead
  · intro h
    rw [uptoEquals_of_not_mem h]
    exact ⟨"Ev ".toList ++ k ++ [' '], by simp only [List.append_assoc]; rfl⟩

/-- The line of such a flag holds one equals sign, in front of the value. -/
theorem count_flagHead_keyed (hk : ∀ c ∈ k, Flag.isBreak c = false) (hspace : ' ' ∉ v) (hbracket : ']' ∉ v)
    (hv : uptoEquals v ≠ []) : (flagHead (Flag.withValue k v)).count '=' = 1 := by
  have hstem : (Flag.dropDash (Flag.stem (Flag.withValue k v))).count '=' = 0 := by
    refine List.count_eq_zero.2 fun hmem => ?_
    exact absurd (Flag.isBreak_of_mem_stem (Flag.mem_of_mem_dropDash hmem)) (by decide)
  have hshown : (Text.trimEnd (' ' :: uptoEquals v)).count '=' = 0 := by
    refine List.count_eq_zero.2 fun hmem => ?_
    rcases List.mem_cons.1 ((Text.isPrefix_trimEnd _).subset hmem) with heq | hmem
    · exact absurd heq (by decide)
    · exact equals_not_mem_uptoEquals v hmem
  rw [flagHead_keyed hk hspace hbracket hv, List.count_append, List.count_append, List.count_append, hstem, hshown]
  decide

/-- The line of a flag does so exactly if, in addition, the value does not end in white space. -/
theorem isSuffix_flagHead_iff (hk : ∀ c ∈ k, Flag.isBreak c = false) (hspace : ' ' ∉ v) (hbracket : ']' ∉ v)
    (hne : v ≠ []) (hstart : v.head? ≠ some '=') :
    " Ns = Ns Ar ".toList ++ v <:+ flagHead (Flag.withValue k v) ↔
      '=' ∉ v ∧ ∀ c ∈ v.getLast?, isBlank c = false := by
  have hv := uptoEquals_ne_nil hne hstart
  constructor
  · intro h
    constructor
    · have hcount := h.sublist.count_le '='
      have hmacro : " Ns = Ns Ar ".toList.count '=' = 1 := by decide
      rw [count_flagHead_keyed hk hspace hbracket hv, List.count_append, hmacro] at hcount
      exact List.count_eq_zero.1 (by omega)
    · intro c hc
      obtain ⟨u, hu⟩ := List.getLast?_eq_some_iff.1 hc
      obtain ⟨front, hfront⟩ := h
      have hlast : (flagHead (Flag.withValue k v)).getLast? = some c := by
        rw [← hfront, hu, ← List.append_assoc, ← List.append_assoc, List.getLast?_concat]
      exact Text.isBlank_of_getLast?_trimEnd hlast
  · rintro ⟨hequals, hlast⟩
    obtain ⟨u, c, hu⟩ := (List.eq_nil_or_concat v).resolve_left hne
    rw [List.concat_eq_append] at hu
    have hc : isBlank c = false := hlast c (by rw [hu, List.getLast?_concat]; rfl)
    have htrim : Text.trimEnd (' ' :: v) = ' ' :: v := by
      rw [hu]
      exact Text.trimEnd_append_of_not_blank (' ' :: u) hc
    rw [flagHead_keyed hk hspace hbracket hv, uptoEquals_of_not_mem hequals, htrim]
    exact ⟨"Fl ".toList ++ Flag.dropDash (Flag.stem (Flag.withValue k v)), by simp only [List.append_assoc]; rfl⟩

/-- An item does not always show the whole value behind the first equals sign of its name. -/
theorem not_items_show_value :
    ¬ ∀ k v d : Text, '=' ∉ k → ' ' ∉ k → ',' ∉ k → v ≠ [] → ' ' ∉ v → ',' ∉ v → '[' ∉ v → ']' ∉ v →
      v.head? ≠ some '=' → v.getLast? ≠ some '=' →
      EndsItemLine (" Ns = Ns Ar ".toList ++ v) d (flagItem ⟨Flag.withValue k v, d⟩) ∧
        EndsItemLine ("Ar ".toList ++ v) d (variableItem ⟨Flag.withValue k v, d⟩) := by
  intro h
  have hkeyed := h "--define".toList "key=value".toList "Defines it.".toList (by decide) (by decide) (by decide)
    (by decide) (by decide) (by decide) (by decide) (by decide) (by decide) (by decide)
  have hvariable := endsItemLine_item.1 hkeyed.2
  rw [isSuffix_variableHead_iff (by decide) (by decide) (by decide)] at hvariable
  exact absurd hvariable (by decide)

/-- **Values of items.**  Let an entry be named by a key without breaks, an equals sign, and a value that is not empty,
holds no space and no closing bracket, and does not start with an equals sign.  In both lists its item shows the value
up to the next equals sign, in that of the flags less white space at its end.  So the line of the item ends with the
whole value exactly if that holds no equals sign and, for a flag, does not end in white space. -/
theorem items_of_keyed_value (hequals : '=' ∉ k) (hspace : ' ' ∉ k) (hne : v ≠ []) (hspace' : ' ' ∉ v)
    (hbracket : ']' ∉ v) (hstart : v.head? ≠ some '=') (d : Text) :
    (flagItem ⟨Flag.withValue k v, d⟩ =
        item ("Fl ".toList ++ Flag.dropDash (Flag.stem (Flag.withValue k v)) ++ " Ns = Ns Ar".toList ++
          Text.trimEnd (' ' :: uptoEquals v)) d ∧
      variableItem ⟨Flag.withValue k v, d⟩ =
        item ("Ev ".toList ++ k ++ " Ar ".toList ++ uptoEquals v) d) ∧
    (EndsItemLine (" Ns = Ns Ar ".toList ++ v) d (flagItem ⟨Flag.withValue k v, d⟩) ↔
      '=' ∉ v ∧ ∀ c ∈ v.getLast?, isBlank c = false) ∧
    (EndsItemLine ("Ar ".toList ++ v) d (variableItem ⟨Flag.withValue k v, d⟩) ↔ '=' ∉ v) := by
  have hk := Flag.forall_isBreak_eq_false hequals hspace
  have hvalue := uptoEquals_ne_nil hne hstart
  refine ⟨⟨?_, ?_⟩, ?_, ?_⟩
  · rw [flagItem, flagHead_keyed hk hspace' hbracket hvalue]
  · rw [variableItem, variableHead_keyed hequals hvalue]
  · exact endsItemLine_item.trans (isSuffix_flagHead_iff hk hspace' hbracket hne hstart)
  · exact endsItemLine_item.trans (isSuffix_variableHead_iff hequals hne hstart)

/-- A value with a key of its own is cut behind that key in both lists; a plain value stands at the end of the line. -/
theorem items_of_keyed_value_of_define :
    let d := "Defines it.".toList
    flagItem ⟨"--define=key=value".toList, d⟩ = ".It Fl -define Ns = Ns Ar key\nDefines it.".toList ∧
      variableItem ⟨"DEFINE=key=value".toList, d⟩ = ".It Ev DEFINE Ar key\nDefines it.".toList ∧
      ¬ EndsItemLine " Ns = Ns Ar key=value".toList d (flagItem ⟨"--define=key=value".toList, d⟩) ∧
      ¬ EndsItemLine "Ar key=value".toList d (variableItem ⟨"DEFINE=key=value".toList, d⟩) ∧
      EndsItemLine " Ns = Ns Ar value".toList d (flagItem ⟨"--define=value".toList, d⟩) := by
  intro d
  obtain ⟨⟨hflag, -⟩, hflag', -⟩ := items_of_keyed_value (k := "--define".toList) (v := "key=value".toList) (by decide)
    (by decide) (by decide) (by decide) (by decide) (by decide) d
  obtain ⟨⟨-, hvariable⟩, -, hvariable'⟩ := items_of_keyed_value (k := "DEFINE".toList) (v := "key=value".toList)
    (by decide) (by decide) (by decide) (by decide) (by decide) (by decide) d
  obtain ⟨-, hplain, -⟩ := items_of_keyed_value (k := "--define".toList) (v := "value".toList) (by decide) (by decide)
    (by decide) (by decide) (by decide) (by decide) d
  have hlast : ∀ c ∈ "value".toList.getLast?, isBlank c = false := by
    rintro c ⟨⟩
    decide
  refine ⟨hflag.trans (by decide), hvariable.trans (by decide), ?_, ?_, hplain.2 ⟨by decide, hlast⟩⟩
  · exact fun h => absurd (hflag'.1 h).1 (by decide)
  · exact fun h => absurd (hvariable'.1 h) (by decide)

end Manpage.Page
