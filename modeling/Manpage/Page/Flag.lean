import Manpage.Text.Basic

/-!
# Flags in a list item

A flag is spelled with its value after an equals sign (`--eval=script`), in brackets if the value may be left out
(`--eval[=script]`), or after a space (`-C condition`).  In the manual page its name is the argument of `Fl`, and a
value after an equals sign is attached to it.

* `Flag.stem` — the spelling before its value;
* `Flag.value?` — the value after an equals sign;
* `Flag.valueText`, `Flag.text` — what the page shows for the value and for the whole spelling;
* `Flag.aliases` — the spellings in the name of an entry.
-/

namespace Manpage.Flag

/-- A character that ends the name of a flag. -/
def isBreak (c : Char) : Bool := c = '=' || c = ' '

/-- Whether a text starts with a break. -/
def startsWithBreak : Text → Bool
  | [] => false
  | c :: _ => isBreak c

/-- A spelling up to its first break, less a bracket that opens right before it. -/
def stem : Text → Text
  | [] => []
  | c :: t => if isBreak c || (c = '[' && startsWithBreak t) then [] else c :: stem t

/-- A text without one closing bracket at its end. -/
def dropBracket : Text → Text
  | [] => []
  | [c] => if c = ']' then [] else [c]
  | c :: d :: t => c :: dropBracket (d :: t)

/-- The value in a spelling whose first break is an equals sign: what follows up to the next break, less one closing
bracket.  Nothing at all is no value. -/
def value? (flag : Text) : Option Text :=
  match flag.dropWhile (!isBreak ·) with
  | '=' :: t =>
    let v := t.takeWhile (!isBreak ·)
    if v = [] then none else some (dropBracket v)
  | _ => none

/-- The arguments that attach the value of a flag to its name. -/
def valueText (flag : Text) : Text :=
  match value? flag with
  | none => []
  | some v => " Ns = Ns Ar ".toList ++ v

/-- A text without one dash at its front. -/
def dropDash : Text → Text
  | '-' :: t => t
  | t => t

/-- A spelling in the manual page: the name without its first dash, then the value. -/
def text (flag : Text) : Text := "Fl ".toList ++ dropDash (stem flag) ++ valueText flag

/-- The spellings in the name of an entry: what stands between commas followed by a space. -/
def aliases : (name : Text) → List Text
  | [] => [[]]
  | ',' :: ' ' :: t => [] :: aliases t
  | c :: t => (aliases t).modifyHead (c :: ·)

end Manpage.Flag
