import Manpage.Text.Basic
import Manpage.Unicode.Digit
import Manpage.Unicode.Letter
import Manpage.Unicode.LetterCase

/-!
# Collation

The order of names in a table.  Punctuation sorts before digits, digits before letters, letters before everything
else.  Names are compared without regard to the case of letters first; where that leaves a tie, the name with the
lower-case letter at the first difference comes first.

* `Weight` — the place of a character in the order, case aside, and `weight`;
* `Key` — the weights of a name and the case of its characters, and `key`;
* `Key.compare` — weights first, case second;
* `collatable` — whether a name has a key at all: every letter of it must have a one-character lower-case form;
* `sortOn` — stable sorting by the key of a name;
* `key?`, `sortOn?` — the key and the sorting where names without a key are refused.
-/

namespace Manpage.Collation

open Unicode

/-! ### Weights -/

/-- The four groups of characters, in their order. -/
inductive Group where
  | punctuation
  | digit
  | letter
  | other
  deriving DecidableEq, Repr

/-- The position of a group among the four. -/
def Group.rank : Group → Nat
  | .punctuation => 0
  | .digit => 1
  | .letter => 2
  | .other => 3

/-- The place of a character in the order: its group, then a number within the group. -/
structure Weight where
  group : Group
  rank : Nat
  deriving DecidableEq, Repr

/-- The groups decide, then the numbers within the group. -/
def Weight.compare : Weight → Weight → Ordering := compareLex (compareOn (·.group.rank)) (compareOn (·.rank))

instance : Ord Weight := ⟨Weight.compare⟩

instance : Std.TransOrd Weight := inferInstanceAs (Std.TransCmp (compareLex _ _))

/-- ASCII punctuation in its order. -/
def punctuation : Text := [
  ' ', '_', '-', ',', ';', ':', '!', '?', '.', '\x27', '\x22', '(', ')', '[', ']', '\x7b', '\x7d', '@', '*', '/',
  '\x5c', '&', '#', '%', '\x60', '^', '+', '<', '=', '>', '|', '~', '$']

/-- The weight of a character: punctuation by its listed position, a letter by its lower-case form, all else by its
code point. -/
def weight (c : Char) : Weight :=
  match punctuation.idxOf? c with
  | some i => ⟨.punctuation, i⟩
  | none =>
    if isDigit c then ⟨.digit, c.toNat⟩
    else if isLetter c then ⟨.letter, (toLower c).toNat⟩
    else ⟨.other, c.toNat⟩

/-! ### Keys -/

/-- What names are compared by: the weight of each character, and whether it is in upper case. -/
structure Key where
  primary : List Weight
  tertiary : List Bool
  deriving DecidableEq, Repr

/-- The key of a name. -/
def key (name : Text) : Key := ⟨name.map weight, name.map isUpper⟩

/-- The weights decide, then the case. -/
def Key.compare : Key → Key → Ordering := compareLex (compareOn (·.primary)) (compareOn (·.tertiary))

instance : Ord Key := ⟨Key.compare⟩

instance : Std.TransOrd Key := inferInstanceAs (Std.TransCmp (compareLex _ _))

/-- Whether every character of a name has a weight.  A letter whose lower-case form is longer than one character has
none. -/
def collatable (name : Text) : Bool := name.all fun c => !hasLongLower c

/-- The key of a name that has one. -/
def key? (name : Text) : Option Key := if collatable name then some (key name) else none

/-! ### Sorting -/

/-- The members of a list by the keys of their names; members with equal keys keep their order. -/
def sortOn {α : Type} (name : α → Text) (xs : List α) : List α :=
  ((xs.map fun x => (key (name x), x)).mergeSort fun a b => (Key.compare a.1 b.1).isLE).map (·.2)

/-- The members of a list by the keys of their names, or the first name that has none. -/
def sortOn? {α : Type} (name : α → Text) (xs : List α) : Except Text (List α) :=
  match xs.find? fun x => !collatable (name x) with
  | some x => .error (name x)
  | none => .ok (sortOn name xs)

end Manpage.Collation
