import Manpage.Page.Flag
import Manpage.Reference.Entry
import Manpage.Text.Trim

/-!
# List items

The entries of a table become the items of a list: a line that starts with `.It`, then the description.  After every
item stands a line with a lone period, which keeps the page free of empty lines.

* `flagItem`, `variableItem` — the item of an entry;
* `flagItems`, `variableItems` — the list body of a table.
-/

namespace Manpage.Page

/-- An item: its head after `.It`, and the description below. -/
def item (head description : Text) : Text := ".It ".toList ++ head ++ '\n' :: description

/-- What stands between two items. -/
def separator : Text := ['\n', '.', '\n']

/-- A list body; the separator also closes it. -/
def itemList (items : List Text) : Text := Text.joined separator items ++ separator

/-- The head of a flag's item: its spellings with commas between them. -/
def flagHead (name : Text) : Text := Text.trim (Text.joined " , ".toList ((Flag.aliases name).map Flag.text))

/-- The item of a flag. -/
def flagItem (e : Entry) : Text := item (flagHead e.name) e.description

/-- The head of an environment variable's item: its name and, after the first equals sign, its value up to the next
one. -/
def variableHead (name : Text) : Text :=
  match Text.pieces '=' name with
  | stem :: value :: _ => "Ev ".toList ++ stem ++ (if value = [] then [] else " Ar ".toList ++ value)
  | _ => "Ev ".toList ++ name

/-- The item of an environment variable. -/
def variableItem (e : Entry) : Text := item (variableHead e.name) e.description

/-- The list body of the flags. -/
def flagItems (flags : List Entry) : Text := itemList (flags.map flagItem)

/-- The list body of the environment variables. -/
def variableItems (environment : List Entry) : Text := itemList (environment.map variableItem)

end Manpage.Page
