import Manpage.Text.Decimal
import Manpage.Text.Quoted

/-!
# Templates

A template is a text with directives, each of which is filled with a value.  A directive opens with a percent sign.
It may name a field between parentheses, then ask for a layout by flags, a width and a precision, and it ends with the
character that says how the value is written: `%(name)s`, `%(name)-12.3s`.  A directive without a name takes all fields
together, which only the first one may do.  Two percent signs stand for one.

* `Value` — what a field holds, `Value.plain` and `Value.exact`, two ways to write it;
* `Fault` — why a template cannot be filled;
* `Piece`, `pieces` — the characters and the directives of a template;
* `Filler`, `fill` — what a template is filled with, and the text that it gives (`fill_of_not_mem`: a text without a
  percent sign stays as it is).
-/

namespace Manpage.Template

/-! ### Values -/

/-- What a field holds. -/
inductive Value where
  | text (t : Text)
  | texts (ts : List Text)
  /-- A path, by its text. -/
  | path (t : Text)
  /-- A condition that does not hold; as a number it is zero. -/
  | no
  | nothing
  /-- A thing without a text of its own, by the words for where it comes from and what it is. -/
  | thing (origin kind : Text)
  /-- Several fields together, by the text that shows them. -/
  | record (t : Text)
  deriving DecidableEq, Repr

namespace Value

/-- The word for the kind of a value in messages. -/
def kind : Value → Text
  | .text _ => "str".toList
  | .texts _ => "list".toList
  | .path _ => "PosixPath".toList
  | .no => "bool".toList
  | .nothing => "NoneType".toList
  | .thing _ kind => kind
  | .record _ => "dict".toList

/-- A value so that its kind can be seen.  A thing shows a place, which is the same for all. -/
def exact : Value → Text
  | .text t => Text.quoted t
  | .texts ts => '[' :: Text.joined ", ".toList (ts.map Text.quoted) ++ [']']
  | .path t => "PosixPath(".toList ++ Text.quoted t ++ [')']
  | .no => "False".toList
  | .nothing => "None".toList
  | .thing origin kind => '<' :: origin ++ '.' :: kind ++ " object at 0x7f0000000000>".toList
  | .record t => t

/-- A value as it reads best: texts and paths as they are. -/
def plain : Value → Text
  | .text t => t
  | .path t => t
  | v => v.exact

/-- Fields together, each with its name. -/
def ofFields (fields : List (Text × Value)) : Value :=
  .record ('\x7b' :: Text.joined ", ".toList (fields.map fun f => Text.quoted f.1 ++ ':' :: ' ' :: f.2.exact)
    ++ ['\x7d'])

end Value

/-! ### Faults -/

/-- Why a template cannot be filled. -/
inductive Fault where
  /-- The template ends in the name of a field. -/
  | unclosedName
  /-- The template ends in a directive. -/
  | unfinished
  /-- A width is too great. -/
  | widthTooGreat
  /-- A precision is too great. -/
  | precisionTooGreat
  /-- A precision is too great for a number without a fraction. -/
  | tooManyDigits
  /-- The text would be too long to be made. -/
  | textTooLong
  /-- No directive ends with this character, which stands at this index. -/
  | unknownConversion (conversion : Char) (index : Nat)
  /-- There is no field of this name. -/
  | unknownField (name : Text)
  /-- A width or a precision is to be taken from a value that is no number. -/
  | amountNotNumber
  /-- The value has been taken already. -/
  | valueTaken
  /-- A conversion wants a number. -/
  | notNumber (conversion : Char) (kind : Text)
  /-- A conversion wants a number without a fraction. -/
  | notInteger (conversion : Char) (kind : Text)
  /-- A conversion with a fraction wants a number. -/
  | notReal (kind : Text)
  /-- A conversion wants a character. -/
  | notCharacter
  deriving DecidableEq, Repr

/-- The wording of a fault. -/
def Fault.message : Fault → Text
  | .unclosedName => "incomplete format key".toList
  | .unfinished => "incomplete format".toList
  | .widthTooGreat => "width too big".toList
  | .precisionTooGreat => "precision too big".toList
  | .tooManyDigits => "precision too large".toList
  | .textTooLong => []
  | .unknownConversion c index =>
    let shown := if 31 ≤ c.toNat ∧ c.toNat ≤ 126 then c else '?'
    "unsupported format character '".toList ++ shown :: "' (0x".toList ++ Nat.toDigits 16 c.toNat
      ++ ") at index ".toList ++ Text.ofNat index
  | .unknownField name => Text.quoted name
  | .amountNotNumber => "* wants int".toList
  | .valueTaken => "not enough arguments for format string".toList
  | .notNumber c kind => '%' :: c :: " format: a real number is required, not ".toList ++ kind
  | .notInteger c kind => '%' :: c :: " format: an integer is required, not ".toList ++ kind
  | .notReal kind => "must be real number, not ".toList ++ kind
  | .notCharacter => "%c requires int or char".toList

/-! ### Directives -/

/-- A width or a precision: a number, or a star for the number that is the value. -/
inductive Amount where
  | number (n : Nat)
  | star
  deriving DecidableEq, Repr

/-- What a directive asks for. -/
structure Directive where
  name? : Option Text
  flags : Text
  width? : Option Amount
  precision? : Option Amount
  /-- The character that ends the directive, with its index in the template; the template may end before it. -/
  conversion? : Option (Char × Nat)
  deriving DecidableEq, Repr

/-- The number that digits write. -/
def numberOfDigits (ds : Text) : Nat := ds.foldl (fun n c => 10 * n + (c.toNat - 48)) 0

/-- A width or a precision at the front of a text, and what follows it. -/
def Amount.read : Text → Option Amount × Text
  | '*' :: t => (some .star, t)
  | t =>
    match t.takeWhile Char.isDigit with
    | [] => (none, t)
    | ds => (some (.number (numberOfDigits ds)), t.dropWhile Char.isDigit)

/-- A precision at the front of a text, after a period, and what follows it; a lone period is a precision of zero. -/
def Amount.readPrecision : Text → Option Amount × Text
  | '.' :: t =>
    let (amount?, rest) := Amount.read t
    (some (amount?.getD (.number 0)), rest)
  | t => (none, t)

/-- The rest of a name that is open so many parentheses deep, up to the one that closes it, and what follows. -/
def readName : (depth : Nat) → Text → Option (Text × Text)
  | _, [] => none
  | 0, ')' :: t => some ([], t)
  | depth + 1, ')' :: t => (readName depth t).map fun (name, rest) => (')' :: name, rest)
  | depth, '(' :: t => (readName (depth + 1) t).map fun (name, rest) => ('(' :: name, rest)
  | depth, c :: t => (readName depth t).map fun (name, rest) => (c :: name, rest)

/-- The characters that ask for a layout: to the left, with a sign, with a blank for the sign, in the longer form,
filled with zeros. -/
def isFlag (c : Char) : Bool := c = '-' || c = '+' || c = ' ' || c = '#' || c = '0'

/-- Leaves out a size, which has no meaning. -/
def afterSize : Text → Text
  | c :: t => if c = 'h' || c = 'l' || c = 'L' then t else c :: t
  | [] => []

/-- The directive that a text at an index of the template goes on with after its name, and what follows it. -/
def Directive.readAfterName (index : Nat) (name? : Option Text) (t : Text) : Directive × Text :=
  let (width?, t₁) := Amount.read (t.dropWhile isFlag)
  let (precision?, t₂) := Amount.readPrecision t₁
  let t₃ := afterSize t₂
  (⟨name?, t.takeWhile isFlag, width?, precision?, t₃.head?.map (·, index + (t.length - t₃.length))⟩, t₃.tail)

/-- The directive that a text at an index of the template goes on with after the percent sign, and what follows it;
none if the name of its field does not end. -/
def Directive.read? (index : Nat) : Text → Option (Directive × Text)
  | '(' :: t => (readName 0 t).map fun (name, rest) =>
    Directive.readAfterName (index + 1 + (t.length - rest.length)) (some name) rest
  | t => some (Directive.readAfterName index none t)

/-! ### Pieces -/

/-- A piece of a template. -/
inductive Piece where
  | character (c : Char)
  | directive (d : Directive)
  /-- A directive in whose name the template ends. -/
  | unclosed
  deriving DecidableEq, Repr

/-- The pieces of the text at an index of a template; so many characters in front belong to the piece before. -/
def piecesFrom : (index passed : Nat) → Text → List Piece
  | _, _, [] => []
  | index, passed + 1, _ :: t => piecesFrom (index + 1) passed t
  | index, 0, c :: t =>
    if c ≠ '%' then .character c :: piecesFrom (index + 1) 0 t
    else if t.head? = some '%' then .character '%' :: piecesFrom (index + 1) 1 t
    else
      match Directive.read? (index + 1) t with
      | none => [.unclosed]
      | some (d, rest) => .directive d :: piecesFrom (index + 1) (t.length - rest.length) t

/-- The pieces of a template. -/
def pieces (template : Text) : List Piece := piecesFrom 0 0 template

/-! ### Limits -/

/-- The greatest width. -/
def maxWidth : Nat := 0x7fffffffffffffff

/-- The greatest precision. -/
def maxPrecision : Nat := 0x7fffffff

/-- The greatest precision of a number without a fraction. -/
def maxDigits : Nat := 0x7ffffffc

/-- The greatest length of a text that can be made. -/
def maxLength : Nat := 0x40000000

/-! ### Layout -/

/-- What a template is filled with: its fields, and the blanks that stand for so many columns. -/
structure Filler where
  fields : List (Text × Value)
  blanks : Nat → Text

/-- Whether a directive has a flag. -/
def Directive.has (d : Directive) (flag : Char) : Bool := d.flags.contains flag

/-- A text of a value in a field of a width, to the right unless the directive says otherwise. -/
def Filler.placed (f : Filler) (d : Directive) (width : Nat) (t : Text) : Except Fault Text :=
  if maxLength < width then .error .textTooLong
  else if d.has '-' then .ok (t ++ f.blanks (width - t.length))
  else .ok (f.blanks (width - t.length) ++ t)

/-- A number in a field of a width: a sign and a mark if asked for, then the digits. -/
def Filler.placedNumber (f : Filler) (d : Directive) (width : Nat) (mark digits : Text) : Except Fault Text :=
  let sign : Text := if d.has '+' then ['+'] else if d.has ' ' then [' '] else []
  let front := sign ++ mark
  if maxLength < width then .error .textTooLong
  else if d.has '0' && !d.has '-' then
    .ok (front ++ List.replicate (width - (front.length + digits.length)) '0' ++ digits)
  else f.placed d width (front ++ digits)

/-- Zero without a fraction, with as many digits as the precision asks for. -/
def integerZero (precision : Nat) : Except Fault Text :=
  if maxDigits < precision then .error .tooManyDigits
  else if maxLength < precision then .error .textTooLong
  else .ok (List.replicate (precision - 1) '0' ++ ['0'])

/-- Zero with so many places after the point; the longer form keeps the point without places. -/
def Directive.realZero (d : Directive) (places : Nat) : Except Fault Text :=
  if maxLength < places then .error .textTooLong
  else if places = 0 && !d.has '#' then .ok ['0']
  else .ok ('0' :: '.' :: List.replicate places '0')

/-- Zero in the form that a conversion with a fraction or an exponent gives it.  With an exponent, the greatest
precision is as good as none. -/
def Directive.realDigits (d : Directive) (c : Char) (precision : Nat) : Except Fault Text :=
  if c = 'e' || c = 'E' then
    (d.realZero (if precision < maxPrecision then precision else 0)).map (· ++ c :: "+00".toList)
  else if c = 'f' || c = 'F' then d.realZero precision
  else d.realZero (if d.has '#' then precision - 1 else 0)

/-- The conversions to a number with a fraction or an exponent. -/
def isRealConversion (c : Char) : Bool :=
  c = 'e' || c = 'E' || c = 'f' || c = 'F' || c = 'g' || c = 'G'

/-- The text that a directive with a width and a precision makes of a value by a conversion. -/
def Filler.convert (f : Filler) (d : Directive) (width : Nat) (precision? : Option Nat) (conversion : Char × Nat)
    (v : Value) : Except Fault Text :=
  let c := conversion.1
  let cut (t : Text) : Except Fault Text := f.placed d width (t.take (precision?.getD t.length))
  if c = 's' then cut v.plain
  else if c = 'r' then cut v.exact
  else if c = 'a' then cut (Text.asciiOnly v.exact)
  else if c = 'd' || c = 'i' || c = 'u' then
    if v = .no then integerZero (precision?.getD 1) >>= f.placedNumber d width []
    else .error (.notNumber c v.kind)
  else if c = 'o' || c = 'x' || c = 'X' then
    if v = .no then
      integerZero (precision?.getD 1) >>= f.placedNumber d width (if d.has '#' then ['0', c] else [])
    else .error (.notInteger c v.kind)
  else if isRealConversion c then
    if v = .no then d.realDigits c (precision?.getD 6) >>= f.placedNumber d width []
    else .error (.notReal v.kind)
  else if c = 'c' then
    match v with
    | .text [c] => f.placed d width [c]
    | .no => f.placed d width ['\x00']
    | _ => .error .notCharacter
  else .error (.unknownConversion c conversion.2)

/-! ### Filling -/

/-- Filling takes values: there is one at hand, or it has been taken. -/
abbrev Filling := StateT (Option Value) (Except Fault)

/-- Takes the value at hand. -/
def takeValue : Filling Value := do
  match ← get with
  | none => throw .valueTaken
  | some v =>
    set (none : Option Value)
    return v

/-- A width or a precision that does not exceed a limit. -/
def Amount.take (limit : Nat) (excess : Fault) : Amount → Filling Nat
  | .number n => if limit < n then throw excess else return n
  | .star => do
    if (← takeValue) = .no then return 0
    else throw .amountNotNumber

/-- The text for a directive.  A name puts the value of its field at hand. -/
def Filler.directive (f : Filler) (d : Directive) : Filling Text := do
  match d.name? with
  | none => pure ()
  | some name =>
    match f.fields.lookup name with
    | none => throw (.unknownField name)
    | some v => set (some v)
  let width ← match d.width? with
    | none => pure 0
    | some amount => amount.take maxWidth .widthTooGreat
  let precision? ← match d.precision? with
    | none => pure none
    | some amount => some <$> amount.take maxPrecision .precisionTooGreat
  match d.conversion? with
  | none => throw .unfinished
  | some conversion => f.convert d width precision? conversion (← takeValue)

/-- The text for a piece. -/
def Filler.piece (f : Filler) : Piece → Filling Text
  | .character c => return [c]
  | .directive d => f.directive d
  | .unclosed => throw .unclosedName

/-- The texts for pieces, one after the other. -/
def Filler.pieces (f : Filler) : List Piece → Filling Text
  | [] => return []
  | p :: ps => do
    let t ← f.piece p
    return t ++ (← f.pieces ps)

/-- The text of a template with its directives filled; at first all fields together are the value at hand. -/
def fill (f : Filler) (template : Text) : Except Fault Text :=
  (f.pieces (pieces template)).run' (some (.ofFields f.fields))

/-! ### Texts without directives -/

theorem piecesFrom_of_not_mem {t : Text} (h : '%' ∉ t) (index : Nat) :
    piecesFrom index 0 t = t.map .character := by
  induction t generalizing index with
  | nil => rfl
  | cons c t ih =>
    have hc : c ≠ '%' := fun e => h (e ▸ List.mem_cons_self)
    simp [piecesFrom, hc, ih (fun hm => h (List.mem_cons_of_mem _ hm))]

theorem Filler.pieces_character (f : Filler) (t : Text) : f.pieces (t.map .character) = pure t := by
  induction t with
  | nil => rfl
  | cons c t ih => simp [Filler.pieces, Filler.piece, ih]

/-- A text without a percent sign is the template of itself. -/
theorem fill_of_not_mem (f : Filler) {t : Text} (h : '%' ∉ t) : fill f t = .ok t := by
  rw [fill, pieces, piecesFrom_of_not_mem h, Filler.pieces_character]
  rfl

end Manpage.Template
