import Manpage.Text.Basic
import Manpage.Unicode.Printable

/-!
# Quoted texts

The form in which messages show a path or a name: between quotes, on one line, with every character visible.

* `Text.quoted` — single quotes, or double quotes around a text that holds single quotes and no double ones; the
  backslash, the quote around the text and all characters that do not print are escaped (`lineFeed_not_mem_quoted`:
  it stands on one line);
* `Text.asciiOnly` — every character beyond ASCII escaped.
-/

namespace Manpage.Text

open Unicode

/-- A lower-case hexadecimal digit. -/
def hexDigit (d : Nat) : Char := if d < 10 then Char.ofNat (0x30 + d) else Char.ofNat (0x57 + d)

/-- The last `width` hexadecimal digits of a number. -/
def hexDigits : (width n : Nat) → Text
  | 0, _ => []
  | w + 1, n => hexDigits w (n / 16) ++ [hexDigit (n % 16)]

/-- An escape by number: two digits below U+0100, four below U+10000, else eight. -/
def numericEscape (code : Nat) : Text :=
  if code < 0x100 then '\\' :: 'x' :: hexDigits 2 code
  else if code < 0x10000 then '\\' :: 'u' :: hexDigits 4 code
  else '\\' :: 'U' :: hexDigits 8 code

/-- A character as it stands between the given quotes. -/
def quotedChar (quote c : Char) : Text :=
  if c = '\\' || c = quote then ['\\', c]
  else if c = '\t' then ['\\', 't']
  else if c = '\n' then ['\\', 'n']
  else if c = '\r' then ['\\', 'r']
  else if isPrintable c then [c]
  else numericEscape c.toNat

/-- The quotes put around a text. -/
def quoteFor (t : Text) : Char := if t.contains '\x27' && !t.contains '\x22' then '\x22' else '\x27'

/-- A text between quotes, every character visible. -/
def quoted (t : Text) : Text :=
  let q := quoteFor t
  q :: t.flatMap (quotedChar q) ++ [q]

theorem hexDigit_ne_lineFeed (d : Fin 16) : hexDigit d ≠ '\n' := by
  revert d
  decide

theorem lineFeed_not_mem_hexDigits (w n : Nat) : '\n' ∉ hexDigits w n := by
  induction w generalizing n with
  | zero => exact List.not_mem_nil
  | succ w ih =>
    have hlast := hexDigit_ne_lineFeed ⟨n % 16, Nat.mod_lt n (by decide)⟩
    rw [hexDigits, List.mem_append, List.mem_singleton, not_or]
    exact ⟨ih (n / 16), hlast.symm⟩

theorem lineFeed_not_mem_numericEscape (code : Nat) : '\n' ∉ numericEscape code := by
  unfold numericEscape
  split
  · simp [lineFeed_not_mem_hexDigits]
  · split <;> simp [lineFeed_not_mem_hexDigits]

theorem lineFeed_not_mem_quotedChar {quote : Char} (hquote : quote ≠ '\n') (c : Char) : '\n' ∉ quotedChar quote c := by
  unfold quotedChar
  split
  · next hc =>
    -- the character is the backslash or the quote
    rw [Bool.or_eq_true, decide_eq_true_iff, decide_eq_true_iff] at hc
    rcases hc with rfl | rfl
    · decide
    · simp [hquote.symm]
  · split
    · decide
    · split
      · decide
      · next hlf =>
        split
        · decide
        · split
          · simp [Ne.symm hlf]
          · exact lineFeed_not_mem_numericEscape c.toNat

/-- A quoted text stands on one line. -/
theorem lineFeed_not_mem_quoted (t : Text) : '\n' ∉ quoted t := by
  have hquote : quoteFor t ≠ '\n' := by
    unfold quoteFor
    split <;> decide
  intro h
  rw [quoted, List.mem_append, List.mem_cons, List.mem_singleton] at h
  rcases h with (h | h) | h
  · exact hquote h.symm
  · obtain ⟨c, -, hc⟩ := List.mem_flatMap.1 h
    exact lineFeed_not_mem_quotedChar hquote c hc
  · exact hquote h.symm

/-- A text with an escape for every character beyond ASCII. -/
def asciiOnly (t : Text) : Text := t.flatMap fun c => if c.toNat < 0x80 then [c] else numericEscape c.toNat

end Manpage.Text
