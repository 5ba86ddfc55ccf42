import Manpage.Text.Trim
import Manpage.Unicode.Digit

/-!
# Breaking a text into lines

A text is cut into chunks at the places where a line may end; as many chunks as fit make a line.

* `Text.mayBreak` — the places where a line may end: around spaces, after the hyphen of a compound word, and around
  a dash of two or more hyphens between words;
* `Text.chunks` — the text between these places;
* `Text.squeezed` — a text with single blanks;
* `Text.wrap` — lines of at most a given width.  White space at the ends of a line is left out; a chunk that is longer
  than a line is cut, after a hyphen if it has one.
-/

namespace Manpage.Text

open Unicode

/-! ### Places to break -/

/-- A letter of a compound word; the low line counts as one. -/
def isWordLetter (c : Char) : Bool := isWordChar c && !isDecimal c

/-- A character after which a dash may begin. -/
def isBeforeDash (c : Char) : Bool := isWordChar c || ['!', '\x22', '\x27', '&', '.', ',', '?'].contains c

/-- Whether the text before a place, back to front, ends with the hyphen of a compound word. -/
def endsCompound : (before : Text) → Bool
  | '-' :: b :: '-' :: a :: _ => isWordLetter b && isWordLetter a
  | '-' :: b :: a :: _ => isWordLetter b && isWordLetter a
  | _ => false

/-- Whether a text continues a compound word. -/
def continuesCompound : (after : Text) → Bool
  | a :: '-' :: b :: _ => isWordLetter a && isWordLetter b
  | a :: b :: _ => isWordLetter a && isWordLetter b
  | _ => false

/-- Whether a text starts with a dash that a word follows. -/
def startsDash : (after : Text) → Bool
  | '-' :: '-' :: t =>
    match t.dropWhile (· = '-') with
    | [] => false
    | c :: _ => isWordChar c
  | _ => false

/-- Whether the text before a place, back to front, ends with a dash that may stand between words. -/
def endsDash : (before : Text) → Bool
  | '-' :: '-' :: t =>
    match t.dropWhile (· = '-') with
    | [] => false
    | c :: _ => isBeforeDash c
  | _ => false

/-- Whether a line may end between the text before a place, back to front, and the text after it. -/
def mayBreak : (before after : Text) → Bool
  | b :: before, a :: after =>
    (b = ' ') != (a = ' ')
      || (endsCompound (b :: before) && continuesCompound (a :: after))
      || (isBeforeDash b && startsDash (a :: after))
      || (endsDash (b :: before) && isWordChar a)
  | _, _ => false

/-- A text after the given one, back to front, cut where a line may end. -/
def chunksAfter (before : Text) : Text → List Text
  | [] => []
  | c :: t =>
    if mayBreak (c :: before) t then [c] :: chunksAfter (c :: before) t
    else match chunksAfter (c :: before) t with
      | [] => [[c]]
      | chunk :: chunks => (c :: chunk) :: chunks

/-- A text cut wherever a line may end. -/
def chunks (t : Text) : List Text := chunksAfter [] t

/-! ### Lines -/

/-- The chunks that fit into the room left, and the others. -/
def fill (room : Nat) : List Text → List Text × List Text
  | [] => ([], [])
  | c :: cs =>
    if c.length ≤ room then
      let (taken, left) := fill (room - c.length) cs
      (c :: taken, left)
    else ([], c :: cs)

theorem fill_append (room : Nat) (cs : List Text) : (fill room cs).1 ++ (fill room cs).2 = cs := by
  induction cs generalizing room with
  | nil => rfl
  | cons c cs ih => unfold fill; split <;> simp [ih]

/-- Where a chunk is cut that is longer than a line: after the last hyphen within the room left, if more than hyphens
stands before it, and else where the room ends. -/
def cutPoint (room : Nat) (chunk : Text) : Nat :=
  match (chunk.take room).reverse.dropWhile (· ≠ '-') with
  | [] => room
  | _ :: before => if before.all (· = '-') then room else before.length + 1

/-- The chunks of the next line, and what is left. -/
def takeLine (width : Nat) (cs : List Text) : List Text × List Text :=
  match fill width cs with
  | (taken, []) => (taken, [])
  | (taken, c :: left) =>
    if width < c.length then
      let n := cutPoint (width - taken.flatten.length) c
      (taken ++ [c.take n], c.drop n :: left)
    else (taken, c :: left)

/-- A count that gets smaller with every line. -/
def remaining : List Text → Nat
  | [] => 0
  | c :: cs => c.length + 1 + remaining cs

theorem remaining_append (cs ds : List Text) : remaining (cs ++ ds) = remaining cs + remaining ds := by
  induction cs with
  | nil => simp [remaining]
  | cons c cs ih => rw [List.cons_append, remaining, remaining, ih]; omega

theorem cutPoint_pos {room : Nat} (h : 0 < room) (chunk : Text) : 0 < cutPoint room chunk := by
  unfold cutPoint
  split
  · exact h
  · split
    · exact h
    · omega

theorem remaining_takeLine {width : Nat} (hw : 0 < width) (c : Text) (cs : List Text) :
    remaining (takeLine width (c :: cs)).2 < remaining (c :: cs) := by
  have happ := fill_append width (c :: cs)
  unfold takeLine
  split
  · simp only [remaining]; omega
  · rename_i taken d left hf
    rw [hf] at happ
    have hsum : remaining taken + remaining (d :: left) = remaining (c :: cs) := by
      rw [← remaining_append, happ]
    cases taken with
    | cons e es =>
      have hpos : 0 < remaining (e :: es) := by simp only [remaining]; omega
      split
      · have : remaining (d.drop (cutPoint (width - (e :: es).flatten.length) d) :: left)
            ≤ remaining (d :: left) := by simp only [remaining, List.length_drop]; omega
        simp only; omega
      · simp only; omega
    | nil =>
      simp only [List.nil_append, List.cons.injEq] at happ
      obtain ⟨rfl, rfl⟩ := happ
      have hlong : width < d.length := by
        unfold fill at hf
        split at hf
        · simp at hf
        · omega
      have hcut := cutPoint_pos hw d
      rw [if_pos hlong]
      simp only [remaining, List.length_drop, List.flatten_nil, List.length_nil, Nat.sub_zero]; omega

/-- Whether a chunk is white space. -/
def isBlankChunk (chunk : Text) : Bool := chunk.all isBlank

/-- Chunks without the last one, if that is white space. -/
def dropLastBlank (cs : List Text) : List Text :=
  match cs.getLast? with
  | some c => if isBlankChunk c then cs.dropLast else cs
  | none => []

/-- The chunks for the next line: once a line was begun, white space in front is left out. -/
def opening (begun : Bool) : List Text → List Text
  | [] => []
  | c :: cs => if begun && isBlankChunk c then cs else c :: cs

theorem remaining_opening (begun : Bool) (cs : List Text) : remaining (opening begun cs) ≤ remaining cs := by
  unfold opening
  split
  · exact Nat.le_refl _
  · split
    · simp only [remaining]; omega
    · exact Nat.le_refl _

/-- The lines of the chunks; a line of white space alone is none. -/
def linesOfChunks (width : Nat) (hw : 0 < width) (begun : Bool) (cs : List Text) : List Text :=
  match h : opening begun cs with
  | [] => []
  | d :: ds =>
    let line := takeLine width (d :: ds)
    have : remaining line.2 < remaining cs :=
      Nat.lt_of_lt_of_le (remaining_takeLine hw d ds) (h ▸ remaining_opening begun cs)
    match dropLastBlank line.1 with
    | [] => linesOfChunks width hw begun line.2
    | kept => kept.flatten :: linesOfChunks width hw true line.2
termination_by remaining cs

/-- A text in lines of at most the given width. -/
def wrap (width : Nat) (hw : 0 < width) (t : Text) : List Text := linesOfChunks width hw false (chunks t)

/-- White space of ASCII. -/
def isPlainBlank (c : Char) : Bool := c = ' ' || (0x09 ≤ c.toNat && c.toNat ≤ 0x0d)

/-- A text in which every run of ASCII white space is one space. -/
def squeezed : Text → Text
  | c :: d :: t =>
    if isPlainBlank c then (if isPlainBlank d then squeezed (d :: t) else ' ' :: squeezed (d :: t))
    else c :: squeezed (d :: t)
  | [c] => if isPlainBlank c then [' '] else [c]
  | [] => []

end Manpage.Text
