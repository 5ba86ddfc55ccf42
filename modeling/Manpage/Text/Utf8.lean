import Manpage.Text.Decimal
import Manpage.Text.Quoted

/-!
# UTF-8

* `Utf8.encode` — the bytes of a text;
* `Utf8.decode` — the text of some bytes, or the first fault in them;
* `Utf8.Fault` — the bytes that can begin no character, where they stand and why, and `Fault.message`.

Decoding is strict: overlong forms, surrogates and code points beyond the last are refused at the first byte that
rules the character out.
-/

namespace Manpage

/-- A sequence of bytes. -/
abbrev Bytes := List UInt8

namespace Utf8

/-- The bytes of a text. -/
def encode (t : Text) : Bytes := t.flatMap String.utf8EncodeChar

/-! ### Faults -/

/-- Why bytes are not the beginning of a character. -/
inductive Reason where
  | startByte
  | continuationByte
  | endOfData
  deriving DecidableEq, Repr

/-- The wording of a reason. -/
def Reason.message : Reason → Text
  | .startByte => "invalid start byte".toList
  | .continuationByte => "invalid continuation byte".toList
  | .endOfData => "unexpected end of data".toList

/-- Bytes that are not the beginning of a character: the position of the first, that byte, and their number. -/
structure Fault where
  position : Nat
  byte : UInt8
  count : Nat
  reason : Reason
  deriving DecidableEq, Repr

/-- The wording of a fault: the byte itself if there is one only, else the first and the last position. -/
def Fault.message (f : Fault) : Text :=
  let found :=
    if f.count = 1 then
      " byte 0x".toList ++ Text.hexDigits 2 f.byte.toNat ++ " in position ".toList ++ Text.ofNat f.position
    else
      " bytes in position ".toList ++ Text.ofNat f.position ++ '-' :: Text.ofNat (f.position + f.count - 1)
  "\x27utf-8\x27 codec can\x27t decode".toList ++ found ++ ": ".toList ++ f.reason.message

/-! ### Decoding -/

/-- A byte that continues a character. -/
def isTail (b : UInt8) : Bool := 0x80 ≤ b && b ≤ 0xbf

/-- A second byte after the first byte of a three-byte form: neither overlong nor a surrogate. -/
def isSecondOfThree (a b : UInt8) : Bool :=
  isTail b && (a != 0xe0 || 0xa0 ≤ b) && (a != 0xed || b ≤ 0x9f)

/-- A second byte after the first byte of a four-byte form: neither overlong nor beyond the last code point. -/
def isSecondOfFour (a b : UInt8) : Bool :=
  isTail b && (a != 0xf0 || 0x90 ≤ b) && (a != 0xf4 || b ≤ 0x8f)

/-- The low six bits of a byte. -/
def low6 (b : UInt8) : Nat := b.toNat % 64

/-- The text of the bytes, the first of which has the given position. -/
def decodeFrom (n : Nat) : Bytes → Except Fault Text
  | [] => .ok []
  | a :: rest =>
    if a ≤ 0x7f then (decodeFrom (n + 1) rest).map (Char.ofNat a.toNat :: ·)
    else if a < 0xc2 || 0xf4 < a then .error ⟨n, a, 1, .startByte⟩
    else match rest with
    | [] => .error ⟨n, a, 1, .endOfData⟩
    | b :: rest =>
      if a ≤ 0xdf then
        if isTail b then (decodeFrom (n + 2) rest).map (Char.ofNat (a.toNat % 32 * 64 + low6 b) :: ·)
        else .error ⟨n, a, 1, .continuationByte⟩
      else if a ≤ 0xef then
        if !isSecondOfThree a b then .error ⟨n, a, 1, .continuationByte⟩
        else match rest with
        | [] => .error ⟨n, a, 2, .endOfData⟩
        | c :: rest =>
          if isTail c then
            (decodeFrom (n + 3) rest).map (Char.ofNat ((a.toNat % 16 * 64 + low6 b) * 64 + low6 c) :: ·)
          else .error ⟨n, a, 2, .continuationByte⟩
      else if !isSecondOfFour a b then .error ⟨n, a, 1, .continuationByte⟩
      else match rest with
      | [] => .error ⟨n, a, 2, .endOfData⟩
      | c :: rest =>
        if !isTail c then .error ⟨n, a, 2, .continuationByte⟩
        else match rest with
        | [] => .error ⟨n, a, 3, .endOfData⟩
        | d :: rest =>
          if isTail d then
            (decodeFrom (n + 4) rest).map
              (Char.ofNat (((a.toNat % 8 * 64 + low6 b) * 64 + low6 c) * 64 + low6 d) :: ·)
          else .error ⟨n, a, 3, .continuationByte⟩

/-- The text of some bytes, or the first fault. -/
def decode (bs : Bytes) : Except Fault Text := decodeFrom 0 bs

end Utf8

end Manpage
