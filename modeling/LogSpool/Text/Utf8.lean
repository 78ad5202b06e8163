/-!
# UTF-8

This module decodes bytes into characters, strictly: overlong forms, surrogates, code points past
U+10FFFF and stray continuation bytes are refused.  A refusal says where the first bad sequence
starts and how many of its bytes are wrong for certain; a sequence cut off by the end of the input
is incomplete rather than wrong.
-/

namespace LogSpool.Text.Utf8

/-- The first place where bytes are no UTF-8: the index of the sequence's first byte, and the
number of bytes to blame, `none` where the input ends inside the sequence. -/
structure Flaw where
  index : Nat
  length : Option Nat
  deriving Repr, DecidableEq

/-- The text of a refusal. -/
def Flaw.message (f : Flaw) : String :=
  match f.length with
  | some n => "invalid utf-8 sequence of " ++ toString n ++ " bytes from index " ++ toString f.index
  | none => "incomplete utf-8 byte sequence from index " ++ toString f.index

/-- A continuation byte is `10xxxxxx`. -/
def isContinuation (b : UInt8) : Bool :=
  0x80 ≤ b && b ≤ 0xBF

/-- The bytes that may follow the first byte of a three-byte sequence. -/
def secondOfThree (a b : UInt8) : Bool :=
  if a == 0xE0 then 0xA0 ≤ b && b ≤ 0xBF
  else if a == 0xED then 0x80 ≤ b && b ≤ 0x9F
  else isContinuation b

/-- The bytes that may follow the first byte of a four-byte sequence. -/
def secondOfFour (a b : UInt8) : Bool :=
  if a == 0xF0 then 0x90 ≤ b && b ≤ 0xBF
  else if a == 0xF4 then 0x80 ≤ b && b ≤ 0x8F
  else isContinuation b

/-- The six payload bits of a continuation byte. -/
def payload (b : UInt8) : Nat :=
  b.toNat % 64

/-- The character of a two-byte sequence. -/
def char2 (a b : UInt8) : Char :=
  Char.ofNat (a.toNat % 32 * 64 + payload b)

/-- The character of a three-byte sequence. -/
def char3 (a b c : UInt8) : Char :=
  Char.ofNat ((a.toNat % 16 * 64 + payload b) * 64 + payload c)

/-- The character of a four-byte sequence. -/
def char4 (a b c d : UInt8) : Char :=
  Char.ofNat (((a.toNat % 8 * 64 + payload b) * 64 + payload c) * 64 + payload d)

/-- Decodes the bytes that start at position `i` of the input. -/
def decodeFrom (i : Nat) : List UInt8 → Except Flaw (List Char)
  | [] => .ok []
  | a :: rest =>
    if a < 0x80 then (decodeFrom (i + 1) rest).map (Char.ofNat a.toNat :: ·)
    else if a < 0xC2 then .error ⟨i, some 1⟩
    else if a < 0xE0 then
      match rest with
      | [] => .error ⟨i, none⟩
      | b :: rest =>
        if isContinuation b then (decodeFrom (i + 2) rest).map (char2 a b :: ·)
        else .error ⟨i, some 1⟩
    else if a < 0xF0 then
      match rest with
      | [] => .error ⟨i, none⟩
      | [b] => .error ⟨i, if secondOfThree a b then none else some 1⟩
      | b :: c :: rest =>
        if !secondOfThree a b then .error ⟨i, some 1⟩
        else if !isContinuation c then .error ⟨i, some 2⟩
        else (decodeFrom (i + 3) rest).map (char3 a b c :: ·)
    else if a < 0xF5 then
      match rest with
      | [] => .error ⟨i, none⟩
      | [b] => .error ⟨i, if secondOfFour a b then none else some 1⟩
      | [b, c] =>
        .error ⟨i, if !secondOfFour a b then some 1 else if isContinuation c then none else some 2⟩
      | b :: c :: d :: rest =>
        if !secondOfFour a b then .error ⟨i, some 1⟩
        else if !isContinuation c then .error ⟨i, some 2⟩
        else if !isContinuation d then .error ⟨i, some 3⟩
        else (decodeFrom (i + 4) rest).map (char4 a b c d :: ·)
    else .error ⟨i, some 1⟩

/-- Decodes a whole input. -/
def decode (bytes : List UInt8) : Except Flaw (List Char) :=
  decodeFrom 0 bytes

/-- The bytes of a text. -/
def encode (s : String) : List UInt8 :=
  s.toUTF8.toList

end LogSpool.Text.Utf8
