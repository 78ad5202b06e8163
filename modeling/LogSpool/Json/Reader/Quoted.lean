import LogSpool.Json.Reader.Basic

/-!
# Reading quoted texts

This module reads the characters between two quotes.  Characters past U+FFFF may be escaped as a
pair of surrogates; half a pair is refused.
-/

namespace LogSpool.Json.Reader

/-- The value of a hexadecimal digit. -/
def hexDigit? (c : Char) : Option Nat :=
  if '0' ≤ c ∧ c ≤ '9' then some (c.toNat - '0'.toNat)
  else if 'a' ≤ c ∧ c ≤ 'f' then some (c.toNat - 'a'.toNat + 10)
  else if 'A' ≤ c ∧ c ≤ 'F' then some (c.toNat - 'A'.toNat + 10)
  else none

/-- The value of four hexadecimal digits. -/
def hexValue? (a b c d : Char) : Option Nat := do
  let a ← hexDigit? a
  let b ← hexDigit? b
  let c ← hexDigit? c
  let d ← hexDigit? d
  pure (((a * 16 + b) * 16 + c) * 16 + d)

/-- Takes four hexadecimal digits.  They are taken by bytes: a text that holds fewer than four more
bytes is cut short, and is read to its end. -/
def hexEscape : Reader Nat := fun c =>
  let bytes := (c.rest.take 4).foldl (fun n x => n + x.utf8Size) 0
  if bytes < 4 then .error (.placed ⟨.endInText, c.bytesAhead bytes, []⟩)
  else
    match c.rest with
    | a :: b :: x :: d :: _ =>
      match hexValue? a b x d with
      | some n => .ok (n, c.advance.advance.advance.advance)
      | none => .error (.placed ⟨.badEscape, c.bytesAhead 4, []⟩)
    | _ => .error (.placed ⟨.badEscape, c.bytesAhead 4, []⟩)

/-- The character of an escape that starts with `u`.  Characters past U+FFFF are written as two
escapes, a surrogate pair. -/
def unicodeEscape : Reader Char := do
  let n ← hexEscape
  if 0xDC00 ≤ n ∧ n ≤ 0xDFFF then failHere .loneSurrogate
  else if n < 0xD800 ∨ 0xDBFF < n then pure (Char.ofNat n)
  else do
    mark '\\' .endInText .surrogateCutShort
    mark 'u' .endInText .surrogateCutShort
    let low ← hexEscape
    if low < 0xDC00 ∨ 0xDFFF < low then failHere .loneSurrogate
    else pure (Char.ofNat ((n - 0xD800) * 1024 + (low - 0xDC00) + 0x10000))

/-- The character that an escape of one letter stands for. -/
def escape? : Char → Option Char
  | '"' => some '"'
  | '\\' => some '\\'
  | '/' => some '/'
  | 'b' => some '\x08'
  | 'f' => some '\x0c'
  | 'n' => some '\n'
  | 'r' => some '\r'
  | 't' => some '\t'
  | _ => none

/-- The character of an escape. -/
def escaped : Reader Char := do
  match ← peek with
  | some 'u' => do
    drop
    unicodeEscape
  | _ => taken escape? .endInText .badEscape

/-- The characters up to the closing quote, which is taken too. -/
def textLoop : Nat → List Char → Reader (List Char)
  | 0, _ => failHere .endInText
  | fuel + 1, read => do
    match ← next with
    | none => failHere .endInText
    | some '"' => pure read.reverse
    | some '\\' => do
      let c ← escaped
      textLoop fuel (c :: read)
    | some c =>
      if c.toNat < 0x20 then failHere .controlCharacter else textLoop fuel (c :: read)

/-- A quoted text whose opening quote has been taken. -/
def textBody : Reader String := do
  let n ← remaining
  let s ← textLoop (n + 1) []
  pure (String.ofList s)

end LogSpool.Json.Reader
