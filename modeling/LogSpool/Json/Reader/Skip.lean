import LogSpool.Json.Reader.Kind

/-!
# Skipping values

This module skips values that nobody asked for.  A skipped value has to be well formed, but what it
means does not matter: surrogates need not be paired and numbers may be of any size.
-/

namespace LogSpool.Json.Reader

/-- Skips an escape.  Surrogates need not be paired here. -/
def skipEscaped : Reader Unit := do
  match ← peek with
  | some 'u' => do
    drop
    let _ ← hexEscape
    pure ()
  | _ => do
    let _ ← taken escape? .endInText .badEscape
    pure ()

/-- Skips the characters up to the closing quote, and the quote. -/
def skipTextLoop : Nat → Reader Unit
  | 0 => failHere .endInText
  | fuel + 1 => do
    match ← peek with
    | none => failHere .endInText
    | some '"' => drop
    | some '\\' => do
      drop
      skipEscaped
      skipTextLoop fuel
    | some c =>
      if c.toNat < 0x20 then failHere .controlCharacter
      else do
        drop
        skipTextLoop fuel

/-- Skips a quoted text whose opening quote has been taken. -/
def skipText : Reader Unit := do
  let n ← remaining
  skipTextLoop (n + 1)

/-- Takes one or more digits of a number that is skipped. -/
def skipExponent : Reader Unit := do
  drop
  match ← peek with
  | some '+' | some '-' => drop
  | _ => pure ()
  let _ ← taken Decimal.digit? .badNumber .badNumber
  let n ← remaining
  let _ ← skipDigits n 0
  pure ()

/-- Skips a number after its sign. -/
def skipNumber : Reader Unit := do
  let n ← remaining
  let d ← taken Decimal.digit? .badNumber .badNumber
  if d = 0 then
    match ← peek with
    | some c => if c.isDigit then failAhead .badNumber else pure ()
    | none => pure ()
  else do
    let _ ← skipDigits n 0
    pure ()
  match ← peek with
  | some '.' => do
    drop
    let count ← skipDigits n 0
    if count = 0 then failAhead .badNumber
    else
      match ← peek with
      | some 'e' | some 'E' => skipExponent
      | _ => pure ()
  | some 'e' | some 'E' => skipExponent
  | _ => pure ()

/-- Skips a value of any kind.  `fuel` bounds the number of values and brackets. -/
def skipValue : Nat → Reader Unit
  | 0 => failAhead .endInValue
  | fuel + 1 => do
    match ← valueStart with
    | 'n' => do
      drop
      word ['u', 'l', 'l']
    | 't' => do
      drop
      word ['r', 'u', 'e']
    | 'f' => do
      drop
      word ['a', 'l', 's', 'e']
    | '"' => do
      drop
      skipText
    | '-' => do
      drop
      skipNumber
    | '[' => do
      drop
      skipItems fuel true
    | '\x7b' => do
      drop
      skipMembers fuel true
    | c => if c.isDigit then skipNumber else failAhead .valueExpected
where
  skipItems : Nat → Bool → Reader Unit
    | 0, _ => failAhead .endInList
    | fuel + 1, first => do
      match ← peekToken with
      | some ']' => drop
      | some ',' =>
        if first then failAhead .valueExpected
        else do
          drop
          skipValue fuel
          skipItems fuel false
      | some _ =>
        if first then do
          skipValue fuel
          skipItems fuel false
        else failAhead .listCommaOrEnd
      | none => failAhead .endInList
  skipMembers : Nat → Bool → Reader Unit
    | 0, _ => failAhead .endInRecord
    | fuel + 1, first => do
      match ← peekToken with
      | some '\x7d' => drop
      | some c => do
        if first then pure () else if c = ',' then drop else failAhead .recordCommaOrEnd
        match ← peekToken with
        | some '"' => do
          drop
          skipText
          match ← peekToken with
          | some ':' => drop
          | some _ => failAhead .colonExpected
          | none => failAhead .endInRecord
          skipValue fuel
          skipMembers fuel false
        | some _ => failAhead .nameExpected
        | none => failAhead .endInRecord
      | none => failAhead .endInRecord

end LogSpool.Json.Reader
