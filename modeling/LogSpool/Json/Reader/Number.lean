import LogSpool.Decimal.Nearest
import LogSpool.Json.Reader.Basic
import LogSpool.Power

/-!
# Reading numbers

This module reads numbers.  Whole numbers of 64 bits are kept exactly, and any other number becomes
a double: its leading digits, as many as fit into 64 bits, are scaled by a power of ten in one
step, so that a double with many digits may differ from the nearest one in its last place.
-/

namespace LogSpool.Json.Reader

/-- A number as read: whole numbers of 64 bits are kept exactly. -/
inductive Numeral where
  | whole (n : Int)
  | float (x : Float)

/-- The greatest natural of 64 bits. -/
def maxWord : Nat := pow2 64 - 1

/-- `10 ^ n` as a double, for `n` up to 308. -/
def powerOfTen (n : Nat) : Float :=
  (Decimal.Scaled.mk false 1 n).toFloat

/-- Takes digits as long as the number fits into 64 bits.  The answer says whether it stopped
before a digit that no longer fits, and how many digits it took. -/
def digitsLoop : Nat → Nat → Nat → Reader (Nat × Nat × Bool)
  | 0, n, count => pure (n, count, false)
  | fuel + 1, n, count => do
    match ← peek with
    | some c =>
      match Decimal.digit? c with
      | some d =>
        if maxWord < n * 10 + d then pure (n, count, true)
        else do
          drop
          digitsLoop fuel (n * 10 + d) (count + 1)
      | none => pure (n, count, false)
    | none => pure (n, count, false)

/-- Takes further digits without keeping them, and counts them. -/
def skipDigits : Nat → Nat → Reader Nat
  | 0, count => pure count
  | fuel + 1, count => do
    match ← peek with
    | some c =>
      if c.isDigit then do
        drop
        skipDigits fuel (count + 1)
      else pure count
    | none => pure count

/-- Scales a significand by a power of ten with one multiplication or division by a table entry,
after steps of 10^308 where the exponent is past the table. -/
def scaleLoop : Nat → Float → Int → Option Float
  | 0, x, _ => some x
  | fuel + 1, x, e =>
    if e.natAbs ≤ 308 then
      if 0 ≤ e then
        let y := x * powerOfTen e.toNat
        if y.isInf then none else some y
      else some (x / powerOfTen e.natAbs)
    else if x == 0.0 then some x
    else if 0 ≤ e then none
    else scaleLoop fuel (x / powerOfTen 308) (e + 308)

/-- The double of a significand and an exponent. -/
def scaled (negative : Bool) (significand : Nat) (e : Int) : Reader Numeral :=
  match scaleLoop (e.natAbs / 308 + 2) (Float.ofNat significand) e with
  | some x => pure (.float (if negative then -x else x))
  | none => failHere .numberOutOfRange

/-- The digits of an exponent.  `none` says that they are past the range of exponents. -/
def exponentLoop : Nat → Nat → Reader (Option Nat)
  | 0, n => pure (some n)
  | fuel + 1, n => do
    match (← peek).bind Decimal.digit? with
    | some d => do
      drop
      if pow2 31 ≤ n * 10 + d then pure none else exponentLoop fuel (n * 10 + d)
    | none => pure (some n)

/-- The exponent of a number, whose letter has not been taken yet. -/
def exponentPart (negative : Bool) (significand : Nat) (e : Int) : Reader Numeral := do
  drop
  let sign ← peek
  if sign = some '+' ∨ sign = some '-' then drop
  let down := sign = some '-'
  let d ← taken Decimal.digit? .endInValue .badNumber
  let n ← remaining
  match ← exponentLoop (n + 1) d with
  | some exp => scaled negative significand (if down then e - exp else e + exp)
  | none =>
    if significand ≠ 0 ∧ ¬ down then failHere .numberOutOfRange
    else do
      let _ ← skipDigits n 0
      pure (.float (if negative then -0.0 else 0.0))

/-- What may follow the digits of a fraction. -/
def fractionEnd (negative : Bool) (significand : Nat) (e : Int) : Reader Numeral := do
  match ← peek with
  | some 'e' | some 'E' => exponentPart negative significand e
  | _ => scaled negative significand e

/-- The fraction of a number, whose point has not been taken yet.  Digits past 64 bits are skipped
and do not count. -/
def fractionPart (negative : Bool) (significand : Nat) (e : Int) : Reader Numeral := do
  drop
  let n ← remaining
  let (significand, count, full) ← digitsLoop n significand 0
  if full then do
    let _ ← skipDigits n 0
    fractionEnd negative significand (e - count)
  else if count = 0 then do
    match ← peek with
    | some _ => failAhead .badNumber
    | none => failAhead .endInValue
  else fractionEnd negative significand (e - count)

/-- What may follow the whole digits of a number. -/
def wholeEnd (negative : Bool) (significand : Nat) : Reader Numeral := do
  match ← peek with
  | some '.' => fractionPart negative significand 0
  | some 'e' | some 'E' => exponentPart negative significand 0
  | _ =>
    if negative = false then pure (.whole significand)
    else if 0 < significand ∧ significand ≤ pow2 63 then pure (.whole (-(significand : Int)))
    else pure (.float (-Float.ofNat significand))

/-- A number that is past 64 bits: the digits that no longer fit only raise the exponent. -/
def longNumber (negative : Bool) (significand : Nat) : Reader Numeral := do
  let n ← remaining
  let skipped ← skipDigits n 0
  match ← peek with
  | some '.' => fractionPart negative significand skipped
  | some 'e' | some 'E' => exponentPart negative significand skipped
  | _ => scaled negative significand skipped

/-- A number after its sign. -/
def number (negative : Bool) : Reader Numeral := do
  let d ← taken Decimal.digit? .endInValue .badNumber
  if d = 0 then
    match ← peek with
    | some c => if c.isDigit then failAhead .badNumber else wholeEnd negative 0
    | none => wholeEnd negative 0
  else do
    let n ← remaining
    let (significand, _, full) ← digitsLoop n d 1
    if full then longNumber negative significand else wholeEnd negative significand

end LogSpool.Json.Reader
