import LogSpool.Power

/-!
# Reading numerals

This module reads decimal numerals: naturals, integers with a sign, and the coefficient and
exponent of a numeral with a fraction or an exponent.  It decides which texts are numerals; which
double a numeral stands for is decided in `LogSpool.Decimal.Nearest`.

Only the ASCII digits count as digits.
-/

namespace LogSpool.Decimal

/-- The value of an ASCII digit. -/
def digit? (c : Char) : Option Nat :=
  if c.isDigit then some (c.toNat - '0'.toNat) else none

/-- Appends the digits of a text to a number, and refuses any other character. -/
def foldDigits : Nat → List Char → Option Nat
  | n, [] => some n
  | n, c :: rest =>
    match digit? c with
    | some d => foldDigits (10 * n + d) rest
    | none => none

/-- A natural number: at least one digit and nothing else.  Leading zeros are allowed. -/
def natural? : List Char → Option Nat
  | [] => none
  | s => foldDigits 0 s

/-- A natural number below `bound`, with an optional plus sign. -/
def unsigned? (bound : Nat) (s : List Char) : Option Nat :=
  let magnitude := match s with
    | '+' :: rest => natural? rest
    | _ => natural? s
  magnitude.filter (· < bound)

/-- An integer of 64 bits, with an optional sign. -/
def signed64? (s : List Char) : Option Int :=
  match s with
  | '-' :: rest =>
    ((natural? rest).filter (· ≤ pow2 63)).map fun n => - (n : Int)
  | '+' :: rest => ((natural? rest).filter (· < pow2 63)).map Int.ofNat
  | _ => ((natural? s).filter (· < pow2 63)).map Int.ofNat

/-- A decimal value: `coefficient * 10 ^ exponent`, with a sign. -/
structure Scaled where
  negative : Bool
  coefficient : Nat
  exponent : Int
  deriving Repr, DecidableEq

/-- The digits at the head of a text, and what follows them. -/
def spanDigits (s : List Char) : List Char × List Char :=
  (s.takeWhile Char.isDigit, s.dropWhile Char.isDigit)

/-- The exponent part of a numeral: nothing, or a letter `e`, an optional sign and digits. -/
def exponentPart? : List Char → Option Int
  | [] => some 0
  | e :: rest =>
    if e = 'e' ∨ e = 'E' then
      match rest with
      | '-' :: digits => (natural? digits).map fun n => - (n : Int)
      | '+' :: digits => (natural? digits).map Int.ofNat
      | digits => (natural? digits).map Int.ofNat
    else none

/-- A numeral without a sign: digits, an optional point with more digits, an optional exponent.
One of the two groups of digits may be empty. -/
def magnitude? (s : List Char) : Option (Nat × Int) := do
  let (whole, rest) := spanDigits s
  let (fraction, rest) := match rest with
    | '.' :: rest => spanDigits rest
    | _ => ([], rest)
  let coefficient ← natural? (whole ++ fraction)
  let exponent ← exponentPart? rest
  pure (coefficient, exponent - fraction.length)

/-- A numeral with an optional sign. -/
def scaled? : List Char → Option Scaled
  | '-' :: rest => (magnitude? rest).map fun (c, e) => ⟨true, c, e⟩
  | '+' :: rest => (magnitude? rest).map fun (c, e) => ⟨false, c, e⟩
  | s => (magnitude? s).map fun (c, e) => ⟨false, c, e⟩

end LogSpool.Decimal
