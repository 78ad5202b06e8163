import LogSpool.Decimal.Numeral
import LogSpool.Power

/-!
# The double nearest to a decimal

This module rounds `coefficient * 10 ^ exponent` to the nearest double, ties to the even
neighbour, in exact arithmetic on naturals.  Values past the range become infinite, values below
half the least positive double become zero.

The functions return bit patterns; `Float` appears only where the pattern is wrapped up.
-/

namespace LogSpool.Decimal

/-- The quotient rounded to the nearest natural, a tie to the even one. -/
def roundDiv (num den : Nat) : Nat :=
  let q := num / den
  let r := num % den
  if 2 * r > den ∨ (2 * r = den ∧ q % 2 = 1) then q + 1 else q

/-- The bit pattern of positive infinity. -/
def infinityBits : Nat := 0x7FF0000000000000

/-- `num / den` scaled by `2 ^ (-q)`, rounded. -/
def scaledQuotient (num den : Nat) (q : Int) : Nat :=
  if 0 ≤ q then roundDiv num (den * pow2 q.toNat) else roundDiv (num * pow2 (-q).toNat) den

/-- The bit pattern of the double nearest to `num / den`.  The exponent `q` is chosen so that the
significand has 53 bits, or is the least one where the value is too small for that; a significand
that rounds up to `2 ^ 53` carries into the exponent by itself. -/
def ratioBits (num den : Nat) : Nat :=
  if num = 0 then 0
  else
    let log : Int := (num.log2 : Int) - (den.log2 : Int)
    let atLeast : Bool :=
      if 0 ≤ log then den * pow2 log.toNat ≤ num else den ≤ num * pow2 (-log).toNat
    let log := if atLeast then log else log - 1
    let q := max (log - 52) (-1074)
    let m := scaledQuotient num den q
    let bits := (q + 1074).toNat * pow2 52 + m
    if bits < infinityBits then bits else infinityBits

/-- The bit pattern of the double nearest to a decimal magnitude.  The two first cases keep the
powers of ten small: past them the answer does not depend on the digits. -/
def magnitudeBits (coefficient : Nat) (exponent : Int) : Nat :=
  let size : Int := (Nat.toDigits 10 coefficient).length + exponent
  if coefficient = 0 ∨ size < -330 then 0
  else if size > 310 then infinityBits
  else if 0 ≤ exponent then ratioBits (coefficient * pow10 exponent.toNat) 1
  else ratioBits coefficient (pow10 (-exponent).toNat)

/-- The double nearest to a decimal. -/
def Scaled.toFloat (s : Scaled) : Float :=
  let bits := magnitudeBits s.coefficient s.exponent
  Float.ofBits (UInt64.ofNat (if s.negative then pow2 63 + bits else bits))

/-- The text in lower case, ASCII letters only. -/
def lowerAscii (s : List Char) : List Char :=
  s.map Char.toLower

/-- A double from its text: a numeral, or one of the names of infinity and of the undefined value
with an optional sign, in any case. -/
def float? (s : List Char) : Option Float :=
  match scaled? s with
  | some v => some v.toFloat
  | none =>
    let (negative, name) := match s with
      | '-' :: rest => (true, rest)
      | '+' :: rest => (false, rest)
      | _ => (false, s)
    let name := String.ofList (lowerAscii name)
    let infinity : Float := Float.ofBits (UInt64.ofNat infinityBits)
    if name = "inf" ∨ name = "infinity" then some (if negative then -infinity else infinity)
    else if name = "nan" then some (0.0 / 0.0)
    else none

end LogSpool.Decimal
