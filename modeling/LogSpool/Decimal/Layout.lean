import LogSpool.Decimal.Shortest
import LogSpool.Power

/-!
# Writing doubles

This module lays out the shortest digits of a double.  A `Layout` records the decisions of one
format: from which to which exponent the value is written positionally, whether a whole value gets
a fraction, and how the exponent is written otherwise.
-/

namespace LogSpool.Decimal

/-- The decisions of a number format.  The exponents are those of the leading digit. -/
structure Layout where
  /-- The least exponent written positionally, `none` if there is no limit. -/
  leastPlain : Option Int
  /-- The first exponent that is no longer written positionally, `none` if there is no limit. -/
  endPlain : Option Int
  /-- Whether a whole value is followed by `.0`. -/
  keepsFraction : Bool
  /-- Whether a positive exponent carries its sign. -/
  signsExponent : Bool
  notANumber : String
  infinity : String

/-- Documents write values from 0.00001 up to, but not including, 10^16 positionally and always
with a fraction, and anything else with an exponent that carries its sign. -/
def Layout.document : Layout :=
  ⟨some (-5), some 16, true, true, "null", "null"⟩

/-- Settings write every value positionally, and a whole value without a fraction. -/
def Layout.setting : Layout :=
  ⟨none, none, false, false, "NaN", "inf"⟩

/-- The digits of a natural number. -/
def digitsOf (n : Nat) : List Char :=
  Nat.toDigits 10 n

/-- Digits with the point where the exponent puts it. -/
def positional (digits : List Char) (exponent : Int) (keepsFraction : Bool) : List Char :=
  if 0 ≤ exponent then
    digits ++ List.replicate exponent.toNat '0' ++ (if keepsFraction then ['.', '0'] else [])
  else
    let places := (-exponent).toNat
    if places < digits.length then
      digits.take (digits.length - places) ++ '.' :: digits.drop (digits.length - places)
    else '0' :: '.' :: (List.replicate (places - digits.length) '0' ++ digits)

/-- One digit, a fraction of the rest if there is one, and the exponent of the leading digit. -/
def scientific (digits : List Char) (leading : Int) (signsExponent : Bool) : List Char :=
  let mantissa := match digits with
    | first :: second :: rest => first :: '.' :: second :: rest
    | _ => digits
  let sign := if leading < 0 then ['-'] else if signsExponent then ['+'] else []
  mantissa ++ 'e' :: (sign ++ digitsOf leading.natAbs)

/-- The text of a positive finite magnitude or of zero. -/
def Layout.magnitude (l : Layout) (bits : Nat) : List Char :=
  if bits = 0 then if l.keepsFraction then ['0', '.', '0'] else ['0']
  else
    let d := shortest bits
    let digits := digitsOf d.coefficient
    let leading := d.exponent + digits.length - 1
    if l.leastPlain.all (· ≤ leading) && l.endPlain.all (leading < ·) then
      positional digits d.exponent l.keepsFraction
    else scientific digits leading l.signsExponent

/-- The text of a double. -/
def Layout.write (l : Layout) (x : Float) : List Char :=
  let bits := x.toBits.toNat
  let magnitude := bits % pow2 63
  let sign := if pow2 63 ≤ bits then ['-'] else []
  if 0x7FF0000000000000 < magnitude then l.notANumber.toList
  else if magnitude = 0x7FF0000000000000 then sign ++ l.infinity.toList
  else sign ++ l.magnitude magnitude

end LogSpool.Decimal
