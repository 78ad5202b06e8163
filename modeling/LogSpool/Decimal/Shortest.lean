import LogSpool.Power

/-!
# The shortest decimal that reads back

This module finds, for a finite double, the decimal with the fewest digits that rounds to it, and
of those the one nearest to it.  The search runs over grids of one to seventeen digits in exact
arithmetic on naturals: on each grid only the two neighbours of the value are candidates, since
whenever a point of the grid lies in the interval of reals that round to the double, one of those
two does.

The layout of the digits (point, exponent, sign) is decided in `LogSpool.Decimal.Layout`.
-/

namespace LogSpool.Decimal

/-- A finite magnitude `significand * 2 ^ exponent`.  `narrowBelow` says that the next smaller
double is only half a step away. -/
structure Binary where
  significand : Nat
  exponent : Int
  narrowBelow : Bool
  deriving Repr, DecidableEq

/-- The magnitude in a bit pattern of a finite double. -/
def Binary.ofBits (bits : Nat) : Binary :=
  let biased : Nat := bits / pow2 52 % 2048
  let fraction : Nat := bits % pow2 52
  if biased = 0 then ⟨fraction, -1074, false⟩
  else ⟨pow2 52 + fraction, (biased : Int) - 1075, fraction = 0 && 1 < biased⟩

/-- Positive digits: `coefficient * 10 ^ exponent`. -/
structure Digits where
  coefficient : Nat
  exponent : Int
  deriving Repr, DecidableEq

/-- The value, the ends of its interval and one, all over one denominator. -/
structure Interval where
  low : Nat
  value : Nat
  high : Nat
  unit : Nat
  closed : Bool

/-- The reals that round to a magnitude.  The ends belong to them exactly when the significand is
even. -/
def Binary.interval (b : Binary) : Interval :=
  let quarter := 4 * b.significand
  let below := if b.narrowBelow then 1 else 2
  let q := b.exponent - 2
  let up := pow2 q.toNat
  { low := (quarter - below) * up
    value := quarter * up
    high := (quarter + 2) * up
    unit := pow2 (-q).toNat
    closed := b.significand % 2 == 0 }

/-- Whether `n` units of `10 ^ e` lie in the interval. -/
def Interval.holds (i : Interval) (n : Nat) (e : Int) : Bool :=
  let point := n * pow10 e.toNat * i.unit
  let scale := pow10 (-e).toNat
  if i.closed then i.low * scale ≤ point && point ≤ i.high * scale
  else i.low * scale < point && point < i.high * scale

/-- The greatest `k` with `10 ^ k` at most the value, searched downwards from `start`. -/
def Interval.magnitude (i : Interval) : Nat → Int → Int
  | 0, k => k
  | fuel + 1, k =>
    if pow10 k.toNat * i.unit ≤ i.value * pow10 (-k).toNat then k else i.magnitude fuel (k - 1)

/-- The candidate on the grid of step `10 ^ e`: the neighbour of the value that lies in the
interval, the nearer one if both do, and the even one if both are equally near. -/
def Interval.candidate (i : Interval) (e : Int) : Option Nat :=
  let step := pow10 e.toNat * i.unit
  let value := i.value * pow10 (-e).toNat
  let below := value / step
  let rest := value % step
  let upper := if 2 * rest = step then below % 2 == 1 else decide (step < 2 * rest)
  let first := if upper then below + 1 else below
  let second := if upper then below else below + 1
  if i.holds first e then some first
  else if i.holds second e then some second
  else none

/-- Tries grids of more and more digits, `remaining` of them, from step `10 ^ e` downwards. -/
def Interval.search (i : Interval) : Nat → Int → Digits
  | 0, e => ⟨i.value * pow10 (-e).toNat / (pow10 e.toNat * i.unit), e⟩
  | remaining + 1, e =>
    match i.candidate e with
    | some n => ⟨n, e⟩
    | none => i.search remaining (e - 1)

/-- Moves factors of ten from the coefficient to the exponent. -/
def Digits.strip (fuel : Nat) (d : Digits) : Digits :=
  match fuel with
  | 0 => d
  | fuel + 1 =>
    if d.coefficient ≠ 0 ∧ d.coefficient % 10 = 0 then
      Digits.strip fuel ⟨d.coefficient / 10, d.exponent + 1⟩
    else d

/-- The shortest digits of a positive finite double, given by its bit pattern. -/
def shortest (bits : Nat) : Digits :=
  let b := Binary.ofBits bits
  let i := b.interval
  let top : Int := ((b.significand.log2 : Int) + b.exponent) * 30103 / 100000 + 1
  (i.search 17 (i.magnitude 3 top)).strip 20

end LogSpool.Decimal
