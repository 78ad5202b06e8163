import LogSpool.Decimal.Layout
import LogSpool.Decimal.Nearest
import LogSpool.Power
import LogSpool.Settings.Value

/-!
# Bare values of TOML

This module reads the values of TOML that stand without quotes or brackets: truth values, integers,
doubles, and dates and times.  A date or a time is kept as its text in normal form.

Digits may be grouped by underscores, each between two digits.
-/

namespace LogSpool.Toml

open LogSpool.Settings (Scalar)

/-- Digits without the underscores between them: `pending` tells that a digit has to follow. -/
def ungroupFrom (isDigit : Char → Bool) : Bool → List Char → Option (List Char)
  | pending, [] => if pending then none else some []
  | pending, c :: rest =>
    if isDigit c then (ungroupFrom isDigit false rest).map (c :: ·)
    else if c = '_' ∧ pending = false then ungroupFrom isDigit true rest
    else none

/-- One or more grouped digits. -/
def ungroup (isDigit : Char → Bool) (s : List Char) : Option (List Char) :=
  ungroupFrom isDigit true s

/-- The whole part of a number: grouped digits without a leading zero. -/
def wholeDigits? (s : List Char) : Option (List Char) :=
  match s with
  | ['0'] => some s
  | '0' :: _ => none
  | _ => ungroup Char.isDigit s

/-- The sign of a number, and what follows it. -/
def splitSign : List Char → Bool × List Char
  | '-' :: rest => (true, rest)
  | '+' :: rest => (false, rest)
  | s => (false, s)

/-- The value of a digit of any base up to sixteen. -/
def digitValue (c : Char) : Nat :=
  if c.isDigit then c.toNat - '0'.toNat
  else if 'a' ≤ c ∧ c ≤ 'f' then c.toNat - 'a'.toNat + 10
  else c.toNat - 'A'.toNat + 10

/-- Whether a character is a digit of a base. -/
def isDigitOf (base : Nat) (c : Char) : Bool :=
  (c.isDigit || ('a' ≤ c && c ≤ 'f') || ('A' ≤ c && c ≤ 'F')) && digitValue c < base

/-- A natural number in another base. -/
def based? (base : Nat) (s : List Char) : Option Int := do
  let digits ← ungroup (isDigitOf base) s
  let n := digits.foldl (fun n c => n * base + digitValue c) 0
  if n < pow2 63 then some n else none

/-- An integer of 64 bits. -/
def integer? (s : List Char) : Option Int :=
  match s with
  | '0' :: 'x' :: digits => based? 16 digits
  | '0' :: 'o' :: digits => based? 8 digits
  | '0' :: 'b' :: digits => based? 2 digits
  | _ => do
    let (negative, digits) := splitSign s
    let digits ← wholeDigits? digits
    Decimal.signed64? (if negative then '-' :: digits else digits)

/-- The exponent of a number after its letter. -/
def exponentDigits? (s : List Char) : Option (List Char) :=
  match s with
  | '-' :: digits => (ungroup Char.isDigit digits).map ('-' :: ·)
  | '+' :: digits => ungroup Char.isDigit digits
  | digits => ungroup Char.isDigit digits

/-- Whether a character starts an exponent. -/
def isExponentMark (c : Char) : Bool :=
  c = 'e' || c = 'E'

/-- What follows the point of a number: digits, and an exponent if there is one. -/
def fraction? (s : List Char) : Option (List Char) := do
  let digits ← ungroup Char.isDigit (s.takeWhile (!isExponentMark ·))
  match s.dropWhile (!isExponentMark ·) with
  | [] => pure digits
  | _ :: exponent => do
    let exponent ← exponentDigits? exponent
    pure (digits ++ 'e' :: exponent)

/-- The numeral of a double, without its sign and without underscores. -/
def numeral? (s : List Char) : Option (List Char) :=
  let isWhole (c : Char) : Bool := c != '.' && !isExponentMark c
  match s.dropWhile isWhole with
  | '.' :: rest => do
    let whole ← wholeDigits? (s.takeWhile isWhole)
    let fraction ← fraction? rest
    pure (whole ++ '.' :: fraction)
  | _ :: rest => do
    let whole ← wholeDigits? (s.takeWhile isWhole)
    let exponent ← exponentDigits? rest
    pure (whole ++ 'e' :: exponent)
  | [] => none

/-- A double.  A numeral that is too large for a positive double is refused. -/
def float? (s : List Char) : Option Float := do
  let (negative, magnitude) := splitSign s
  let sign (s : List Char) : List Char := if negative then '-' :: s else s
  if magnitude = ['i', 'n', 'f'] ∨ magnitude = ['n', 'a', 'n'] then
    Decimal.float? (sign magnitude)
  else do
    let numeral ← numeral? magnitude
    let x ← Decimal.float? (sign numeral)
    if x.isInf ∧ negative = false then none else some x

/-! ### Dates and times -/

/-- A number of exactly `count` digits at the head of a text, and what follows it. -/
def fixed? (count : Nat) (s : List Char) : Option (Nat × List Char) := do
  let digits := s.take count
  if digits.length = count then do
    let n ← Decimal.natural? digits
    pure (n, s.drop count)
  else none

/-- What follows an expected character. -/
def skip? (expected : Char) : List Char → Option (List Char)
  | c :: rest => if c = expected then some rest else none
  | [] => none

/-- The days of a month. -/
def daysOf (year month : Nat) : Nat :=
  if month = 2 then
    if (year % 4 = 0 ∧ year % 100 ≠ 0) ∨ year % 400 = 0 then 29 else 28
  else if month = 4 ∨ month = 6 ∨ month = 9 ∨ month = 11 then 30
  else 31

/-- A number with at least `count` digits. -/
def padded (count n : Nat) : List Char :=
  let digits := Decimal.digitsOf n
  List.replicate (count - digits.length) '0' ++ digits

/-- A date in normal form, and what follows it. -/
def date? (s : List Char) : Option (List Char × List Char) := do
  let (year, s) ← fixed? 4 s
  let s ← skip? '-' s
  let (month, s) ← fixed? 2 s
  let s ← skip? '-' s
  let (day, s) ← fixed? 2 s
  if 1 ≤ month ∧ month ≤ 12 ∧ 1 ≤ day ∧ day ≤ daysOf year month then
    pure (padded 4 year ++ '-' :: (padded 2 month ++ '-' :: padded 2 day), s)
  else none

/-- The fraction of a second in normal form: at most nine digits, and no zeros at the end. -/
def secondFraction (digits : List Char) : List Char :=
  match ((digits.take 9).reverse.dropWhile (· = '0')).reverse with
  | [] => []
  | kept => '.' :: kept

/-- How far the hours of a moment may go. -/
structure HourRange where
  /-- The hour that a time cannot reach. -/
  timeEnd : Nat
  /-- Whether an offset of some hours and minutes is in range. -/
  offsetFits : Nat → Nat → Bool

/-- The range of a moment that stands as itself. -/
def HourRange.strict : HourRange :=
  ⟨24, fun hour minute => hour < 24 && minute < 60⟩

/-- The range of a moment that is given as a text: a day may have an hour 24, and the minutes of an
offset may go on past the hour. -/
def HourRange.lenient : HourRange :=
  ⟨25, fun hour minute => hour * 60 + minute ≤ 24 * 60⟩

/-- A time in normal form, and what follows it. -/
def time? (range : HourRange) (s : List Char) : Option (List Char × List Char) := do
  let (hour, s) ← fixed? 2 s
  let s ← skip? ':' s
  let (minute, s) ← fixed? 2 s
  let s ← skip? ':' s
  let (second, s) ← fixed? 2 s
  if range.timeEnd ≤ hour ∨ 60 ≤ minute ∨ 60 < second then none
  let whole := padded 2 hour ++ ':' :: (padded 2 minute ++ ':' :: padded 2 second)
  match s with
  | '.' :: rest =>
    let digits := rest.takeWhile Char.isDigit
    if digits.isEmpty then none
    else pure (whole ++ secondFraction digits, rest.dropWhile Char.isDigit)
  | _ => pure (whole, s)

/-- An offset from universal time in normal form; nothing may follow it. -/
def offset? (range : HourRange) : List Char → Option (List Char)
  | [] => some []
  | ['Z'] | ['z'] => some ['Z']
  | sign :: s => do
    if sign ≠ '+' ∧ sign ≠ '-' then none
    let (hour, s) ← fixed? 2 s
    let s ← skip? ':' s
    let (minute, s) ← fixed? 2 s
    if s ≠ [] ∨ range.offsetFits hour minute = false then none
    let minutes := hour * 60 + minute
    let sign := if minutes = 0 then '+' else sign
    pure (sign :: (padded 2 (minutes / 60) ++ ':' :: padded 2 (minutes % 60)))

/-- A date, a time, or a date with a time and perhaps an offset, in normal form. -/
def moment? (range : HourRange) (s : List Char) : Option (List Char) :=
  match date? s with
  | some (date, []) => some date
  | some (date, delimiter :: rest) =>
    if delimiter = 'T' ∨ delimiter = 't' ∨ delimiter = ' ' then do
      let (time, rest) ← time? range rest
      let offset ← offset? range rest
      pure (date ++ 'T' :: (time ++ offset))
    else none
  | none =>
    match time? range s with
    | some (time, []) => some time
    | _ => none

/-- A value that stands without quotes or brackets. -/
inductive Bare where
  /-- A date or a time, by its text in normal form. -/
  | moment (text : String)
  | plain (s : Scalar)

/-- The value of a bare word. -/
def bare? (s : List Char) : Option Bare :=
  if s = ['t', 'r', 'u', 'e'] then some (.plain (.bool true))
  else if s = ['f', 'a', 'l', 's', 'e'] then some (.plain (.bool false))
  else
    match moment? .strict s with
    | some text => some (.moment (String.ofList text))
    | none =>
      match integer? s with
      | some n => some (.plain (.integer n))
      | none => (float? s).map fun x => .plain (.float x)

end LogSpool.Toml
