import LogSpool.Decimal.Layout
import LogSpool.Decimal.Nearest
import LogSpool.Power
import LogSpool.Settings.Value
import LogSpool.Text.Quoted

/-!
# Reading settings

This module turns the values of settings into what a program works with: numbers, texts and
choices.  Reading is lenient where a value has an obvious meaning: a truth value or a double can
stand for a number, and anything without parts can stand for a text.
-/

namespace LogSpool.Settings

/-- What was found where something else was expected. -/
inductive Found where
  | integer (n : Int)
  | unsigned (n : Nat)
  | text (s : String)
  | list
  | table
  deriving Repr, DecidableEq

/-- The name of a finding in a message. -/
def Found.message : Found → String
  | .integer n => "64-bit integer `" ++ toString n ++ "`"
  | .unsigned n => "64-bit unsigned integer `" ++ toString n ++ "`"
  | .text s => "string " ++ Text.quote s
  | .list => "sequence"
  | .table => "map"

/-- Why a setting cannot be used. -/
inductive Misfit where
  /-- The value is of the wrong kind. -/
  | kind (found : Found) (expected key : String) (origin : Option Origin)
  /-- The choice has no such variant. -/
  | variant (choice name : String)
  /-- The value cannot name a variant. -/
  | noVariant (choice : String)
  deriving Repr, DecidableEq

/-- The wording of a misfit. -/
def Misfit.message : Misfit → String
  | .kind found expected key origin =>
    "invalid type: " ++ found.message ++ ", expected " ++ expected ++ " for key `" ++ key ++ "`" ++
      (if origin = some .environment then " in the environment" else "")
  | .variant choice name => "enum " ++ choice ++ " does not have variant constructor " ++ name
  | .noVariant choice =>
    "value of enum " ++ choice ++
      " should be represented by either string or table with exactly one key"

/-- A double as a natural number of 64 bits: a half is rounded away from zero, what is out of range
becomes the nearest bound, and the undefined value becomes zero. -/
def natOfFloat (x : Float) : Nat :=
  x.round.toUInt64.toNat

/-- A text as a number: a word for a truth value, or a numeral. -/
def natOfText? (s : String) : Option Nat :=
  match Text.lower s with
  | "true" | "on" | "yes" => some 1
  | "false" | "off" | "no" => some 0
  | lower => Decimal.unsigned? (pow2 64) lower.toList

/-- A double as a text. -/
def textOfFloat (x : Float) : String :=
  String.ofList (Decimal.Layout.setting.write x)

namespace Value

/-- A natural number of 64 bits. -/
def natural? (key : String) : Value → Except Misfit Nat
  | .scalar (.bool b) _ => .ok (if b then 1 else 0)
  | .scalar (.integer n) origin =>
    if 0 ≤ n then .ok n.toNat
    else .error (.kind (.integer n) "an unsigned 64 bit or less integer" key origin)
  | .scalar (.float x) _ => .ok (natOfFloat x)
  | .scalar (.text s) origin =>
    match natOfText? s with
    | some n => .ok n
    | none => .error (.kind (.text s) "an integer" key origin)
  | .list => .error (.kind .list "an integer" key none)
  | .table _ => .error (.kind .table "an integer" key none)

/-- A natural number of 16 bits. -/
def natural16? (key : String) (v : Value) : Except Misfit Nat := do
  let n ← v.natural? key
  if n < pow2 16 then pure n
  else throw (.kind (.unsigned n) "an unsigned 16 bit integer" key none)

/-- A text. -/
def text? (key : String) : Value → Except Misfit String
  | .scalar (.bool b) _ => .ok (if b then "true" else "false")
  | .scalar (.integer n) _ => .ok (toString n)
  | .scalar (.float x) _ => .ok (textOfFloat x)
  | .scalar (.text s) _ => .ok s
  | .list => .error (.kind .list "a string" key none)
  | .table _ => .error (.kind .table "a string" key none)

/-- One of several variants, by its name in any case. -/
def choice? {α : Type} (choice : String) (variants : List (String × α)) :
    Value → Except Misfit α
  | .scalar (.text s) _ => named s
  | .table [(name, _)] => named name
  | _ => .error (.noVariant choice)
where
  named (name : String) : Except Misfit α :=
    match variants.find? (fun (variant, _) => Text.lower variant = Text.lower name) with
    | some (_, a) => .ok a
    | none => .error (.variant choice name)

end Value

end LogSpool.Settings
