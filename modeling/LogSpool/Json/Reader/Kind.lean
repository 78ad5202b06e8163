import LogSpool.Json.Reader.Number
import LogSpool.Json.Reader.Quoted
import LogSpool.Power

/-!
# Reading values of a known kind

This module reads values of which the kind is known: texts, truth values, natural numbers and
choices.  A value of another kind is named in the complaint.
-/

namespace LogSpool.Json.Reader

variable {α : Type}

/-- What a number is called where it is not wanted. -/
def Numeral.found : Numeral → Found
  | .whole n => .integer n
  | .float x => .float x

/-- Complains about the value that comes next, which is not of the kind that was expected.  Scalars
are read first, so that a fault inside them is reported instead. -/
def unexpected (expected : String) : Reader α := do
  let complain (found : Found) : Reader α := failHere (.invalidType found expected)
  match ← peek with
  | some 'n' => do
    drop
    word ['u', 'l', 'l']
    complain .null
  | some 't' => do
    drop
    word ['r', 'u', 'e']
    complain (.boolean true)
  | some 'f' => do
    drop
    word ['a', 'l', 's', 'e']
    complain (.boolean false)
  | some '"' => do
    drop
    let s ← textBody
    complain (.text s)
  | some '[' => complain .list
  | some '\x7b' => complain .record
  | some '-' => do
    drop
    let n ← number true
    complain n.found
  | some c =>
    if c.isDigit then do
      let n ← number false
      complain n.found
    else failAhead .valueExpected
  | none => failAhead .valueExpected

/-- The first character of a value. -/
def valueStart : Reader Char := do
  match ← peekToken with
  | some c => pure c
  | none => failAhead .endInValue

/-- A text. -/
def text : Reader String := do
  match ← valueStart with
  | '"' => do
    drop
    textBody
  | _ => unexpected "a string"

/-- A truth value. -/
def flag : Reader Bool := do
  match ← valueStart with
  | 't' => do
    drop
    word ['r', 'u', 'e']
    pure true
  | 'f' => do
    drop
    word ['a', 'l', 's', 'e']
    pure false
  | _ => unexpected "a boolean"

/-- A natural number below `2 ^ bits`; `expected` names the kind in complaints. -/
def unsigned (bits : Nat) (expected : String) : Reader Nat := do
  let accept (n : Numeral) : Reader Nat :=
    match n with
    | .whole n =>
      if 0 ≤ n ∧ n < pow2 bits then pure n.toNat
      else failHere (.invalidValue (.integer n) expected)
    | .float x => failHere (.invalidType (.float x) expected)
  match ← valueStart with
  | '-' => do
    drop
    accept (← number true)
  | c => if c.isDigit then do accept (← number false) else unexpected expected

/-- A size: a natural number of 64 bits. -/
def size : Reader Nat :=
  unsigned 64 "usize"

/-- A value that may be `null`. -/
def optional (r : Reader α) : Reader (Option α) := do
  match ← peekToken with
  | some 'n' => do
    drop
    word ['u', 'l', 'l']
    pure none
  | _ => do
    let x ← r
    pure (some x)

/-- Looks a name up among variants. -/
def variantNamed (variants : List (String × α)) (name : String) : Except Complaint α :=
  match variants.lookup name with
  | some x => .ok x
  | none => .error (.unknownVariant name (variants.map Prod.fst))

/-- The name of a variant, as a text. -/
def variantName (variants : List (String × α)) : Reader α := do
  match ← valueStart with
  | '"' => do
    drop
    let name ← textBody
    match variantNamed variants name with
    | .ok x => pure x
    | .error what => failHere what
  | _ => unexpected "variant identifier"

/-- The colon after the name of a member. -/
def colon : Reader Unit := do
  match ← peekToken with
  | some ':' => drop
  | some _ => failAhead .colonExpected
  | none => failAhead .endInRecord

/-- The value `null` of a variant without content. -/
def noContent : Reader Unit := do
  match ← valueStart with
  | 'n' => do
    drop
    word ['u', 'l', 'l']
  | _ => unexpected "unit"

/-- One of several variants: its name as a text, or a record with the name as its only member and
`null` as the value. -/
def choice (variants : List (String × α)) : Reader α := do
  match ← peekToken with
  | some '"' => variantName variants
  | some '\x7b' => do
    drop
    match ← peekToken with
    | some '"' => pure ()
    | some _ => failAhead .nameExpected
    | none => failAhead .endInRecord
    let x ← variantName variants
    colon
    noContent
    match ← peekToken with
    | some '\x7d' => do
      drop
      pure x
    | some _ => failHere .valueExpected
    | none => failHere .endInRecord
  | some _ => failAhead .valueExpected
  | none => failAhead .endInValue

end LogSpool.Json.Reader
