import LogSpool.Json.Reader.Bracket
import LogSpool.Json.Reader.Kind

/-!
# Reading values of any kind

This module reads whole texts, and values of which nothing is known beforehand.
-/

namespace LogSpool.Json

namespace Reader

variable {α : Type}

/-- Reads a value of any kind.  `fuel` bounds the number of values and brackets. -/
def value : Nat → Reader Json
  | 0 => failAhead .endInValue
  | fuel + 1 => do
    match ← valueStart with
    | 'n' => do
      drop
      word ['u', 'l', 'l']
      pure .null
    | 't' => do
      drop
      word ['r', 'u', 'e']
      pure (.bool true)
    | 'f' => do
      drop
      word ['a', 'l', 's', 'e']
      pure (.bool false)
    | '"' => do
      drop
      let s ← textBody
      pure (.text s)
    | '[' => do
      drop
      let items ← items fuel true
      pure (.list items)
    | '\x7b' => do
      drop
      let members ← members fuel true
      pure (.record members)
    | '-' => do
      drop
      let n ← number true
      pure (match n with
        | .whole n => .integer n
        | .float x => .float x)
    | c =>
      if c.isDigit then do
        let n ← number false
        pure (match n with
          | .whole n => .integer n
          | .float x => .float x)
      else failAhead .valueExpected
where
  items : Nat → Bool → Reader (List Json)
    | 0, _ => failAhead .endInList
    | fuel + 1, first => do
      if ← hasItem first then do
        let item ← value fuel
        let rest ← items fuel false
        pure (item :: rest)
      else do
        drop
        pure []
  members : Nat → Bool → Reader (List (String × Json))
    | 0, _ => failAhead .endInRecord
    | fuel + 1, first => do
      if ← hasMember first then do
        drop
        let name ← textBody
        colon
        let item ← value fuel
        let rest ← members fuel false
        pure ((name, item) :: rest)
      else do
        drop
        pure []

/-- Reads a whole text: nothing but a gap may follow the value. -/
def run (r : Reader α) (s : String) : Except Fault α :=
  match (do
      let x ← r
      match ← peekToken with
      | some _ => failAhead .trailingCharacters
      | none => pure x : Reader α) (Cursor.start s.toList) with
  | .ok (x, _) => .ok x
  | .error (.placed fault) => .error fault
  | .error (.floating what c) => .error ⟨what, c.position, []⟩

end Reader

/-- Reads a text as a JSON value. -/
def read (s : String) : Except Fault Json :=
  Reader.run (Reader.value (s.length + 1)) s

end LogSpool.Json
