import LogSpool.Json.Reader.Bracket
import LogSpool.Json.Reader.Skip
import LogSpool.Json.Reader.Value

/-!
# Reading records

This module reads records whose members are known, from one reader per member.  Members may come in
any order, unknown members are skipped, a repeated member is refused, and a record may also be
written as a list of its members in order.

What the members of a particular record are is decided where that record is defined.
-/

namespace LogSpool.Json.Reader

variable {α : Type}

/-- A member of a record of type `α`: its name, whether it must be there, and how its value is read
and stored. -/
structure Field (α : Type) where
  name : String
  required : Bool
  store : α → Reader α

/-- A member of a record that is stored in a part of a larger one. -/
def Field.within {β : Type} (part : β → α) (replace : α → β → β) (field : Field α) : Field β :=
  ⟨field.name, field.required, fun b => return replace (← field.store (part b)) b⟩

/-- Closes a record after a complaint: the bracket is taken if it comes next. -/
def closeAfter (c : Cursor) (bracket : Char) : Cursor :=
  let c := c.skipGap
  if c.rest.head? = some bracket then c.advance else c

/-- Where a list goes on instead of ending, its comma is taken before the complaint is placed. -/
def closeListAfter (c : Cursor) : Cursor :=
  let c := c.skipGap
  match c.rest with
  | ']' :: _ => c.advance
  | ',' :: _ => c.advance.skipGap
  | _ => c

/-- Runs the inside of a bracket and places its floating complaints. -/
def placed (close : Cursor → Cursor) (inside : Reader α) : Reader α := fun c =>
  match inside c with
  | .error (.floating what c') => .error (.placed ⟨what, (close c').position, []⟩)
  | result => result

/-- The members of a record, in any order. -/
def memberLoop (fields : List (Field α)) : Nat → Bool → List String → α → Reader (List String × α)
  | 0, _, _, _ => failAhead .endInRecord
  | fuel + 1, first, seen, x => do
    if ← hasMember first then do
      drop
      let name ← textBody
      match fields.find? (·.name = name) with
      | some field =>
        if name ∈ seen then failFloating (.duplicateField name)
        else do
          colon
          let x ← inside name (field.store x)
          memberLoop fields fuel false (name :: seen) x
      | none => do
        colon
        let n ← remaining
        inside name (skipValue (n + 1))
        memberLoop fields fuel false seen x
    else pure (seen, x)

/-- The members of a record written as a list, after the first `count`.  Where the list ends early
the first required member that is missing is complained about. -/
def itemLoop (recordName : String) (total : Nat) :
    List (Field α) → Bool → Nat → α → Reader α
  | [], _, _, x => pure x
  | field :: fields, first, count, x => do
    if ← hasItem first then do
      let x ← inside ("[" ++ toString count ++ "]") (field.store x)
      itemLoop recordName total fields false (count + 1) x
    else
      match (field :: fields).findIdx? (·.required) with
      | some skipped =>
        failFloating (.invalidLength (count + skipped)
          ("struct " ++ recordName ++ " with " ++ toString total ++ " elements"))
      | none => pure x

/-- The end of a list of known length. -/
def listEnd : Reader Unit := do
  match ← peekToken with
  | some ']' => drop
  | some ',' => do
    drop
    match ← peekToken with
    | some ']' => failAhead .trailingComma
    | _ => failAhead .trailingCharacters
  | some _ => failAhead .trailingCharacters
  | none => failAhead .endInList

/-- A record: members that are not there keep the value they have in `initial`. -/
def record (recordName : String) (fields : List (Field α)) (initial : α) : Reader α := do
  match ← valueStart with
  | '\x7b' => do
    drop
    let x ← placed (closeAfter · '\x7d') do
      let n ← remaining
      let (seen, x) ← memberLoop fields (n + 1) true [] initial
      match fields.find? (fun field => field.required && !seen.contains field.name) with
      | some field => failFloating (.missingField field.name)
      | none => pure x
    drop
    pure x
  | '[' => do
    drop
    let x ← placed closeListAfter (itemLoop recordName fields.length fields true 0 initial)
    listEnd
    pure x
  | _ => unexpected ("struct " ++ recordName)

end LogSpool.Json.Reader
