import LogSpool.Json.Cursor

/-!
# Readers

This module holds readers, which take a value off the front of a text or fail with a complaint.
A complaint about the grammar has its place from the start.  A complaint about the meaning of a
record floats until the reader of the record, which knows where the record ends, gives it a place.

Readers of particular values are in the modules beside this one.
-/

namespace LogSpool.Json

/-- How reading fails: with a place, or with the cursor of the reader that gave up, for the
enclosing record to place. -/
inductive Failure where
  | placed (fault : Fault)
  | floating (complaint : Complaint) (cursor : Cursor)

/-- A reader takes a value off the front of the text. -/
abbrev Reader := StateT Cursor (Except Failure)

namespace Reader

variable {α : Type}

/-- Complains at the place of the last character read. -/
def failHere (what : Complaint) : Reader α := fun c =>
  .error (.placed ⟨what, c.position, []⟩)

/-- Complains at the place of the next character. -/
def failAhead (what : Complaint) : Reader α := fun c =>
  .error (.placed ⟨what, c.ahead, []⟩)

/-- Complains about the meaning, and leaves the place to the enclosing record. -/
def failFloating (what : Complaint) : Reader α := fun c =>
  .error (.floating what c)

/-- Notes that what a reader complains about is inside a member. -/
def inside (member : String) (r : Reader α) : Reader α := fun c =>
  match r c with
  | .error (.placed fault) => .error (.placed { fault with path := member :: fault.path })
  | result => result

/-- The next character, not taken. -/
def peek : Reader (Option Char) := fun c =>
  .ok (c.rest.head?, c)

/-- The next character after a gap, not taken. -/
def peekToken : Reader (Option Char) := fun c =>
  let c := c.skipGap
  .ok (c.rest.head?, c)

/-- Takes the next character. -/
def next : Reader (Option Char) := fun c =>
  .ok (c.rest.head?, c.advance)

/-- Drops the next character. -/
def drop : Reader Unit := fun c =>
  .ok ((), c.advance)

/-- The number of characters left, which bounds every loop of a reader. -/
def remaining : Reader Nat := fun c =>
  .ok (c.left, c)

/-- Takes the next character if it is accepted.  A character that is refused is complained about at
its first byte, so that a character of several bytes counts as one. -/
def taken (accept : Char → Option α) (atEnd refused : Complaint) : Reader α := do
  match ← peek with
  | none => failHere atEnd
  | some c =>
    match accept c with
    | some x => do
      drop
      pure x
    | none => failAhead refused

/-- Takes the next character if it is the one that is expected. -/
def mark (expected : Char) (atEnd refused : Complaint) : Reader Unit :=
  taken (fun c => if c = expected then some () else none) atEnd refused

/-- Takes the rest of a word whose first letter has been seen. -/
def word : List Char → Reader Unit
  | [] => pure ()
  | expected :: more => do
    mark expected .endInValue .wordExpected
    word more

end Reader

end LogSpool.Json
