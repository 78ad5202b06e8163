import LogSpool.Json.Fault

/-!
# Cursors

This module holds a text that is being read: what is left of it, and how much of the current line
has been read.  Columns count bytes, as positions of faults do.
-/

namespace LogSpool.Json

/-- The text still to be read, its length, and how much of the current line has been read. -/
structure Cursor where
  rest : List Char
  left : Nat
  line : Nat
  column : Nat

namespace Cursor

/-- The start of a text. -/
def start (s : List Char) : Cursor :=
  ⟨s, s.length, 1, 0⟩

/-- The place of the last character read. -/
def position (c : Cursor) : Position :=
  ⟨c.line, c.column⟩

/-- The place of the next character, or of the last one at the end of the text. -/
def ahead (c : Cursor) : Position :=
  match c.rest with
  | [] => c.position
  | '\n' :: _ => ⟨c.line + 1, 0⟩
  | _ => ⟨c.line, c.column + 1⟩

/-- Takes one character. -/
def advance (c : Cursor) : Cursor :=
  match c.rest with
  | [] => c
  | '\n' :: rest => ⟨rest, c.left - 1, c.line + 1, 0⟩
  | x :: rest => ⟨rest, c.left - 1, c.line, c.column + x.utf8Size⟩

/-- The place a number of bytes ahead. -/
def bytesAhead (c : Cursor) (n : Nat) : Position :=
  go c.rest n c.position
where
  go : List Char → Nat → Position → Position
    | [], _, p => p
    | '\n' :: rest, n + 1, p => go rest n ⟨p.line + 1, 0⟩
    | x :: rest, n, p =>
      if n ≤ x.utf8Size then ⟨p.line, p.column + n⟩
      else go rest (n - x.utf8Size) ⟨p.line, p.column + x.utf8Size⟩

/-- Whether a character may stand between tokens. -/
def isGap (x : Char) : Bool :=
  x = ' ' || x = '\n' || x = '\t' || x = '\r'

/-- Skips the gap before a token. -/
def skipGap (c : Cursor) : Cursor :=
  go c.rest c
where
  go : List Char → Cursor → Cursor
    | [], c => c
    | x :: rest, c => if isGap x then go rest c.advance else c

end Cursor

end LogSpool.Json
