/-!
# Lines

This module divides bytes into lines.  A line ends at a line feed, or at the end of the input if
something stands before it; a carriage return before the line feed belongs to the ending.  Whether
the bytes of a line are a text is not decided here.
-/

namespace LogSpool.Text

/-- The bytes of a line without the carriage return of its ending. -/
def dropReturn (line : List UInt8) : List UInt8 :=
  if line.getLast? = some 0x0D then line.dropLast else line

/-- The lines of the bytes, after the bytes `line` of the current one, held in reverse. -/
def linesFrom (line : List UInt8) : List UInt8 → List (List UInt8)
  | [] => if line.isEmpty then [] else [line.reverse]
  | b :: rest =>
    if b = 0x0A then dropReturn line.reverse :: linesFrom [] rest
    else linesFrom (b :: line) rest

/-- The lines of an input. -/
def lines (bytes : List UInt8) : List (List UInt8) :=
  linesFrom [] bytes

end LogSpool.Text
