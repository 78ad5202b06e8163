/-!
# Ranges of characters

This module holds the look-up of a character in a table of ranges of code points.  A table is
sorted, and its ranges do not overlap.

What the ranges of a particular property are is said in the module of that property.
-/

namespace LogSpool.Text

/-- Whether one of the ranges from index `low` up to, but not including, `high` holds a code point.
The search halves the table; `fuel` is at least the number of halvings. -/
def inRanges (table : Array (Nat × Nat)) (n : Nat) : Nat → Nat → Nat → Bool
  | 0, _, _ => false
  | fuel + 1, low, high =>
    if low < high then
      let middle := (low + high) / 2
      match table[middle]? with
      | some (first, last) =>
        if n < first then inRanges table n fuel low middle
        else if last < n then inRanges table n fuel (middle + 1) high
        else true
      | none => false
    else false

/-- Whether a table holds a character. -/
def isIn (table : Array (Nat × Nat)) (c : Char) : Bool :=
  inRanges table c.toNat table.size 0 table.size

end LogSpool.Text
