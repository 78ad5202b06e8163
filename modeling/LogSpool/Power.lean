/-!
# Powers

This module holds the powers of two that bound the words of documents, settings and statements, and
the powers of ten that decimal texts are scaled by.
-/

namespace LogSpool

/-- The power of two: the first natural number that a word of `n` bits cannot hold. -/
def pow2 (n : Nat) : Nat :=
  Nat.pow 2 n

/-- The power of ten: the value of a one followed by `n` zeros. -/
def pow10 (n : Nat) : Nat :=
  Nat.pow 10 n

end LogSpool
