/-!
# Entries

This module holds the log entries, the limits on their fields and the check of those limits.
Lengths are counted in bytes of UTF-8.  A NUL is refused in every field: the columns of a database
cannot hold it, and an entry that no sink can ever take would stay at the head of the queue.
-/

namespace LogSpool

/-- The most bytes of a level. -/
def maxLevelBytes : Nat := 15

/-- The most bytes of a source. -/
def maxSourceBytes : Nat := 63

/-- The most bytes of a message. -/
def maxMessageBytes : Nat := 511

/-- The bytes that a queued entry counts for: three texts with a terminator, two numbers, and three
words that link it.  The figure is fixed and does not follow the layout of an entry in memory. -/
def entryFootprint : Nat :=
  (maxLevelBytes + 1) + (maxSourceBytes + 1) + (maxMessageBytes + 1) + 2 * 8 + 3 * 8

/-- What a producer hands in. -/
structure Fields where
  level : String
  source : String
  message : String
  deriving Repr, DecidableEq

/-- The level of an entry that names none. -/
def defaultLevel : String := "INFO"

/-- The source of an entry that names none. -/
def defaultSource : String := "api"

/-- Fills in an empty level and an empty source. -/
def Fields.withDefaults (f : Fields) : Fields :=
  { f with
    level := if f.level = "" then defaultLevel else f.level
    source := if f.source = "" then defaultSource else f.source }

/-- An accepted entry.  Nothing of it changes afterwards: an entry that goes back to the queue is
the same value. -/
structure Entry where
  id : Nat
  level : String
  source : String
  message : String
  /-- Wall-clock milliseconds at which it was accepted. -/
  ingestedAt : Int
  deriving Repr, DecidableEq

/-- An entry made of a producer's fields. -/
def Entry.ofFields (id : Nat) (f : Fields) (now : Int) : Entry :=
  ⟨id, f.level, f.source, f.message, now⟩

/-- The fields of an entry. -/
def Entry.fields (e : Entry) : Fields :=
  ⟨e.level, e.source, e.message⟩

/-- The rules that fields can break. -/
inductive FieldFault where
  | emptyMessage
  | containsNul (field : String)
  | tooLong (field : String) (limit : Nat)
  deriving Repr, DecidableEq

/-- The wording of a broken rule. -/
def FieldFault.reason : FieldFault → String
  | .emptyMessage => "message must not be empty"
  | .containsNul field => field ++ " contains a NUL byte"
  | .tooLong field limit => field ++ " exceeds " ++ toString limit ++ " bytes"

/-- Whether a text holds the character NUL. -/
def holdsNul (s : String) : Bool :=
  s.toList.any (· = '\x00')

/-- The first rule that the fields break, in the order: an empty message, a NUL in the level, the
source, the message, then the three lengths.  An empty level or source breaks none. -/
def Fields.fault? (f : Fields) : Option FieldFault :=
  if f.message = "" then some .emptyMessage
  else if holdsNul f.level then some (.containsNul "level")
  else if holdsNul f.source then some (.containsNul "source")
  else if holdsNul f.message then some (.containsNul "message")
  else if maxLevelBytes < f.level.utf8ByteSize then some (.tooLong "level" maxLevelBytes)
  else if maxSourceBytes < f.source.utf8ByteSize then some (.tooLong "source" maxSourceBytes)
  else if maxMessageBytes < f.message.utf8ByteSize then some (.tooLong "message" maxMessageBytes)
  else none

end LogSpool
