/-!
# Status of a failure

This module holds the coarse classes of failures.  The outer surfaces (HTTP answers, the command
line) choose their reaction by the class alone and never by the text of a message.
-/

namespace LogSpool

/-- The class of a failure, whatever part of the program it comes from. -/
inductive Status where
  | invalidArgument
  /-- The buffer is full: the producer should wait and try again. -/
  | resourceExhausted
  /-- Something that the program delivers to has failed. -/
  | dependency
  | unavailable
  | dataLoss
  | internal
  | unknown
  deriving Repr, DecidableEq

namespace Status

/-- Every class. -/
def all : List Status :=
  [.invalidArgument, .resourceExhausted, .dependency, .unavailable, .dataLoss, .internal, .unknown]

/-- The name of a class in documents. -/
def name : Status → String
  | .invalidArgument => "invalid_argument"
  | .resourceExhausted => "resource_exhausted"
  | .dependency => "upstream"
  | .unavailable => "unavailable"
  | .dataLoss => "data_loss"
  | .internal => "internal"
  | .unknown => "unknown"

/-- The class of a name. -/
def ofName? (s : String) : Option Status :=
  all.find? (·.name = s)

/-- The HTTP status code of a class. -/
def http : Status → Nat
  | .invalidArgument => 400
  | .resourceExhausted => 429
  | .dependency => 502
  | .unavailable => 503
  | .dataLoss | .internal | .unknown => 500

/-- Whether the same request may succeed later. -/
def isRetryable : Status → Bool
  | .resourceExhausted | .dependency | .unavailable => true
  | _ => false

/-- A name leads back to its class. -/
theorem ofName?_name (s : Status) : ofName? s.name = some s := by
  cases s <;> decide

end Status

end LogSpool
