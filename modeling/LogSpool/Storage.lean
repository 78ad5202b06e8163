/-!
# Storage

This module says where the room for queued entries comes from: from an allocator, which is asked
before an entry is queued and may refuse.  How it answers is no matter of the spool.  It is given
here as the list of the answers to come, in the order of the requests.
-/

namespace LogSpool

/-- Why there is no storage for one more entry. -/
inductive Shortage where
  /-- More was asked for than a queue can ever hold. -/
  | overflow
  /-- The allocator has no more to give. -/
  | exhausted
  deriving Repr, DecidableEq

/-- The text of a shortage. -/
def Shortage.message : Shortage → String
  | .overflow =>
    "memory allocation failed because the computed capacity exceeded the collection's maximum"
  | .exhausted => "memory allocation failed because the memory allocator returned an error"

/-- The answers to the requests for storage, the next one first: a shortage, or nothing where the
request is granted.  Requests beyond the last answer are granted. -/
structure Storage where
  answers : List (Option Shortage)
  deriving Repr, DecidableEq

namespace Storage

/-- Storage without an end. -/
def ample : Storage :=
  ⟨[]⟩

/-- The answer to the next request. -/
def shortage? (s : Storage) : Option Shortage :=
  s.answers.head?.join

/-- The answers after the next request. -/
def rest (s : Storage) : Storage :=
  ⟨s.answers.tail⟩

@[simp] theorem shortage?_ample : ample.shortage? = none := rfl

@[simp] theorem rest_ample : ample.rest = ample := rfl

end Storage

end LogSpool
