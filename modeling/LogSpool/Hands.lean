import LogSpool.Station

/-!
# Hands

This module holds callers that take entries out of a buffer themselves.  An entry that was taken is
kept in one of the callers' hands, under a name; from there it can be read, put back at the head of
the queue, or thrown away.  An entry that the buffer does not take back stays where it is.

Nothing here can make an entry: what is in a hand was taken out of the buffer.
-/

namespace LogSpool

/-- The entries in the hands of callers, each under the name of its hand. -/
structure Hands where
  held : List (String × Entry)
  deriving Repr, DecidableEq

namespace Hands

/-- Empty hands. -/
def empty : Hands :=
  ⟨[]⟩

/-- The entry in a hand. -/
def get? (h : Hands) (hand : String) : Option Entry :=
  h.held.lookup hand

/-- Empties a hand. -/
def release (h : Hands) (hand : String) : Hands :=
  ⟨h.held.filter fun held => held.1 != hand⟩

/-- Puts an entry into a hand; what was in it is thrown away. -/
def put (h : Hands) (hand : String) (entry : Entry) : Hands :=
  ⟨(hand, entry) :: (h.release hand).held⟩

end Hands

/-- A station and the callers around it. -/
structure Desk (σ : Type) where
  station : Station σ
  hands : Hands

/-- How putting an entry back ended. -/
inductive Return where
  /-- There was nothing in the hand. -/
  | nothing
  | accepted
  /-- The entry is still in the hand. -/
  | refused (entry : Entry) (why : EngineError)
  deriving Repr, DecidableEq

namespace Desk

variable {σ : Type}

/-- Takes the oldest entry into a hand.  Where there is none the hand keeps what it holds. -/
def take (d : Desk σ) (hand : String) : Except EngineError (Option Entry) × Desk σ :=
  match d.station.dequeue with
  | (.ok (some entry), station) =>
    (.ok (some entry), { station, hands := d.hands.put hand entry })
  | (answer, station) => (answer, { d with station })

/-- Puts the entry in a hand back at the head of the queue. -/
def giveBack (d : Desk σ) (hand : String) : Return × Desk σ :=
  match d.hands.get? hand with
  | none => (.nothing, d)
  | some entry =>
    match d.station.requeueFront entry with
    | (.ok (), station) => (.accepted, { station, hands := d.hands.release hand })
    | (.error why, station) => (.refused entry why, { d with station })

/-- Throws away what is in a hand; answers whether there was anything. -/
def discard (d : Desk σ) (hand : String) : Bool × Desk σ :=
  ((d.hands.get? hand).isSome, { d with hands := d.hands.release hand })

end Desk

end LogSpool
