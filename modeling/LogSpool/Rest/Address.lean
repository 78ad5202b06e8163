import LogSpool.Decimal.Numeral
import LogSpool.Power

/-!
# Socket addresses

This module reads the addresses that a server listens on: four numbers with points between them, or
eight hexadecimal groups in brackets, followed by a port.  A run of zero groups may be left out
once, and the last two groups may be written as four numbers.

Names of hosts are no addresses.
-/

namespace LogSpool.Rest

/-- The address of a host. -/
inductive Host where
  | v4 (parts : List Nat)
  | v6 (groups : List Nat)
  deriving Repr, DecidableEq

/-- The address of a socket. -/
structure SocketAddress where
  host : Host
  port : Nat
  deriving Repr, DecidableEq

/-- Takes a piece off the front of a text, or refuses. -/
abbrev Piece := StateT (List Char) Option

namespace Piece

/-- Takes an expected character. -/
def expect (c : Char) : Piece Unit
  | x :: rest => if x = c then some ((), rest) else none
  | [] => none

/-- Takes a decimal number below `bound`.  Leading zeros are allowed. -/
def decimal (bound : Nat) : Piece Nat := fun s => do
  let n ← Decimal.natural? (s.takeWhile Char.isDigit)
  if n < bound then some (n, s.dropWhile Char.isDigit) else none

/-- Takes one of the four numbers of an address: at most 255, and without a leading zero. -/
def part : Piece Nat := fun s =>
  match s with
  | '0' :: x :: _ => if x.isDigit then none else some (0, s.tail)
  | _ => decimal 256 s

/-- Takes four numbers with points between them. -/
def parts : Piece (List Nat) := do
  let a ← part
  expect '.'
  let b ← part
  expect '.'
  let c ← part
  expect '.'
  let d ← part
  pure [a, b, c, d]

/-- The value of a hexadecimal digit. -/
def hexDigit? (c : Char) : Option Nat :=
  if c.isDigit then some (c.toNat - '0'.toNat)
  else if 'a' ≤ c ∧ c ≤ 'f' then some (c.toNat - 'a'.toNat + 10)
  else if 'A' ≤ c ∧ c ≤ 'F' then some (c.toNat - 'A'.toNat + 10)
  else none

/-- Takes a group of one to four hexadecimal digits. -/
def group : Piece Nat := fun s =>
  let digits := s.takeWhile fun c => (hexDigit? c).isSome
  if digits.isEmpty ∨ 4 < digits.length then none
  else
    some (digits.foldl (fun n c => n * 16 + (hexDigit? c).getD 0) 0, s.drop digits.length)

/-- Takes up to `room` groups, with a colon before each but the first; the answer says whether they
end with four numbers.  Where no further group can be read nothing is taken. -/
def groups : (room : Nat) → (first : Bool) → Piece (List Nat × Bool)
  | 0, _ => pure ([], false)
  | room + 1, first => fun s =>
    let separated (piece : Piece (List Nat)) : Option (List Nat × List Char) :=
      (do if !first then expect ':'
          piece : Piece (List Nat)) s
    let embedded : Option (List Nat × List Char) := if 0 < room then separated parts else none
    match embedded with
    | some ([a, b, c, d], rest) => some (([a * 256 + b, c * 256 + d], true), rest)
    | _ =>
      match separated (do return [← group]) with
      | some (g, rest) =>
        (groups room false rest).map fun ((gs, endsInParts), rest) => ((g ++ gs, endsInParts), rest)
      | none => some (([], false), s)

/-- Takes eight groups, or fewer with two colons in the place of the zeros that are left out. -/
def v6 : Piece (List Nat) := do
  let (front, endsInParts) ← groups 8 true
  if front.length = 8 then pure front
  else if endsInParts then failure
  else do
    expect ':'
    expect ':'
    let (back, _) ← groups (7 - front.length) true
    pure (front ++ List.replicate (8 - front.length - back.length) 0 ++ back)

/-- Takes the number of an interface, if there is one. -/
def scope : Piece Unit := fun s =>
  match s with
  | '%' :: rest => (decimal (pow2 32) rest).map fun (_, rest) => ((), rest)
  | _ => some ((), s)

/-- Takes a host. -/
def host : Piece Host := fun s =>
  match s with
  | '[' :: rest =>
    (do let groups ← v6
        scope
        expect ']'
        pure (.v6 groups) : Piece Host) rest
  | _ => (parts s).map fun (parts, rest) => (.v4 parts, rest)

/-- Takes a host and a port. -/
def address : Piece SocketAddress := do
  let host ← host
  expect ':'
  let port ← decimal (pow2 16)
  pure ⟨host, port⟩

end Piece

/-- Reads an address. -/
def SocketAddress.ofText? (s : String) : Option SocketAddress :=
  match Piece.address s.toList with
  | some (address, []) => some address
  | _ => none

/-- Whether a host can be listened on.  Any four numbers can, since no network is there to say
whose they are; of the addresses with eight groups, all of this machine's can, and those that stand
for four numbers. -/
def Host.isOpen : Host → Bool
  | .v4 _ => true
  | .v6 groups => groups = [0, 0, 0, 0, 0, 0, 0, 0] || groups.take 6 = [0, 0, 0, 0, 0, 0xFFFF]

end LogSpool.Rest
