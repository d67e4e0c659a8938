import ParityDuel.Refusal
import ParityDuel.Role

/-!
# Seats

Two seats, one for each role. Whoever comes first plays odd; a connection that asks again keeps its
seat. `put` fills a seat whoever holds it, and does not look at the other one.
-/

namespace ParityDuel

/-- Who holds the two seats. -/
structure Seats where
  odd : Option Conn
  even : Option Conn
deriving DecidableEq, Repr

namespace Seats

/-- Nobody is seated. -/
def empty : Seats := ⟨none, none⟩

/-- Who holds the seat of a role. -/
def holder (s : Seats) : Role → Option Conn
  | .odd => s.odd
  | .even => s.even

/-- The seats with one of them given to somebody, or freed. -/
def set (s : Seats) : Role → Option Conn → Seats
  | .odd, c => { s with odd := c }
  | .even, c => { s with even := c }

/-- The role a connection plays. -/
def roleOf (s : Seats) (c : Conn) : Option Role :=
  if s.odd = some c then some .odd else if s.even = some c then some .even else none

/-- Whether a connection is seated. -/
def isSeated (s : Seats) (c : Conn) : Bool := (s.roleOf c).isSome

/-- Seats a connection: where it sits already, else on the odd seat, else on the even one. -/
def assign (s : Seats) (c : Conn) : Except Refusal (Role × Seats) :=
  match s.roleOf c with
  | some r => .ok (r, s)
  | none =>
    if s.odd.isNone then .ok (.odd, s.set .odd (some c))
    else if s.even.isNone then .ok (.even, s.set .even (some c))
    else .error .full

/-- Gives a seat to a connection, whoever holds it. -/
def put (s : Seats) (c : Conn) (r : Role) : Seats := s.set r (some c)

/-- Frees the seat of a connection: the role it played and the seats. -/
def remove (s : Seats) (c : Conn) : Option Role × Seats :=
  match s.roleOf c with
  | some r => (some r, s.set r none)
  | none => (none, s)

/-- The holders of the odd and the even seat, if both are filled. -/
def pair (s : Seats) : Option (Conn × Conn) :=
  match s.odd, s.even with
  | some a, some b => some (a, b)
  | _, _ => none

/-- Whether both seats are filled. -/
def areFilled (s : Seats) : Bool := s.pair.isSome

/-- The number of filled seats. -/
def count (s : Seats) : Nat := s.odd.toList.length + s.even.toList.length

end Seats

end ParityDuel
