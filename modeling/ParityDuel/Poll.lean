import ParityDuel.Ballot

/-!
# Polls

Seats and a ballot that are used side by side: nobody tells the ballot when somebody leaves a seat.
A round of votes ends when it agrees on a rematch, or when all votes are struck.
-/

namespace ParityDuel

/-- Seats and a ballot for those who hold them. -/
structure Poll where
  seats : Seats
  ballot : Ballot
deriving DecidableEq, Repr

namespace Poll

/-- What can be done to the seats or the ballot. -/
inductive Op where
  | assign (c : Conn)
  | put (c : Conn) (r : Role)
  | remove (c : Conn)
  | vacate
  | vote (c : Conn)
  | withdraw (c : Conn)
  | clear
deriving DecidableEq, Repr

/-- Nobody is seated, and nobody has voted. -/
def empty : Poll := ⟨.empty, .empty⟩

/-- One operation. What is refused changes nothing. -/
def step (p : Poll) : Op → Poll
  | .assign c =>
    match p.seats.assign c with
    | .ok (_, seats) => { p with seats }
    | .error _ => p
  | .put c r => { p with seats := p.seats.put c r }
  | .remove c => { p with seats := (p.seats.remove c).2 }
  | .vacate => { p with seats := .empty }
  | .vote c =>
    match p.ballot.vote p.seats c with
    | .ok (_, ballot) => { p with ballot }
    | .error _ => p
  | .withdraw c => { p with ballot := (p.ballot.withdraw c).2 }
  | .clear => { p with ballot := .empty }

/-- A list of operations, one after the other. -/
def run (p : Poll) (ops : List Op) : Poll := ops.foldl step p

/-- Whether an operation is the vote that agrees on a rematch. -/
def agrees (p : Poll) : Op → Bool
  | .vote c =>
    match p.ballot.vote p.seats c with
    | .ok (.agreed _ _, _) => true
    | _ => false
  | _ => false

/-- Whether an operation ends the round of votes: it agrees, or strikes all votes. -/
def endsRound (p : Poll) : Op → Bool
  | .clear => true
  | op => p.agrees op

end Poll

end ParityDuel
