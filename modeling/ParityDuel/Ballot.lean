import ParityDuel.Seats

/-!
# Votes for a rematch

A rematch needs the votes of both players. Votes are kept by connection, each once; when the second
one arrives they are all struck and the rematch is agreed.
-/

namespace ParityDuel

/-- The number of players, and of votes that a rematch needs. -/
def totalPlayers : Nat := 2

/-- The connections that have voted, each once. -/
structure Ballot where
  voters : List Conn
deriving DecidableEq, Repr

/-- How far a vote has come. -/
inductive Stage where
  | idle
  | oneVoted
  | bothVoted
deriving DecidableEq, Repr

/-- The name of a stage. -/
def Stage.name : Stage → String
  | idle => "Idle"
  | oneVoted => "OneVoted"
  | bothVoted => "BothVoted"

/-- What comes of a vote. -/
inductive Outcome where
  | pending (voted : Nat) (voter other : Conn)
  | agreed (odd even : Conn)
deriving DecidableEq, Repr

namespace Ballot

/-- Nobody has voted. -/
def empty : Ballot := ⟨[]⟩

/-- The number of votes. -/
def count (b : Ballot) : Nat := b.voters.length

/-- How far the vote has come. -/
def stage (b : Ballot) : Stage :=
  match b.count with
  | 0 => .idle
  | 1 => .oneVoted
  | _ => .bothVoted

/-- The ballot with the vote of a connection. -/
def add (b : Ballot) (c : Conn) : Ballot :=
  if c ∈ b.voters then b else ⟨b.voters ++ [c]⟩

/-- Strikes the vote of a connection; tells whether there was one. -/
def withdraw (b : Ballot) (c : Conn) : Bool × Ballot :=
  (b.voters.contains c, ⟨b.voters.filter (· ≠ c)⟩)

/-- Counts the vote of a connection that holds one of two filled seats. -/
def vote (b : Ballot) (seats : Seats) (c : Conn) : Except Refusal (Outcome × Ballot) :=
  match seats.pair with
  | none => .error .notBothConnected
  | some (odd, even) =>
    match seats.roleOf c with
    | none => .error .notAPlayer
    | some r =>
      let b := b.add c
      if b.count < totalPlayers then
        let other := match r with
          | .odd => even
          | .even => odd
        .ok (.pending b.count c other, b)
      else .ok (.agreed odd even, empty)

end Ballot

end ParityDuel
