import ParityDuel.Ballot
import ParityDuel.Message
import ParityDuel.Phase

/-!
# Sessions

One duel at a time: a board, two seats, the votes for a rematch, and whether a line has been
completed. Every operation gives the new session together with the letters that tell the players, or
refuses and changes nothing. When a seated player leaves, the session starts over from the
beginning.
-/

namespace ParityDuel

/-- A duel. -/
structure Session where
  board : Board
  seats : Seats
  ballot : Ballot
  isOver : Bool
deriving DecidableEq, Repr

namespace Session

/-- Nobody is seated and nothing has happened. -/
def initial : Session := ⟨.empty, .empty, .empty, false⟩

/-- Where the session stands. -/
def phase (s : Session) : Phase :=
  if s.seats.areFilled then if s.isOver then .gameOver else .playing else .waiting

/-- Tells a connection its role and the board. -/
def assignment (s : Session) (c : Conn) (r : Role) : Letter := ⟨.one c, .assigned r s.board⟩

/-- Seats a connection. It is told its role; if both seats are filled, so are both players, and
otherwise it is told to wait. -/
def connect (s : Session) (c : Conn) : Except Refusal (Role × Session × List Letter) :=
  match s.seats.assign c with
  | .error e => .error e
  | .ok (role, seats) =>
    let s := { s with seats }
    let rest :=
      match seats.pair with
      | some (odd, even) => [s.assignment odd .odd, s.assignment even .even]
      | none => [⟨.one c, .waiting "Waiting for opponent..."⟩]
    .ok (role, s, s.assignment c role :: rest)

/-- A player's move on a square. Everyone is told the new counter and, if a line is complete, who
won. -/
def increment (s : Session) (c : Conn) (square : Int64) : Except Refusal (Session × List Letter) :=
  if ¬ s.seats.areFilled then .error .notReady
  else if ¬ s.seats.isSeated c then .error .notAPlayer
  else if ¬ s.phase.isActive then .error .alreadyOver
  else
    match Square.ofNumber square with
    | .error e => .error e
    | .ok q =>
      let board := s.board.bump q
      let update : Letter := ⟨.all, .update q.number (board.get q)⟩
      match board.win? with
      | none => .ok ({ s with board }, [update])
      | some w => .ok ({ s with board, isOver := true }, [update, ⟨.all, .ofWin w⟩])

/-- The notice of a vote for a rematch. -/
def voteNotice (text : String) (voted : Nat) : Notice :=
  .rematchVotes text voted.toUInt64 totalPlayers.toUInt64

/-- A player's vote for a rematch. The first one is told to both players; the second one clears the
board and swaps the roles, and each player is told the new one, the former odd player first. -/
def vote (s : Session) (c : Conn) : Except Refusal (Session × List Letter) :=
  match s.ballot.vote s.seats c with
  | .error e => .error e
  | .ok (.pending voted voter other, ballot) =>
    .ok ({ s with ballot },
      [⟨.one voter, voteNotice "Waiting for opponent to accept rematch..." voted⟩,
       ⟨.one other, voteNotice "Opponent wants a rematch. Click Play Again to accept." voted⟩])
  | .ok (.agreed odd even, _) =>
    let s : Session := ⟨.empty, (s.seats.put even .odd).put odd .even, .empty, false⟩
    .ok (s, [s.assignment odd .even, s.assignment even .odd])

/-- The session after a connection has left. Its vote is struck; if it was seated, everything starts
over and everyone is told. -/
def leave (s : Session) (c : Conn) : Session × List Letter :=
  if s.seats.isSeated c then
    (initial, [⟨.all, .opponentLeft "Opponent disconnected. Game over."⟩])
  else ({ s with ballot := (s.ballot.withdraw c).2 }, [])

/-- The session started over. -/
def reset (_ : Session) : Session := initial

/-- Does what a player asks for. -/
def serve (s : Session) (c : Conn) : Request → Except Refusal (Session × List Letter)
  | .increment square => s.increment c square
  | .rematch => s.vote c

end Session

end ParityDuel
