import ParityDuel.Board.Line

/-!
# Messages

What players ask for and what they are told. A request names its square by any 64-bit number, so a
square off the board is turned down by the rules of the game and not as a broken message.
-/

namespace ParityDuel

/-- What a player asks for. -/
inductive Request where
  | increment (square : Int64)
  | rematch
deriving DecidableEq, Repr

namespace Request

/-- The kind of a request, on the wire. -/
def kind : Request → String
  | increment _ => "INCREMENT"
  | rematch => "RESTART_GAME"

/-- The kinds there are. -/
def kinds : List String := ["INCREMENT", "RESTART_GAME"]

end Request

/-- What players are told. -/
inductive Notice where
  /-- The role of a player and the board as it stands. -/
  | assigned (player : Role) (board : Board)
  /-- There is no opponent yet. -/
  | waiting (text : String)
  /-- A cell has a new counter. -/
  | update (square value : UInt64)
  /-- A line is complete. -/
  | gameOver (winner : Role) (line : Vector UInt64 5)
  /-- A player left and the game is taken down. -/
  | opponentLeft (text : String)
  /-- A rematch has been voted for. -/
  | rematchVotes (text : String) (voted total : UInt64)
  /-- A request was turned down; told to whoever made it. -/
  | refused (text : String)
deriving DecidableEq, Repr

namespace Notice

/-- The kind of a notice, on the wire. -/
def kind : Notice → String
  | assigned .. => "PLAYER_ASSIGNED"
  | waiting .. => "WAITING"
  | update .. => "UPDATE"
  | gameOver .. => "GAME_OVER"
  | opponentLeft .. => "OPPONENT_DISCONNECTED"
  | rematchVotes .. => "WAITING_FOR_REMATCH"
  | refused .. => "ERROR"

/-- The kinds there are. -/
def kinds : List String :=
  ["PLAYER_ASSIGNED", "WAITING", "UPDATE", "GAME_OVER", "OPPONENT_DISCONNECTED",
    "WAITING_FOR_REMATCH", "ERROR"]

/-- The notice of a win. -/
def ofWin (w : Win) : Notice := .gameOver w.winner (w.line.map Square.number)

end Notice

/-- Whom a notice is for: everyone who is connected, or one connection. -/
inductive Recipient where
  | all
  | one (conn : Conn)
deriving DecidableEq, Repr

/-- A notice and whom it is for. -/
structure Letter where
  recipient : Recipient
  notice : Notice
deriving DecidableEq, Repr

end ParityDuel
