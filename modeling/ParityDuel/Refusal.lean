import ParityDuel.Conn

/-!
# Refusals

Why a session turns a request down, and the words that tell the player.
-/

namespace ParityDuel

/-- Why a request was turned down. -/
inductive Refusal where
  | full
  | notReady
  | notAPlayer
  | alreadyOver
  | outOfRange (square : Int64)
  | notBothConnected
  | alreadyConnected (conn : Conn)
  | unavailable
deriving DecidableEq, Repr

/-- The words for a refusal. -/
def Refusal.message : Refusal → String
  | full => "game is full"
  | notReady => "waiting for opponent to join"
  | notAPlayer => "you are not in this game"
  | alreadyOver => "game is already over"
  | outOfRange square => "invalid square index: " ++ toString square.toInt
  | notBothConnected => "both players must be connected for rematch"
  | alreadyConnected conn => conn.name ++ " is already connected"
  | unavailable => "session is unavailable"

end ParityDuel
