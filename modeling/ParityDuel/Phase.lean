/-!
# Phases

Where a session stands: waiting for players, playing, or over until a rematch.
-/

namespace ParityDuel

/-- Where a session stands. -/
inductive Phase where
  | waiting
  | playing
  | gameOver
deriving DecidableEq, Repr

namespace Phase

/-- The name of a phase. -/
def name : Phase → String
  | waiting => "Waiting"
  | playing => "Playing"
  | gameOver => "GameOver"

/-- Whether moves are taken. -/
def isActive : Phase → Bool
  | playing => true
  | _ => false

end Phase

end ParityDuel
