import ParityDuel.Json.Render
import ParityDuel.Wire.Tagged
import ParityDuel.Wire.WireError

/-!
# Notices and roles on the wire

`Notice.encode` writes a notice, `Notice.decode` reads one; a role alone is a text, or an object
whose only member has the name of the role and a null.
-/

namespace ParityDuel

open Json (Value Fault)
open Wire

/-- The kinds of notices. -/
inductive NoticeKind where
  | assigned
  | waiting
  | update
  | gameOver
  | opponentLeft
  | rematchVotes
  | refused
deriving DecidableEq, Repr

/-- The kind of a name. -/
def NoticeKind.ofName? (s : String) : Option NoticeKind :=
  if s = "PLAYER_ASSIGNED" then some .assigned
  else if s = "WAITING" then some .waiting
  else if s = "UPDATE" then some .update
  else if s = "GAME_OVER" then some .gameOver
  else if s = "OPPONENT_DISCONNECTED" then some .opponentLeft
  else if s = "WAITING_FOR_REMATCH" then some .rematchVotes
  else if s = "ERROR" then some .refused
  else none

/-- The value that stands for a role. -/
def Role.toValue (r : Role) : Value := .text r.name

/-- A role as a frame. -/
def Role.encode (r : Role) : String := Json.render r.toValue

namespace Notice

/-- The family of notices. -/
def family : Family NoticeKind := ⟨"ServerMessage", kinds, NoticeKind.ofName?⟩

/-- The value that stands for a list of words. -/
def wordsValue (ns : List UInt64) : Value := .list (ns.map Value.unsigned)

/-- The fields of a notice, in their order. -/
def fields : Notice → List Member
  | assigned player board =>
    [("player", player.toValue), ("board", wordsValue board.cells.toList)]
  | waiting text => [("message", .text text)]
  | update square value => [("square", .unsigned square), ("value", .unsigned value)]
  | gameOver winner line =>
    [("winner", winner.toValue), ("winningLine", wordsValue line.toList)]
  | opponentLeft text => [("message", .text text)]
  | rematchVotes text voted total =>
    [("message", .text text), ("votedPlayers", .unsigned voted), ("totalPlayers", .unsigned total)]
  | refused text => [("message", .text text)]

/-- The value that stands for a notice. -/
def toValue (n : Notice) : Value := .object ((kindMember, .text n.kind) :: n.fields)

/-- A notice as a frame. -/
def encode (n : Notice) : String := Json.render n.toValue

/-- The notice of a kind and what stands beside it. -/
def ofTagged : Tagged NoticeKind → Except Fault Notice
  | ⟨.assigned, content⟩ =>
    (twoFields "struct variant ServerMessage::PlayerAssigned" "player" roleField "board" boardField
      content).map fun (player, board) => assigned player board
  | ⟨.waiting, content⟩ =>
    (oneField "struct variant ServerMessage::Waiting" "message" textField content).map waiting
  | ⟨.update, content⟩ =>
    (twoFields "struct variant ServerMessage::Update" "square" indexField "value" (wordField "u64")
      content).map fun (square, value) => update square value
  | ⟨.gameOver, content⟩ =>
    (twoFields "struct variant ServerMessage::GameOver" "winner" roleField "winningLine" lineField
      content).map fun (winner, line) => gameOver winner line
  | ⟨.opponentLeft, content⟩ =>
    (oneField "struct variant ServerMessage::OpponentDisconnected" "message" textField content).map
      opponentLeft
  | ⟨.rematchVotes, content⟩ =>
    (threeFields "struct variant ServerMessage::WaitingForRematch" "message" textField
      "votedPlayers" indexField "totalPlayers" indexField content).map
      fun (text, voted, total) => rematchVotes text voted total
  | ⟨.refused, content⟩ =>
    (oneField "struct variant ServerMessage::Error" "message" textField content).map refused

/-- Reads a frame that is a notice. -/
def decode (frame : Bytes) : Except WireError Notice :=
  match decodeTagged family ofTagged frame with
  | .ok n => .ok n
  | .error f => .error (.decode (f.locate frame))

end Notice

namespace Role

open Json

/-- Reads a null. -/
def readNull (s : Bytes) : Except Fault Bytes :=
  match skipBlanks s with
  | [] => .error (.peeking .eofInValue [])
  | b :: t =>
    if b = 0x6E then word (asciiBytes "ull") t else .error (wrongKind "unit" (b :: t))

/-- Reads the name of the member that an object for a role has. -/
def readKey (s : Bytes) : Except Fault (Role × Bytes) :=
  match skipBlanks s with
  | [] => .error (.peeking .eofInObject [])
  | b :: t =>
    if b = quote then readVariant names ofName? (b :: t)
    else if b = closeObject then .error (.peeking .expectedValue (b :: t))
    else .error (.peeking .keyNotString (b :: t))

/-- Reads a role. -/
def read (s : Bytes) : Except Fault (Role × Bytes) :=
  match skipBlanks s with
  | [] => .error (.peeking .eofInValue [])
  | b :: t =>
    if b = openObject then do
      let (r, t) ← readKey t
      let t ← readColon t
      let t ← readNull t
      match skipBlanks t with
      | [] => .error (.before .eofInObject [])
      | c :: u => if c = closeObject then .ok (r, u) else .error (.before .expectedValue (c :: u))
    else if b = quote then readVariant names ofName? (b :: t)
    else .error (.peeking .expectedValue (b :: t))

/-- Reads a frame that is a role. -/
def decode (frame : Bytes) : Except WireError Role :=
  let result : Except Fault Role := do
    let (r, rest) ← read frame
    endOfText rest
    return r
  match result with
  | .ok r => .ok r
  | .error f => .error (.decode (f.locate frame))

end Role

end ParityDuel
