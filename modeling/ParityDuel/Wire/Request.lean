import ParityDuel.Json.Render
import ParityDuel.Wire.Tagged
import ParityDuel.Wire.WireError

/-!
# Requests on the wire

`Request.encode` writes a request, `Request.decode` reads one. `Request.ofFrame` first reads only
the kind, so that a message of another kind is told apart from a broken one whatever else it holds,
and then reads the frame a second time as a request.
-/

namespace ParityDuel

open Json (Value Fault)
open Wire

/-- The kinds of requests. -/
inductive RequestKind where
  | increment
  | rematch
deriving DecidableEq, Repr

/-- The kind of a name. -/
def RequestKind.ofName? (s : String) : Option RequestKind :=
  if s = "INCREMENT" then some .increment else if s = "RESTART_GAME" then some .rematch else none

namespace Request

/-- The family of requests. -/
def family : Family RequestKind := ⟨"ClientMessage", kinds, RequestKind.ofName?⟩

/-- The value that stands for a request. -/
def toValue : Request → Value
  | increment square =>
    .object [(kindMember, .text "INCREMENT"),
      ("square", if square < 0 then .signed square else .unsigned square.toInt.toNat.toUInt64)]
  | rematch => .object [(kindMember, .text "RESTART_GAME")]

/-- A request as a frame. -/
def encode (r : Request) : String := Json.render r.toValue

/-- The request of a kind and what stands beside it. -/
def ofTagged : Tagged RequestKind → Except Fault Request
  | ⟨.increment, content⟩ =>
    (oneField "struct variant ClientMessage::Increment" "square" signedField content).map increment
  | ⟨.rematch, content⟩ => (noFields content).map fun _ => rematch

/-- Reads a frame that is a request. -/
def decode (frame : Bytes) : Except WireError Request :=
  match decodeTagged family ofTagged frame with
  | .ok r => .ok r
  | .error f => .error (.decode (f.locate frame))

/-- Reads a frame whose kind is looked at first. -/
def ofFrame (frame : Bytes) : Except WireError Request :=
  match decodeKind frame with
  | .error f => .error (.decode (f.locate frame))
  | .ok none => .error (.invalidMessage "missing `type` field")
  | .ok (some kind) =>
    if kinds.contains kind then decode frame else .error (.unknownKind kind)

end Request

end ParityDuel
