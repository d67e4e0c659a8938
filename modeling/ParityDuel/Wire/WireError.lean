import ParityDuel.Json.Fault

/-!
# Errors of the wire format

Why a message could not be written or read. A message of an unknown kind is not malformed: it is a
message, only not one that is understood.
-/

namespace ParityDuel

/-- Why a message could not be written or read. -/
inductive WireError where
  | encode (cause : Json.Cause)
  | decode (problem : Json.Problem)
  | invalidMessage (detail : String)
  | unknownKind (kind : String)
deriving DecidableEq, Repr

namespace WireError

/-- The words for an error. -/
def message : WireError → String
  | encode cause => "encode failed: " ++ cause.message
  | decode problem => "malformed message: " ++ problem.message
  | invalidMessage detail => "malformed message: " ++ detail
  | unknownKind kind => "unknown message type: " ++ kind

/-- Whether the message itself is at fault. -/
def isMalformed : WireError → Bool
  | unknownKind _ => false
  | _ => true

end WireError

end ParityDuel
