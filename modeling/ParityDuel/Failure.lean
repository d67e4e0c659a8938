import ParityDuel.Refusal
import ParityDuel.Settings.Basic
import ParityDuel.Wire.WireError

/-!
# Failures

Everything that can go wrong with a server, layer by layer: the link to a client, the wire format,
the rules of a session, and the settings.
-/

namespace ParityDuel

/-- What went wrong with the link to a client, and the words of its cause. -/
inductive LinkError where
  | acceptFailed (reason : String)
  | handshakeFailed (reason : String)
  | sendFailed (reason : String)
  | receiveFailed (reason : String)
deriving DecidableEq, Repr

/-- The words for an error of a link. -/
def LinkError.message : LinkError → String
  | acceptFailed reason => "accept failed: " ++ reason
  | handshakeFailed reason => "websocket handshake failed: " ++ reason
  | sendFailed reason => "send failed: " ++ reason
  | receiveFailed reason => "receive failed: " ++ reason

/-- What went wrong, in any layer. -/
inductive Failure where
  | link (error : LinkError)
  | wire (error : WireError)
  | session (refusal : Refusal)
  | load (error : Settings.LoadError)
  | settings (fault : SettingsFault)
deriving DecidableEq, Repr

/-- The words for a failure. -/
def Failure.message : Failure → String
  | link error => error.message
  | wire error => error.message
  | session refusal => refusal.message
  | load error => "failed to load configuration: " ++ error.message
  | settings fault => "invalid configuration: " ++ fault.message

end ParityDuel
