import ParityDuel.Net.Address
import ParityDuel.Net.Socket

/-!
# Networks

What a server finds around it: the addresses it can listen on, and whether clients reach it there.
-/

namespace ParityDuel

/-- What lies around a server. -/
structure Network where
  /-- What keeps the server from listening on an address. -/
  hindrance : Address → Option String
  /-- Whether clients reach the server. -/
  isReachable : Bool

/-- What comes of waiting for a client. -/
inductive Arrival where
  | nobody
  | failed (error : LinkError)
  | accepted (s : Socket)
deriving DecidableEq, Repr

namespace Network

/-- What keeps a name from being found on a host that is on its own. It knows no name but its own,
in any letter case; a star stands for it too. -/
def nameHindrance (name : String) : Option String :=
  if name.toLower = "localhost" || name = "*" then none
  else if name.toList.contains '\x00' then some "file name contained an unexpected NUL byte"
  else some "failed to lookup address information: Temporary failure in name resolution"

/-- What keeps a host from listening under a number that is not one of its own. -/
def numberHindrance (isOwn : Bool) : Option String :=
  if isOwn then none else some "Cannot assign requested address (os error 99)"

/-- A host on its own whose interfaces are down: it can listen, and nobody reaches it. Without an
interface there is nothing to tell the numbers of 32 bits apart by, and it may listen under all of
them; of the others only zero is left. -/
def isolated : Network where
  hindrance a :=
    match a.host with
    | .short _ => none
    | .long n => numberHindrance (n == 0 || (Host.wrapped? n).isSome)
    | .named name => nameHindrance name
  isReachable := false

/-- Listens on an address. -/
def listen (net : Network) (address : String) : Except LinkError Address :=
  match Address.parse address with
  | .error fault => .error (.acceptFailed fault.message)
  | .ok a =>
    match net.hindrance a with
    | some reason => .error (.acceptFailed reason)
    | none => .ok a

/-- Waits for a client, who asks for the upgrade or says something else. -/
def accept (net : Network) (asksForUpgrade : Bool) : Arrival :=
  if ¬ net.isReachable then .nobody
  else if asksForUpgrade then .accepted .fresh
  else .failed (.handshakeFailed "WebSocket protocol error: Handshake not finished")

end Network

end ParityDuel
