import ParityDuel.Server.Handler
import ParityDuel.Wire.Notice

/-!
# Links

A link is all that a server keeps of one client: the socket, the handler that reads from it, and the
writer that empties the inbox into it. The writer sends every notice as a frame of its own, until
the inbox closes or ends or a frame cannot be sent; then it closes the socket.
-/

namespace ParityDuel

/-- A server's link to a client. -/
structure Link where
  handler : Handler
  socket : Socket
  /-- What has been sent to the client. -/
  frames : List Frame
  /-- Whether the writer is done, which ends the client's stream. -/
  isShut : Bool
deriving DecidableEq, Repr

namespace Link

/-- The link of a connection that has just been accepted. -/
def fresh (conn : Conn) (inbox : Inbox) : Link := ⟨.fresh conn inbox, .fresh, [], false⟩

/-- The link after its writer is done. -/
def shut (l : Link) : Link := { l with socket := l.socket.close, isShut := true }

/-- The writer takes one item from the inbox. -/
def put (l : Link) (i : Item) : Link :=
  if l.isShut then l
  else
    match i with
    | .notice n =>
      match l.socket.send (Utf8.ofString n.encode) with
      | .ok f => { l with frames := l.frames ++ [f] }
      | .error _ => l.shut
    | .close => l.shut
    | .ended => l.shut

/-- The handler reads, if it is there to read and something has come. -/
def read (l : Link) : Link :=
  match l.handler.progress, l.socket.receive with
  | .reading, some (r, socket) => { l with handler := l.handler.hear r, socket }
  | _, _ => l

/-- Whether the handler waits and nothing has come. -/
def isSilent (l : Link) : Bool :=
  l.handler.progress = .reading && l.socket.receive.isNone

end Link

end ParityDuel
