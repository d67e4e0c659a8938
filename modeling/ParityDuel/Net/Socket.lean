import ParityDuel.Failure
import ParityDuel.Net.Frame

/-!
# Sockets

The server's end of a connection. Signals of the client wait in it until they are read, and are read
in their order; a goodbye with which the client answers one from the server is a signal like any
other. Reading stops at the first end, and writing at a goodbye from either side or at a drop.
-/

namespace ParityDuel

/-- The server's end of a connection to a client. -/
structure Socket where
  /-- What the client has done and has not been read. -/
  unread : List Signal
  /-- Whether one side has said goodbye, as far as the server knows. -/
  isClosing : Bool
  /-- Whether the client has dropped the connection. -/
  isBroken : Bool
deriving DecidableEq, Repr

/-- What comes of reading from a socket. -/
inductive Reception where
  | data (bytes : Bytes)
  | closed
  | failed (error : LinkError)
deriving DecidableEq, Repr

namespace Socket

/-- A connection on which nothing has happened. -/
def fresh : Socket := ⟨[], false, false⟩

/-- The client does something. -/
def signal (s : Socket) (sig : Signal) : Socket :=
  { s with unread := s.unread ++ [sig], isBroken := s.isBroken || sig = .abort }

/-- The frame that takes the bytes to the client. -/
def send (s : Socket) (data : Bytes) : Except LinkError Frame :=
  if s.isClosing then
    .error (.sendFailed "WebSocket protocol error: Sending after closing is not allowed")
  else if s.isBroken then .error (.sendFailed "IO error: Broken pipe (os error 32)")
  else .ok (.ofBytes data)

/-- The server says goodbye. -/
def close (s : Socket) : Socket := { s with isClosing := true }

/-- Reads on in what waits: a frame is taken, and probes are passed over. An end stays, so that
whoever reads behind it finds the connection closed. -/
def receiveFrom : List Signal → Option (Reception × List Signal)
  | [] => none
  | .frame f :: rest => some (.data f.data, rest)
  | .ping _ :: rest => receiveFrom rest
  | .pong _ :: rest => receiveFrom rest
  | .close :: _ => some (.closed, [.close])
  | .abort :: _ =>
    some (.failed (.receiveFailed
      "WebSocket protocol error: Connection reset without closing handshake"), [.close])
  | .fault words :: _ => some (.failed (.receiveFailed words), [.close])

/-- Reads once, unless there is nothing to read yet. -/
def receive (s : Socket) : Option (Reception × Socket) :=
  match receiveFrom s.unread with
  | none => none
  | some (r, rest) => some (r, { s with unread := rest, isClosing := s.isClosing || r = .closed })

end Socket

end ParityDuel
