import ParityDuel.Net.Socket
import ParityDuel.Room

/-!
# Handlers

A handler stands between one connection and the room. It asks for a seat; if it gets one, it passes
every frame on, in order, until the client is gone, has been silent for too long, or the room takes
no more; then it tells the room that the connection has ended. A handler that gets no seat tells the
room nothing else.

A handler that has a seat keeps a guard, which would tell the room that the connection has ended if
the handler were broken off. The handler disarms the guard before it tells so itself, and drops it
when it has.
-/

namespace ParityDuel

/-- How far a handler has come. -/
inductive Progress where
  /-- It asks for a seat. -/
  | seating
  /-- It waits for the next frame. -/
  | reading
  /-- It passes a frame on. -/
  | forwarding (data : Bytes)
  /-- It tells the room that the connection has ended, or the guard that it has dropped does. -/
  | leaving
  /-- It has nothing more to do. -/
  | finished
deriving DecidableEq, Repr

/-- The guard of a handler that has been given a seat. One that is dropped while it is armed tells
the room that the connection of its handler has ended. -/
inductive Guard where
  | armed
  | disarmed
deriving DecidableEq, Repr

/-- A handler of a connection, and the inbox it brings to the room. -/
structure Handler where
  conn : Conn
  inbox : Inbox
  progress : Progress
  /-- The guard, from the seating of the handler to the drop of the guard. -/
  guard : Option Guard
deriving DecidableEq, Repr

namespace Handler

/-- The handler of a connection that has just been accepted. -/
def fresh (conn : Conn) (inbox : Inbox) : Handler := ⟨conn, inbox, .seating, none⟩

/-- What the handler has to tell the room now. -/
def command? (h : Handler) : Option Command :=
  match h.progress with
  | .seating => some (.connect h.conn h.inbox)
  | .forwarding data => some (.frame h.conn data)
  | .leaving => some (.disconnect h.conn)
  | .reading => none
  | .finished => none

/-- Whether a reply takes a command up. -/
def isTaken : Reply → Bool
  | .refused _ => false
  | _ => true

/-- The handler stops reading and disarms its guard. -/
def leave (h : Handler) : Handler :=
  { h with progress := .leaving, guard := h.guard.map fun _ => .disarmed }

/-- The guard of the handler is dropped. If it is armed, what it has to tell is left. -/
def drop (h : Handler) : Handler :=
  { h with progress := if h.guard = some .armed then .leaving else .finished, guard := none }

/-- The handler after the room has replied to its command. -/
def resume (h : Handler) (r : Reply) : Handler :=
  match h.progress with
  | .seating =>
    if isTaken r then { h with progress := .reading, guard := some .armed }
    else { h with progress := .finished }
  | .forwarding _ => if isTaken r then { h with progress := .reading } else h.leave
  | .leaving => h.drop
  | .reading => h
  | .finished => h

/-- The handler that was reading, after something has come of it. -/
def hear (h : Handler) : Reception → Handler
  | .data bytes => { h with progress := .forwarding bytes }
  | .closed => h.leave
  | .failed _ => h.leave

/-- The handler that was reading, after the client has been silent for too long. -/
def giveUp (h : Handler) : Handler := h.leave

end Handler

end ParityDuel
