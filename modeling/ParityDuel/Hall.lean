import ParityDuel.Room

/-!
# Halls

A hall is a room together with the inboxes that were opened on it. Every attempt to connect opens a
new inbox, whether it is accepted or not; inboxes are numbered in this order. A reader may go away
before its inbox has ended, and then nobody sees what is put there.
-/

namespace ParityDuel

/-- A room, the number of inboxes opened on it, and those whose reader is gone. -/
structure Hall where
  room : Room
  opened : Nat
  abandoned : List Inbox
deriving DecidableEq, Repr

/-- What happens in a hall. -/
inductive Event where
  | connect (conn : Conn)
  | frame (conn : Conn) (data : Bytes)
  | disconnect (conn : Conn)
  | shutdown
  | hangUp (inbox : Inbox)
deriving DecidableEq, Repr

namespace Hall

/-- A hall before anything has happened. -/
def initial : Hall := ⟨.initial, 0, []⟩

/-- The items that somebody sees. -/
def seen (h : Hall) (ds : List Delivery) : List Delivery :=
  ds.filter fun d => !h.abandoned.contains d.inbox

/-- One event: the hall, the reply of the room, and what is seen in inboxes. -/
def step (h : Hall) (e : Event) : Hall × Reply × List Delivery :=
  match e with
  | .hangUp inbox => ({ h with abandoned := inbox :: h.abandoned }, .done, [])
  | .connect c =>
    let (room, reply, ds) := h.room.step (.connect c h.opened)
    ({ h with room, opened := h.opened + 1 }, reply, h.seen ds)
  | .frame c data =>
    let (room, reply, ds) := h.room.step (.frame c data)
    ({ h with room }, reply, h.seen ds)
  | .disconnect c =>
    let (room, reply, ds) := h.room.step (.disconnect c)
    ({ h with room }, reply, h.seen ds)
  | .shutdown =>
    let (room, reply, ds) := h.room.step .shutdown
    ({ h with room }, reply, h.seen ds)

/-- What the room looks like, unless it is closed. -/
def snapshot (h : Hall) : Except Refusal Snapshot :=
  if h.room.isClosed then .error .unavailable else .ok h.room.look

end Hall

end ParityDuel
