import ParityDuel.Room

/-!
# Desks

A desk stands before a room: commands wait there in the order in which they were called, and the
room takes the first one whenever it is done with the one before. Whoever asks for a seat or for a
snapshot waits for the answer; every other call is over as soon as the command waits. A room that
has been shut down takes its desk with it. What still waits there is turned down like everything
that is called afterwards.
-/

namespace ParityDuel

/-- Whether whoever calls a command waits for the answer. -/
def Command.isAwaited : Command → Bool
  | .connect _ _ => true
  | .snapshot => true
  | .frame _ _ => false
  | .disconnect _ => false
  | .shutdown => false

/-- A room and the commands that wait for it, the first one first. -/
structure Desk where
  room : Room
  waiting : List Command
deriving DecidableEq, Repr

/-- What happens at a desk. -/
inductive DeskEvent where
  /-- A command is called. -/
  | call (cmd : Command)
  /-- The room takes the first command that waits. -/
  | take
deriving DecidableEq, Repr

/-- The answer that somebody has waited for. -/
structure Answer where
  command : Command
  reply : Reply
deriving DecidableEq, Repr

namespace Desk

/-- A desk before an open room with nobody in it. -/
def initial : Desk := ⟨.initial, []⟩

/-- The answer to a command, if somebody waits for it. -/
def answer (cmd : Command) (reply : Reply) : List Answer :=
  if cmd.isAwaited then [⟨cmd, reply⟩] else []

/-- Turns a command down before a closed room. -/
def turnDown (r : Room) (cmd : Command) : List Answer × List Delivery :=
  let (_, reply, ds) := r.refuseAll cmd
  (answer cmd reply, ds)

/-- A command is called: it waits behind the others, unless the room is closed. -/
def call (d : Desk) (cmd : Command) : Desk × List Answer × List Delivery :=
  if d.room.isClosed then (d, turnDown d.room cmd) else (⟨d.room, d.waiting ++ [cmd]⟩, [], [])

/-- The room takes the first command that waits. If it is closed by it, everything behind is turned
down. -/
def take (d : Desk) : Desk × List Answer × List Delivery :=
  match d.waiting with
  | [] => (d, [], [])
  | cmd :: rest =>
    let (room, reply, ds) := d.room.step cmd
    if room.isClosed then
      (⟨room, []⟩, answer cmd reply ++ rest.flatMap fun c => (turnDown room c).1,
        ds ++ rest.flatMap fun c => (turnDown room c).2)
    else (⟨room, rest⟩, answer cmd reply, ds)

/-- One event: the desk, the answers that are given, and what is put into inboxes. -/
def step (d : Desk) : DeskEvent → Desk × List Answer × List Delivery
  | .call cmd => d.call cmd
  | .take => d.take

/-- A list of events, one after the other. -/
def run (d : Desk) : List DeskEvent → Desk × List Answer × List Delivery
  | [] => (d, [], [])
  | e :: es =>
    let (d, as, ds) := d.step e
    let (d, as', ds') := d.run es
    (d, as ++ as', ds ++ ds')

/-- Nobody is left who could call, and the room stops once nothing waits any more. It closes nobody;
the inboxes of those who are registered just end. -/
def abandon (d : Desk) : List Delivery :=
  match d.waiting with
  | [] => d.room.toAll .ended
  | _ :: _ => []

end Desk

end ParityDuel
