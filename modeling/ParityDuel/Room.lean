import ParityDuel.Session
import ParityDuel.Wire.Request

/-!
# Rooms

A room runs one session for the connections that are registered with it. Each connection brings the
inbox it wants to be told through. A room takes commands one at a time; a command changes the room,
has a reply, and puts items into inboxes. Everyone who is registered hears what is for all, seated
or not. A connection that is refused keeps no inbox: a full room tells it so and closes it. When a
room is shut down it closes everyone and takes no further command.
-/

namespace ParityDuel

/-- The number of an inbox. -/
abbrev Inbox := Nat

/-- What is put into an inbox. After `ended` nothing more can come. -/
inductive Item where
  | notice (n : Notice)
  | close
  | ended
deriving DecidableEq, Repr

/-- An item and the inbox it is put into. -/
structure Delivery where
  inbox : Inbox
  item : Item
deriving DecidableEq, Repr

/-- A registered connection and its inbox. -/
structure Member where
  conn : Conn
  inbox : Inbox
deriving DecidableEq, Repr

/-- A room. -/
structure Room where
  session : Session
  members : List Member
  isClosed : Bool
deriving DecidableEq, Repr

/-- What a room looks like from outside. -/
structure Snapshot where
  phase : Phase
  board : Board
  odd : Option Conn
  even : Option Conn
  isOver : Bool
  stage : Stage
  votes : Nat
  connections : Nat
deriving DecidableEq, Repr

/-- What a room is asked to do. -/
inductive Command where
  | connect (conn : Conn) (inbox : Inbox)
  | frame (conn : Conn) (data : Bytes)
  | disconnect (conn : Conn)
  | snapshot
  | shutdown
deriving DecidableEq, Repr

/-- What a room answers. -/
inductive Reply where
  | seated (role : Role)
  | refused (refusal : Refusal)
  | done
  | snapshot (s : Snapshot)
deriving DecidableEq, Repr

namespace Room

/-- An open room with nobody in it. -/
def initial : Room := ⟨.initial, [], false⟩

/-- The inbox of a registered connection. -/
def inboxOf? (r : Room) (c : Conn) : Option Inbox :=
  (r.members.find? (·.conn = c)).map Member.inbox

/-- Whether a connection is registered. -/
def isRegistered (r : Room) (c : Conn) : Bool := r.members.any (·.conn = c)

/-- An item for everyone who is registered. -/
def toAll (r : Room) (i : Item) : List Delivery := r.members.map fun m => ⟨m.inbox, i⟩

/-- An item for one connection, if it is registered. -/
def toOne (r : Room) (c : Conn) (i : Item) : List Delivery :=
  (r.inboxOf? c).toList.map fun inbox => ⟨inbox, i⟩

/-- A letter, for whom it is addressed to. -/
def deliver (r : Room) (l : Letter) : List Delivery :=
  match l.recipient with
  | .all => r.toAll (.notice l.notice)
  | .one c => r.toOne c (.notice l.notice)

/-- Letters in their order. -/
def dispatch (r : Room) (ls : List Letter) : List Delivery := ls.flatMap r.deliver

/-- What a room looks like from outside. -/
def look (r : Room) : Snapshot where
  phase := r.session.phase
  board := r.session.board
  odd := r.session.seats.odd
  even := r.session.seats.even
  isOver := r.session.isOver
  stage := r.session.ballot.stage
  votes := r.session.ballot.count
  connections := r.members.length

/-- Seats and registers a connection. -/
def connect (r : Room) (c : Conn) (inbox : Inbox) : Room × Reply × List Delivery :=
  if r.isRegistered c then (r, .refused (.alreadyConnected c), [⟨inbox, .ended⟩])
  else
    match r.session.connect c with
    | .error e =>
      (r, .refused e,
        [⟨inbox, .notice (.refused e.message)⟩, ⟨inbox, .close⟩, ⟨inbox, .ended⟩])
    | .ok (role, session, letters) =>
      let r := { r with session, members := r.members ++ [⟨c, inbox⟩] }
      (r, .seated role, r.dispatch letters)

/-- Tells a connection why its request was turned down. -/
def refuse (r : Room) (c : Conn) (words : String) : List Delivery :=
  r.toOne c (.notice (.refused words))

/-- Reads a frame and does what it asks for. Frames of connections that are not registered are
passed over. -/
def frame (r : Room) (c : Conn) (data : Bytes) : Room × List Delivery :=
  if r.isRegistered c then
    match Request.ofFrame data with
    | .error e => (r, r.refuse c e.message)
    | .ok request =>
      match r.session.serve c request with
      | .error e => (r, r.refuse c e.message)
      | .ok (session, letters) =>
        let r := { r with session }
        (r, r.dispatch letters)
  else (r, [])

/-- Takes a connection out. Its inbox ends; the session hears that it has left. -/
def disconnect (r : Room) (c : Conn) : Room × List Delivery :=
  match r.inboxOf? c with
  | none => (r, [])
  | some inbox =>
    let (session, letters) := r.session.leave c
    let r := { r with session, members := r.members.filter (·.conn ≠ c) }
    (r, ⟨inbox, .ended⟩ :: r.dispatch letters)

/-- Closes and ends every inbox; the room takes no further command. -/
def shutdown (r : Room) : Room × List Delivery :=
  ({ r with members := [], isClosed := true }, r.toAll .close ++ r.toAll .ended)

/-- One command in a room that is closed. -/
def refuseAll (r : Room) : Command → Room × Reply × List Delivery
  | .connect _ inbox => (r, .refused .unavailable, [⟨inbox, .ended⟩])
  | _ => (r, .refused .unavailable, [])

/-- One command. -/
def step (r : Room) (c : Command) : Room × Reply × List Delivery :=
  if r.isClosed then r.refuseAll c
  else
    match c with
    | .connect c inbox => r.connect c inbox
    | .frame c data =>
      let (r, ds) := r.frame c data
      (r, .done, ds)
    | .disconnect c =>
      let (r, ds) := r.disconnect c
      (r, .done, ds)
    | .snapshot => (r, .snapshot r.look, [])
    | .shutdown =>
      let (r, ds) := r.shutdown
      (r, .done, ds)

/-- A list of commands, one after the other: the room in the end and all deliveries. -/
def run (r : Room) : List Command → Room × List Delivery
  | [] => (r, [])
  | c :: cs =>
    let (r, _, ds) := r.step c
    let (r, rest) := r.run cs
    (r, ds ++ rest)

/-- What is put into one inbox, in order. -/
def itemsFor (inbox : Inbox) (ds : List Delivery) : List Item :=
  (ds.filter (·.inbox = inbox)).map Delivery.item

/-- Whether a room can be given a queue for so many commands. A queue holds at least one, and its
places are counted in three bits less than a word. -/
def acceptsQueue (capacity : Nat) : Bool := 0 < capacity && capacity ≤ (1 <<< 61) - 1

end Room

end ParityDuel
