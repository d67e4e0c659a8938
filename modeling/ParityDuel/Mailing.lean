import ParityDuel.Room

/-!
# Mailings

How a room gets items into inboxes. It puts them there one after the other, and whoever reads an
inbox may have gone away at any moment, even between two items of one command. Then nothing arrives
any more; the room could see that, but takes no notice of it. What is for everyone goes to one
member after the other, each time in an order of which nothing is known. A mailing is a room
together with what has arrived.
-/

namespace ParityDuel

/-- What a room has no say in: which readers have gone away, and in which order it comes upon its
members. Moments are counted by the items that have been put into inboxes. -/
structure Outside where
  isGone : Nat → Inbox → Bool
  /-- Whoever has gone away does not come back. -/
  isGone_succ : ∀ t inbox, isGone t inbox = true → isGone (t + 1) inbox = true
  order : Nat → List Member → List Member
  /-- The room comes upon every member once. -/
  order_perm : ∀ t ms, (order t ms).Perm ms

/-- A room and what has arrived of all that it has put into inboxes. -/
structure Mailing where
  room : Room
  /-- How many items have been put into inboxes. -/
  now : Nat
  arrived : List Delivery
deriving DecidableEq, Repr

namespace Mailing

/-- A new room. -/
def initial : Mailing := ⟨.initial, 0, []⟩

/-- Puts an item into an inbox, and tells whether it arrives. -/
def put (o : Outside) (x : Mailing) (d : Delivery) : Bool × Mailing :=
  if o.isGone x.now d.inbox then (false, { x with now := x.now + 1 })
  else (true, { x with now := x.now + 1, arrived := x.arrived ++ [d] })

/-- Puts an item into an inbox, whether it arrives or not. -/
def send (o : Outside) (x : Mailing) (inbox : Inbox) (i : Item) : Mailing :=
  let (_, x) := x.put o ⟨inbox, i⟩
  x

/-- Sends an item to everyone who is registered. -/
def toAll (o : Outside) (x : Mailing) (i : Item) : Mailing :=
  (o.order x.now x.room.members).foldl (fun x m => x.send o m.inbox i) x

/-- Sends an item to one connection, if it is registered. -/
def toOne (o : Outside) (x : Mailing) (c : Conn) (i : Item) : Mailing :=
  match x.room.inboxOf? c with
  | none => x
  | some inbox => x.send o inbox i

/-- Sends a letter to whom it is addressed to. -/
def deliver (o : Outside) (x : Mailing) (l : Letter) : Mailing :=
  match l.recipient with
  | .all => x.toAll o (.notice l.notice)
  | .one c => x.toOne o c (.notice l.notice)

/-- Sends letters in their order. -/
def dispatch (o : Outside) (x : Mailing) (ls : List Letter) : Mailing := ls.foldl (deliver o) x

/-- Seats and registers a connection. A room that is full tells it so and closes it. -/
def connect (o : Outside) (x : Mailing) (c : Conn) (inbox : Inbox) : Mailing × Reply :=
  if x.room.isRegistered c then (x.send o inbox .ended, .refused (.alreadyConnected c))
  else
    match x.room.session.connect c with
    | .error e =>
      let x := x.send o inbox (.notice (.refused e.message))
      let x := x.send o inbox .close
      (x.send o inbox .ended, .refused e)
    | .ok (role, session, letters) =>
      let room := { x.room with session, members := x.room.members ++ [⟨c, inbox⟩] }
      (dispatch o { x with room } letters, .seated role)

/-- Tells a connection why its request was turned down. -/
def refuse (o : Outside) (x : Mailing) (c : Conn) (words : String) : Mailing :=
  x.toOne o c (.notice (.refused words))

/-- Reads a frame of a connection that is registered, and does what it asks for. -/
def frame (o : Outside) (x : Mailing) (c : Conn) (data : Bytes) : Mailing :=
  if x.room.isRegistered c then
    match Request.ofFrame data with
    | .error e => x.refuse o c e.message
    | .ok request =>
      match x.room.session.serve c request with
      | .error e => x.refuse o c e.message
      | .ok (session, letters) => dispatch o { x with room := { x.room with session } } letters
  else x

/-- Takes a connection out. Its inbox ends before anybody hears of it. -/
def disconnect (o : Outside) (x : Mailing) (c : Conn) : Mailing :=
  match x.room.inboxOf? c with
  | none => x
  | some inbox =>
    let (session, letters) := x.room.session.leave c
    let room := { x.room with session, members := x.room.members.filter (·.conn ≠ c) }
    dispatch o { x.send o inbox .ended with room } letters

/-- Closes every inbox, and then ends every inbox. -/
def shutdown (o : Outside) (x : Mailing) : Mailing :=
  let x := (x.toAll o .close).toAll o .ended
  { x with room := { x.room with members := [], isClosed := true } }

/-- One command in a room that is closed. -/
def refuseAll (o : Outside) (x : Mailing) : Command → Mailing × Reply
  | .connect _ inbox => (x.send o inbox .ended, .refused .unavailable)
  | _ => (x, .refused .unavailable)

/-- One command. -/
def step (o : Outside) (x : Mailing) (cmd : Command) : Mailing × Reply :=
  if x.room.isClosed then x.refuseAll o cmd
  else
    match cmd with
    | .connect c inbox => x.connect o c inbox
    | .frame c data => (x.frame o c data, .done)
    | .disconnect c => (x.disconnect o c, .done)
    | .snapshot => (x, .snapshot x.room.look)
    | .shutdown => (x.shutdown o, .done)

/-- A list of commands, one after the other, with all replies. -/
def run (o : Outside) (x : Mailing) : List Command → Mailing × List Reply
  | [] => (x, [])
  | cmd :: cs =>
    let (x, reply) := x.step o cmd
    let (x, replies) := x.run o cs
    (x, reply :: replies)

end Mailing

end ParityDuel
