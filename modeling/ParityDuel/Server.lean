import ParityDuel.Net.Network
import ParityDuel.Server.Link

/-!
# Servers

A server has one room and a link to every client it has accepted. It gives every connection the next
number. Clients and handlers take turns in any order: a client arrives or does something, a handler
reads or tells the room something, a client has been silent for too long. What the room puts into
inboxes goes out to the clients at once.
-/

namespace ParityDuel

/-- A server. The inbox of a link is its place in the list of links. -/
structure Server where
  room : Room
  links : List Link
  /-- The number of the next connection. -/
  next : UInt64
  /-- How long a client may be silent. -/
  idle : Option Span
  isListening : Bool
deriving DecidableEq, Repr

/-- What happens at a server. -/
inductive ServerEvent where
  /-- A client is accepted. -/
  | arrive
  /-- Somebody comes who does not ask for the upgrade. -/
  | stray
  /-- A client does something on its connection. -/
  | signal (inbox : Inbox) (sig : Signal)
  /-- A client has been silent for as long as it may. -/
  | expire (inbox : Inbox)
  /-- A handler does the next thing it has to do. -/
  | turn (inbox : Inbox)
  /-- The room is shut down. -/
  | shutDown
  /-- The server stops: nobody is accepted any more, and the room is shut down. -/
  | stop
deriving DecidableEq, Repr

/-- Why a server does not start. -/
inductive LaunchError where
  | failure (error : Failure)
  /-- There is no queue of the capacity asked for. -/
  | queueTooLarge
deriving DecidableEq, Repr

namespace Server

/-- A server that nobody has come to. -/
def initial (idle : Option Span) : Server := ⟨.initial, [], 1, idle, true⟩

/-- The server with what the room has put into inboxes given to the writers. -/
def post (s : Server) (ds : List Delivery) : Server :=
  { s with links := ds.foldl (fun links d => links.modify d.inbox (·.put d.item)) s.links }

/-- The room is told something. -/
def tell (s : Server) (c : Command) : Server × Reply :=
  let (room, reply, ds) := s.room.step c
  ({ s with room }.post ds, reply)

/-- A client is accepted. -/
def arrive (s : Server) : Server :=
  if s.isListening then
    { s with links := s.links ++ [.fresh ⟨s.next⟩ s.links.length], next := s.next + 1 }
  else s

/-- The server with one link changed. -/
def modifyLink (s : Server) (inbox : Inbox) (f : Link → Link) : Server :=
  { s with links := s.links.modify inbox f }

/-- The handler of a link does the next thing it has to do: it tells the room what it has to tell,
or else it reads. -/
def turn (s : Server) (inbox : Inbox) : Server :=
  match s.links[inbox]? with
  | none => s
  | some l =>
    match l.handler.command? with
    | none => s.modifyLink inbox Link.read
    | some c =>
      let (s, reply) := s.tell c
      s.modifyLink inbox fun l => { l with handler := l.handler.resume reply }

/-- The handler of a link gives up on a client that is silent, if the server has a limit. -/
def expire (s : Server) (inbox : Inbox) : Server :=
  if s.idle.isSome then
    s.modifyLink inbox fun l => if l.isSilent then { l with handler := l.handler.giveUp } else l
  else s

/-- One event. -/
def step (s : Server) : ServerEvent → Server
  | .arrive => s.arrive
  | .stray => s
  | .signal inbox sig => s.modifyLink inbox fun l => { l with socket := l.socket.signal sig }
  | .expire inbox => s.expire inbox
  | .turn inbox => s.turn inbox
  | .shutDown => (s.tell .shutdown).1
  | .stop => { (s.tell .shutdown).1 with isListening := false }

/-- A list of events, one after the other. -/
def run (s : Server) (es : List ServerEvent) : Server := es.foldl step s

/-- A handler takes so many turns. -/
def turns (s : Server) (inbox : Inbox) (n : Nat) : Server :=
  s.run (List.replicate n (.turn inbox))

/-- A handler takes turns until it has nothing more to do. Every signal that waits takes one turn to
read and one to pass on; asking for a seat, hearing of the end and telling of it take three more. -/
def settle (s : Server) (inbox : Inbox) : Server :=
  match s.links[inbox]? with
  | none => s
  | some l => s.turns inbox (2 * l.socket.unread.length + 4)

/-- Every handler takes turns until it has nothing more to do. -/
def settleAll (s : Server) : Server := (List.range s.links.length).foldl settle s

/-- What the room looks like, unless it is closed. -/
def snapshot (s : Server) : Except Refusal Snapshot :=
  if s.room.isClosed then .error .unavailable else .ok s.room.look

/-- Starts a server: the settings are checked, then the address is listened on, then the room is
given its queue. -/
def launch (net : Network) (settings : ServerSettings) : Except LaunchError Server :=
  match settings.validate with
  | .error fault => .error (.failure (.settings fault))
  | .ok () =>
    match net.listen settings.address with
    | .error e => .error (.failure (.link e))
    | .ok _ =>
      if Room.acceptsQueue settings.queue.toNat then .ok (.initial settings.idle)
      else .error .queueTooLarge

end Server

end ParityDuel
