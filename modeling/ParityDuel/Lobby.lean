import ParityDuel.Server

/-!
# Lobbies

A lobby is a server together with the clients that come to it, each under a name. A name stands for
its latest client that is still connected. After everything that happens, each handler does what it
has to do, and the lobby reports what the clients have received and whose stream has ended.
-/

namespace ParityDuel

/-- A server and its clients. -/
structure Lobby where
  network : Network
  server : Server
  /-- The clients that are connected, and where their links are. -/
  clients : List (String × Inbox)

/-- What happens in a lobby. -/
inductive LobbyEvent where
  /-- A client comes. -/
  | enter (client : String)
  /-- A client does something. -/
  | signal (client : String) (sig : Signal)
  /-- A client is silent for as long as it may be. -/
  | expire (client : String)
  /-- Somebody comes who does not ask for the upgrade. -/
  | stray
  /-- The room is shut down while the server listens; then a client may send something. -/
  | shutDown (after : Option (String × Signal))
  /-- The server is stopped. -/
  | stop
deriving DecidableEq, Repr

/-- Why something cannot happen. -/
inductive Obstacle where
  /-- The server cannot be reached. -/
  | unreachable
  /-- No client of that name is connected. -/
  | noClient
deriving DecidableEq, Repr

/-- What is seen of something that happened. -/
structure Report where
  /-- What clients have received. -/
  frames : List (String × List Frame)
  /-- The clients whose stream has ended, in order of their names. -/
  closed : List String
  /-- What the room looks like. -/
  look : Except Refusal Snapshot

namespace Lobby

/-- A server that nobody has come to. -/
def initial (network : Network) (server : Server) : Lobby := ⟨network, server, []⟩

/-- Where the link of a client is. -/
def inboxOf? (l : Lobby) (client : String) : Option Inbox := l.clients.lookup client

/-- The name of the client with a connection. -/
def nameOf? (l : Lobby) (c : Conn) : Option String :=
  (l.clients.find? fun (_, inbox) =>
    (l.server.links[inbox]?).any (·.handler.conn = c)).map Prod.fst

/-- Whether somebody who comes gets through to the server. -/
def isReachable (l : Lobby) : Bool := l.network.isReachable && l.server.isListening

/-- How many frames a link has sent. -/
def countSent (s : Server) (inbox : Inbox) : Nat :=
  match s.links[inbox]? with
  | some l => l.frames.length
  | none => 0

/-- What a link has sent since it had sent so many frames. -/
def sentSince (s : Server) (inbox : Inbox) (n : Nat) : List Frame :=
  match s.links[inbox]? with
  | some l => l.frames.drop n
  | none => []

/-- Whether the stream of a link has ended. -/
def isShut (s : Server) (inbox : Inbox) : Bool := (s.links[inbox]?).any Link.isShut

/-- A client whose stream has ended answers the goodbye, and its handler hears of it. -/
def answerGoodbye (s : Server) (inbox : Inbox) : Server :=
  (s.step (.signal inbox .close)).settle inbox

/-- The lobby with a changed server and the clients that were there for the change, and the report
of the change. -/
def account (l : Lobby) (server : Server) (clients : List (String × Inbox)) : Lobby × Report :=
  let frames := clients.map fun (name, inbox) =>
    (name, sentSince server inbox (countSent l.server inbox))
  let (closed, rest) := clients.partition fun (_, inbox) => isShut server inbox
  ({ l with server := (closed.map Prod.snd).foldl answerGoodbye server, clients := rest },
    ⟨frames.filter fun (_, fs) => !fs.isEmpty,
      (closed.map Prod.fst).mergeSort (fun a b => decide (a ≤ b)), server.snapshot⟩)

/-- A client that is connected is dealt with. -/
def withClient (l : Lobby) (client : String) (change : Server → Inbox → Server) :
    Except Obstacle (Lobby × Report) :=
  match l.inboxOf? client with
  | none => .error .noClient
  | some inbox => .ok (l.account ((change l.server inbox).settle inbox) l.clients)

/-- The server after a client that may be connected has sent something. -/
def signalIfThere (l : Lobby) (server : Server) (client : String) (sig : Signal) : Server :=
  match l.inboxOf? client with
  | none => server
  | some inbox => server.step (.signal inbox sig)

/-- One event: the lobby and the report, or why it cannot happen. -/
def step (l : Lobby) : LobbyEvent → Except Obstacle (Lobby × Report)
  | .enter client =>
    if l.isReachable then
      let inbox := l.server.links.length
      let others := l.clients.filter fun (name, _) => name ≠ client
      .ok (l.account (l.server.arrive.settle inbox) (others ++ [(client, inbox)]))
    else .error .unreachable
  | .signal client sig => l.withClient client fun s inbox => s.step (.signal inbox sig)
  | .expire client => l.withClient client Server.expire
  | .stray =>
    if l.isReachable then .ok (l.account (l.server.step .stray) l.clients) else .error .unreachable
  | .shutDown after =>
    let server := l.server.step .shutDown
    let server :=
      match after with
      | some (client, sig) => l.signalIfThere server client sig
      | none => server
    .ok (l.account server.settleAll l.clients)
  | .stop => .ok (l.account (l.server.step .stop).settleAll l.clients)

end Lobby

end ParityDuel
