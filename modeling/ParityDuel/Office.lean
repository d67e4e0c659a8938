import ParityDuel.Desk
import ParityDuel.Server

/-!
# Offices

An office is a server in which everything takes its time. What handlers tell the room waits at a
desk until the room takes it, and what the room puts into an inbox waits there until the writer of
the link takes it. A handler that asks for a seat waits for the answer; any other handler goes on
as soon as what it tells waits at the desk, even if it waits behind a shutdown. Clients, handlers,
writers and the room take turns in any order. How many commands have a place at the desk does not
show: a handler that finds none takes its turn later.
-/

namespace ParityDuel

/-- A link, and what waits in its inbox for the writer. -/
structure Post where
  link : Link
  unsent : List Item
deriving DecidableEq, Repr

/-- An office. The inbox of a post is its place in the list of posts. -/
structure Office where
  desk : Desk
  posts : List Post
  /-- The number of the next connection. -/
  next : UInt64
  /-- How long a client may be silent. -/
  idle : Option Span
  isListening : Bool
deriving DecidableEq, Repr

/-- What happens at an office. -/
inductive OfficeEvent where
  /-- What can happen at any server, before the room and the writers have seen to it. -/
  | happens (e : ServerEvent)
  /-- The room takes the first command that waits. -/
  | take
  /-- A writer takes the first item that waits. -/
  | write (inbox : Inbox)
deriving DecidableEq, Repr

namespace Post

/-- The answer that the handler waits for, if it is among those that are given. -/
def answer? (p : Post) (as : List Answer) : Option Answer :=
  as.find? fun a => p.link.handler.command? = some a.command

/-- The post after answers have been given. -/
def answered (p : Post) (as : List Answer) : Post :=
  match p.answer? as with
  | none => p
  | some a => { p with link := { p.link with handler := p.link.handler.resume a.reply } }

/-- The post at an inbox after answers have been given, with what is put into the inbox. -/
def served (p : Post) (inbox : Inbox) (as : List Answer) (ds : List Delivery) : Post :=
  { p.answered as with unsent := p.unsent ++ Room.itemsFor inbox ds }

/-- The writer takes the first item that waits. -/
def write (p : Post) : Post :=
  match p.unsent with
  | [] => p
  | item :: rest => ⟨p.link.put item, rest⟩

end Post

namespace Office

/-- An office that nobody has come to. -/
def initial (idle : Option Span) : Office := ⟨.initial, [], 1, idle, true⟩

/-- Something happens at the desk. The answers go to those who wait for them, and what the room has
for inboxes waits there. -/
def atDesk (o : Office) (e : DeskEvent) : Office :=
  let (desk, as, ds) := o.desk.step e
  { o with desk, posts := o.posts.mapIdx fun i p => p.served i as ds }

/-- The office with one link changed. -/
def modifyLink (o : Office) (inbox : Inbox) (f : Link → Link) : Office :=
  { o with posts := o.posts.modify inbox fun p => { p with link := f p.link } }

/-- What a handler hears at once that calls a command and does not wait for an answer. -/
def receipt (o : Office) : Reply :=
  if o.desk.room.isClosed then .refused .unavailable else .done

/-- A client is accepted. -/
def arrive (o : Office) : Office :=
  if o.isListening then
    { o with posts := o.posts ++ [⟨.fresh ⟨o.next⟩ o.posts.length, []⟩], next := o.next + 1 }
  else o

/-- The handler of a link does the next thing it has to do: it calls what it has to tell, unless it
has and waits for the answer, or else it reads. -/
def turn (o : Office) (inbox : Inbox) : Office :=
  match o.posts[inbox]? with
  | none => o
  | some p =>
    match p.link.handler.command? with
    | none => o.modifyLink inbox Link.read
    | some cmd =>
      if cmd.isAwaited then
        if cmd ∈ o.desk.waiting then o else o.atDesk (.call cmd)
      else
        (o.atDesk (.call cmd)).modifyLink inbox fun l =>
          { l with handler := l.handler.resume o.receipt }

/-- The handler of a link gives up on a client that is silent, if the office has a limit. -/
def expire (o : Office) (inbox : Inbox) : Office :=
  if o.idle.isSome then
    o.modifyLink inbox fun l => if l.isSilent then { l with handler := l.handler.giveUp } else l
  else o

/-- One event. -/
def step (o : Office) : OfficeEvent → Office
  | .happens .arrive => o.arrive
  | .happens .stray => o
  | .happens (.signal inbox sig) =>
    o.modifyLink inbox fun l => { l with socket := l.socket.signal sig }
  | .happens (.expire inbox) => o.expire inbox
  | .happens (.turn inbox) => o.turn inbox
  | .happens .shutDown => o.atDesk (.call .shutdown)
  | .happens .stop => { o.atDesk (.call .shutdown) with isListening := false }
  | .take => o.atDesk .take
  | .write inbox => { o with posts := o.posts.modify inbox Post.write }

/-- A list of events, one after the other. -/
def run (o : Office) (es : List OfficeEvent) : Office := es.foldl step o

end Office

end ParityDuel
