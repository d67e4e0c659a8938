import ParityDuel.Office
import ParityDuel.Proofs.Desk.Order
import ParityDuel.Proofs.Server.Tellings

/-!
# Office inversion

What one event does to one post of an office. `Office.PostStep` lists the six things that can happen
to a post that is there, with the post afterwards, and says for each what the writer has taken, what
the client has done, what has come of waiting for the client and what the handler has told.
`posts_step_inv` says that there is nothing else but the arrival of a new post. What happens to the
link of a post is something that can happen to any link (`PostStep.moves`), and what waits in the
inbox of a post is what has been put there and is not taken yet (`PostStep.unsent`).
-/

namespace ParityDuel

namespace Room

/-- The answers of a room are what it replies to those who wait. -/
lemma answers_eq (r : Room) (cs : List Command) :
    r.answers cs = ((r.dialogue cs).filter (·.1.isAwaited)).map fun x => ⟨x.1, x.2⟩ := by
  induction cs generalizing r with
  | nil => rfl
  | cons cmd cs ih =>
    rw [answers, dialogue, ih, List.filter_cons, Desk.answer]
    cases cmd.isAwaited <;> rfl

/-- A room answers those who wait, in their order. -/
lemma map_command_answers (r : Room) (cs : List Command) :
    (r.answers cs).map Answer.command = cs.filter Command.isAwaited := by
  induction cs generalizing r with
  | nil => rfl
  | cons cmd cs ih =>
    rw [answers, List.map_append, ih, List.filter_cons, Desk.answer]
    cases cmd.isAwaited <;> rfl

/-- Whatever a room has replied, it has replied to a command in its turn. -/
lemma split_of_mem_dialogue {r : Room} {cs : List Command} {cmd : Command} {reply : Reply}
    (hm : (cmd, reply) ∈ r.dialogue cs) :
    ∃ before after, cs = before ++ cmd :: after ∧ ((r.run before).1.step cmd).2.1 = reply := by
  induction cs generalizing r with
  | nil => cases hm
  | cons first cs ih =>
    obtain now | later := List.mem_cons.1 hm
    · obtain ⟨rfl, rfl⟩ := Prod.mk.inj now
      exact ⟨[], cs, rfl, rfl⟩
    · obtain ⟨before, after, rfl, told⟩ := ih later
      refine ⟨first :: before, after, rfl, ?_⟩
      rw [run_cons]
      exact told

/-- Whatever a room answers, it replies. -/
lemma mem_answers_inv {r : Room} {cs : List Command} {a : Answer} (hm : a ∈ r.answers cs) :
    (a.command, a.reply) ∈ r.dialogue cs ∧ a.command.isAwaited = true := by
  rw [answers_eq] at hm
  obtain ⟨x, there, rfl⟩ := List.mem_map.1 hm
  obtain ⟨there, awaited⟩ := List.mem_filter.1 there
  exact ⟨there, awaited⟩

end Room

namespace Desk

/-- A room gives the answers at its desk. -/
lemma reply_of_answer {d : Desk} {e : DeskEvent} {a : Answer} (hm : a ∈ (d.step e).2.1) :
    ∃ r : Room, a.reply = (r.step a.command).2.1 := by
  -- whatever the event, the answers are those of the room to some commands
  have some : ∃ cs, (d.step e).2.1 = d.room.answers cs := by
    cases e with
    | call cmd =>
      cases closed : d.room.isClosed with
      | true => exact ⟨[cmd], congrArg (·.2.1) (step_call_of_closed closed cmd)⟩
      | false => exact ⟨[], congrArg (·.2.1) (step_call_of_open closed cmd)⟩
    | take =>
      cases waiting : d.waiting with
      | nil => exact ⟨[], congrArg (·.2.1) (step_take_nil waiting)⟩
      | cons cmd rest =>
        cases closed : (d.room.step cmd).1.isClosed with
        | true => exact ⟨cmd :: rest, congrArg (·.2.1) (step_take_of_closing waiting closed)⟩
        | false => exact ⟨[cmd], congrArg (·.2.1) (step_take_of_open waiting closed)⟩
  obtain ⟨cs, answers⟩ := some
  rw [answers] at hm
  obtain ⟨before, _, _, reply⟩ := Room.split_of_mem_dialogue (Room.mem_answers_inv hm).1
  exact ⟨_, reply.symm⟩

/-- Nobody is answered who calls without waiting. -/
lemma answers_call {cmd : Command} (d : Desk) (free : cmd.isAwaited = false) :
    (d.step (.call cmd)).2.1 = [] := by
  cases closed : d.room.isClosed with
  | true =>
    rw [step_call_of_closed closed, Room.answers_eq]
    simp [Room.dialogue, free]
  | false => rw [step_call_of_open closed]

end Desk

namespace Post

variable {p : Post} {as : List Answer} {a : Answer}

/-- An answer goes to a handler that has called its command. -/
lemma answer?_inv (h : p.answer? as = some a) :
    a ∈ as ∧ p.link.handler.command? = some a.command :=
  ⟨List.mem_of_find?_eq_some h, by simpa using List.find?_some h⟩

/-- Answers change nothing of a link but its handler. -/
lemma answered_inv (p : Post) (as : List Answer) :
    (p.answered as).link =
      { p.link with handler := match p.answer? as with
        | none => p.link.handler
        | some a => p.link.handler.resume a.reply } ∧
    (p.answered as).unsent = p.unsent := by
  unfold answered
  cases p.answer? as <;> exact ⟨rfl, rfl⟩

@[simp] lemma answered_nil (p : Post) : p.answered [] = p := rfl

/-- A post that has no answer and gets nothing stays as it is. -/
@[simp] lemma served_nil (p : Post) (inbox : Inbox) : p.served inbox [] [] = p := by
  rw [served, answered_nil, Room.itemsFor, List.filter_nil, List.map_nil, List.append_nil]

end Post

/-- The post that an event is about, if it is about one. -/
def OfficeEvent.inbox? : OfficeEvent → Option Inbox
  | .happens e => e.inbox?
  | .take => none
  | .write inbox => some inbox

namespace Office

/-- What there is of an office but for what waits. -/
def front (o : Office) : Server :=
  ⟨o.desk.room, o.posts.map Post.link, o.next, o.idle, o.isListening⟩

/-- What a handler calls when its turn comes, unless it has called it and waits for the answer. -/
def call? (o : Office) (i : Inbox) : Option Command :=
  (o.posts[i]?.bind (·.link.handler.command?)).filter fun cmd =>
    !(cmd.isAwaited && decide (cmd ∈ o.desk.waiting))

/-- What happens at the desk by an event. -/
def deskEvent? (o : Office) : OfficeEvent → Option DeskEvent
  | .happens (.turn inbox) => (o.call? inbox).map .call
  | .happens .shutDown => some (.call .shutdown)
  | .happens .stop => some (.call .shutdown)
  | .happens .arrive | .happens .stray | .happens (.signal _ _) | .happens (.expire _) => none
  | .take => some .take
  | .write _ => none

/-- The answers that are given by an event. -/
def answers (o : Office) (e : OfficeEvent) : List Answer :=
  match o.deskEvent? e with
  | none => []
  | some d => (o.desk.step d).2.1

/-- What the room puts into inboxes by an event. -/
def deliveries (o : Office) (e : OfficeEvent) : List Delivery :=
  match o.deskEvent? e with
  | none => []
  | some d => (o.desk.step d).2.2

/-- What a writer takes by an event. -/
def written? (o : Office) (i : Inbox) : OfficeEvent → Option Item
  | .write inbox => if inbox = i then o.posts[i]?.bind (·.unsent.head?) else none
  | .happens _ => none
  | .take => none

/-- What a client does by an event. -/
def signal? (o : Office) (i : Inbox) : OfficeEvent → Option Signal
  | .happens e => o.front.signal? i e
  | .take => none
  | .write _ => none

/-- What comes of waiting for a client by an event. -/
def hearing? (o : Office) (i : Inbox) : OfficeEvent → Option Hearing
  | .happens e => o.front.hearing? i e
  | .take => none
  | .write _ => none

/-- What a handler is done with telling by an event, and what it has been told: the answer that it
has waited for, or else that what it calls waits at the desk or is too late. -/
def exchange? (o : Office) (i : Inbox) (e : OfficeEvent) : Option (Command × Reply) :=
  o.posts[i]?.bind fun p =>
    match p.answer? (o.answers e) with
    | some a => some (a.command, a.reply)
    | none =>
      if e = .happens (.turn i) then
        (p.link.handler.command?.filter fun cmd => !cmd.isAwaited).map fun cmd => (cmd, o.receipt)
      else none

/-- What an event does to a post: the post afterwards, what the writer has taken, what the client
has done, what has come of waiting for the client, and what the handler has told. -/
inductive PostStep (o : Office) (i : Inbox) (p : Post) : OfficeEvent → Post → Option Item →
    Option Signal → Option Hearing → Option (Command × Reply) → Prop where
  | served {e} :
    PostStep o i p e (p.served i (o.answers e) (o.deliveries e)) none none none
      ((p.answer? (o.answers e)).map fun a => (a.command, a.reply))
  | told {cmd} :
    p.link.handler.command? = some cmd →
    cmd.isAwaited = false →
    PostStep o i p (.happens (.turn i))
      { link := { p.link with handler := p.link.handler.resume o.receipt }
        unsent := p.unsent ++ Room.itemsFor i (o.deliveries (.happens (.turn i))) }
      none none none (some (cmd, o.receipt))
  | wrote {item rest} :
    p.unsent = item :: rest →
    PostStep o i p (.write i) ⟨p.link.put item, rest⟩ (some item) none none none
  | signalled (sig) :
    PostStep o i p (.happens (.signal i sig))
      { p with link := { p.link with socket := p.link.socket.signal sig } }
      none (some sig) none none
  | gaveUp :
    p.link.isSilent = true →
    PostStep o i p (.happens (.expire i))
      { p with link := { p.link with handler := p.link.handler.giveUp } }
      none none (some .silent) none
  | heard {r socket} :
    p.link.handler.progress = .reading →
    p.link.socket.receive = some (r, socket) →
    PostStep o i p (.happens (.turn i))
      { p with link := { p.link with handler := p.link.handler.hear r, socket } }
      none none (some (.heard r)) none

/-- What the turn of a handler can be: the office afterwards, and what is called. -/
inductive TurnStep (o : Office) (i : Inbox) : Office → Option Command → Prop where
  | absent :
    o.posts[i]? = none →
    TurnStep o i o none
  | reads {p} :
    o.posts[i]? = some p →
    p.link.handler.command? = none →
    TurnStep o i (o.modifyLink i Link.read) none
  | waits {p cmd} :
    o.posts[i]? = some p →
    p.link.handler.command? = some cmd →
    cmd.isAwaited = true →
    TurnStep o i o none
  | asks {p cmd} :
    o.posts[i]? = some p →
    p.link.handler.command? = some cmd →
    cmd.isAwaited = true →
    TurnStep o i (o.atDesk (.call cmd)) (some cmd)
  | tells {p cmd} :
    o.posts[i]? = some p →
    p.link.handler.command? = some cmd →
    cmd.isAwaited = false →
    TurnStep o i
      ((o.atDesk (.call cmd)).modifyLink i fun l =>
        { l with handler := l.handler.resume o.receipt })
      (some cmd)

variable {o : Office} {i : Inbox} {e : OfficeEvent} {p p' : Post} {written : Option Item}
  {sig : Option Signal} {hearing : Option Hearing} {exchange : Option (Command × Reply)}
  {cmd : Command}

/-- Inversion for `turn`. -/
lemma turn_inv (o : Office) (i : Inbox) : o.TurnStep i (o.turn i) (o.call? i) := by
  unfold turn call?
  cases h : o.posts[i]? with
  | none => exact .absent h
  | some p =>
    dsimp only [Option.bind_some]
    cases told : p.link.handler.command? with
    | none => exact .reads h told
    | some cmd =>
      cases awaited : cmd.isAwaited with
      | true =>
        by_cases there : cmd ∈ o.desk.waiting
        · simpa [Option.filter, awaited, there] using TurnStep.waits h told awaited
        · simpa [Option.filter, awaited, there] using TurnStep.asks h told awaited
      | false => simpa [Option.filter, awaited] using TurnStep.tells h told awaited

/-- What happens at the desk is served to every post. -/
lemma getElem?_atDesk (o : Office) (d : DeskEvent) (i : Inbox) :
    (o.atDesk d).posts[i]? =
      o.posts[i]?.map fun p => p.served i (o.desk.step d).2.1 (o.desk.step d).2.2 :=
  List.getElem?_mapIdx ..

/-- Only the link of the inbox is modified. -/
lemma getElem?_modifyLink (o : Office) (inbox i : Inbox) (f : Link → Link) :
    (o.modifyLink inbox f).posts[i]? =
      o.posts[i]?.map fun p => if inbox = i then { p with link := f p.link } else p :=
  List.getElem?_modify ..

/-- Only the writer of the inbox writes. -/
lemma getElem?_write (o : Office) (inbox i : Inbox) :
    (o.step (.write inbox)).posts[i]? =
      o.posts[i]?.map fun p => if inbox = i then p.write else p :=
  List.getElem?_modify ..

/-- Inversion for `arrive`. -/
lemma posts_arrive (o : Office) : (o.step (.happens .arrive)).posts =
    o.posts ++ if o.isListening then [⟨.fresh ⟨o.next⟩ o.posts.length, []⟩] else [] := by
  show o.arrive.posts = _
  unfold arrive
  split
  · rfl
  · exact (List.append_nil _).symm

/-- The desk changes by what happens at it only. -/
lemma desk_step (o : Office) (e : OfficeEvent) :
    (o.step e).desk = (o.desk.run (o.deskEvent? e).toList).1 := by
  cases e with
  | happens e =>
    cases e with
    | arrive =>
      show o.arrive.desk = _
      unfold arrive
      split <;> rfl
    | expire inbox =>
      show (o.expire inbox).desk = _
      unfold expire
      split <;> rfl
    | turn inbox =>
      have ts := o.turn_inv inbox
      show (o.turn inbox).desk = (o.desk.run ((o.call? inbox).map DeskEvent.call).toList).1
      generalize o.turn inbox = o', o.call? inbox = call at ts
      cases ts <;> rfl
    | _ => rfl
  | take => rfl
  | write inbox => rfl

/-- An event that is no arrival goes over the posts one by one. A post that it is not about is
served with what comes of it at the desk. -/
lemma exists_getElem?_step (o : Office) (i : Inbox) (noArrival : e ≠ .happens .arrive) :
    ∃ f : Post → Post, (o.step e).posts[i]? = o.posts[i]?.map f ∧
      (e.inbox? ≠ some i → ∀ p, f p = p.served i (o.answers e) (o.deliveries e)) := by
  have unchanged : o.posts[i]? = o.posts[i]?.map id := by rw [Option.map_id]; rfl
  have nothing (p : Post) : p = p.served i [] [] := (p.served_nil i).symm
  cases e with
  | happens e =>
    cases e with
    | arrive => exact absurd rfl noArrival
    | stray => exact ⟨id, unchanged, fun _ => nothing⟩
    | signal inbox sig =>
      refine ⟨_, getElem?_modifyLink .., fun aside p => ?_⟩
      exact (if_neg fun own => aside (congrArg some own)).trans (nothing p)
    | expire inbox =>
      show ∃ f, (o.expire inbox).posts[i]? = _ ∧ _
      unfold expire
      split
      · refine ⟨_, getElem?_modifyLink .., fun aside p => ?_⟩
        exact (if_neg fun own => aside (congrArg some own)).trans (nothing p)
      · exact ⟨id, unchanged, fun _ => nothing⟩
    | turn inbox =>
      have ts := o.turn_inv inbox
      show ∃ f, (o.turn inbox).posts[i]? = _ ∧ _
      rw [answers, deliveries, deskEvent?]
      generalize o.turn inbox = o', o.call? inbox = call at ts
      cases ts with
      | absent _ => exact ⟨id, unchanged, fun _ => nothing⟩
      | reads _ _ =>
        refine ⟨_, getElem?_modifyLink .., fun aside p => ?_⟩
        exact (if_neg fun own => aside (congrArg some own)).trans (nothing p)
      | waits _ _ _ => exact ⟨id, unchanged, fun _ => nothing⟩
      | asks _ _ _ => exact ⟨_, getElem?_atDesk .., fun _ _ => rfl⟩
      | tells _ _ _ =>
        rw [getElem?_modifyLink, getElem?_atDesk, Option.map_map]
        exact ⟨_, rfl, fun aside p => if_neg fun own => aside (congrArg some own)⟩
    | shutDown => exact ⟨_, getElem?_atDesk .., fun _ _ => rfl⟩
    | stop => exact ⟨_, getElem?_atDesk o (.call .shutdown) i, fun _ _ => rfl⟩
  | take => exact ⟨_, getElem?_atDesk .., fun _ _ => rfl⟩
  | write inbox =>
    refine ⟨_, getElem?_write .., fun aside p => ?_⟩
    exact (if_neg fun own => aside (congrArg some own)).trans (nothing p)

/-- A post that an event is not about is served with what comes of it at the desk. -/
lemma getElem?_step_of_aside (h : o.posts[i]? = some p) (aside : e.inbox? ≠ some i) :
    (o.step e).posts[i]? = some (p.served i (o.answers e) (o.deliveries e)) := by
  by_cases arrival : e = .happens .arrive
  · subst arrival
    have inside := (List.getElem?_eq_some_iff.1 h).1
    rw [posts_arrive, List.getElem?_append_left inside, h]
    exact congrArg some (p.served_nil i).symm
  · obtain ⟨f, posts, others⟩ := o.exists_getElem?_step i arrival
    rw [posts, h, Option.map_some, others aside]

/-- What an event says of a post that is there. -/
def Says (o : Office) (i : Inbox) (e : OfficeEvent) (written : Option Item) (sig : Option Signal)
    (hearing : Option Hearing) (exchange : Option (Command × Reply)) : Prop :=
  o.written? i e = written ∧ o.signal? i e = sig ∧ o.hearing? i e = hearing ∧
    o.exchange? i e = exchange

/-- What a post goes through by an event, with what the event says of it. -/
def Goes (o : Office) (i : Inbox) (p : Post) (e : OfficeEvent) : Prop :=
  ∃ p' written sig hearing exchange, (o.step e).posts[i]? = some p' ∧
    o.Says i e written sig hearing exchange ∧ o.PostStep i p e p' written sig hearing exchange

/-- An event about another post says nothing of this one but an answer. -/
lemma says_of_aside (h : o.posts[i]? = some p) (aside : e.inbox? ≠ some i) :
    o.Says i e none none none ((p.answer? (o.answers e)).map fun a => (a.command, a.reply)) := by
  have exchange : o.exchange? i e =
      (p.answer? (o.answers e)).map fun a => (a.command, a.reply) := by
    have other : e ≠ .happens (.turn i) := by
      rintro rfl
      exact aside rfl
    rw [exchange?, h, Option.bind_some]
    cases p.answer? (o.answers e) with
    | none => exact if_neg other
    | some a => rfl
  cases e with
  | happens e =>
    obtain ⟨signal, hearing, _⟩ := Server.silent_of_aside (s := o.front) aside
    exact ⟨rfl, signal, hearing, exchange⟩
  | take => exact ⟨rfl, rfl, rfl, exchange⟩
  | write inbox => exact ⟨if_neg fun own => aside (congrArg some own), rfl, rfl, exchange⟩

/-- An event that is about another post. -/
lemma goes_of_aside (h : o.posts[i]? = some p) (aside : e.inbox? ≠ some i) : o.Goes i p e :=
  ⟨_, _, _, _, _, getElem?_step_of_aside h aside, says_of_aside h aside, .served⟩

/-- A post that stays as it is while nothing happens at the desk is served with nothing. -/
lemma goes_of_still (still : (o.step e).posts[i]? = some p) (none : o.deskEvent? e = Option.none)
    (said : o.Says i e Option.none Option.none Option.none Option.none) : o.Goes i p e := by
  have served : o.PostStep i p e _ Option.none Option.none Option.none _ := .served
  rw [answers, deliveries, none, Post.served_nil] at served
  exact ⟨_, _, _, _, _, still, said, served⟩

/-- A signal of its own client. -/
lemma goes_signal (h : o.posts[i]? = some p) (sig : Signal) :
    o.Goes i p (.happens (.signal i sig)) := by
  refine ⟨_, _, _, _, _, ?_, ⟨rfl, ?_, rfl, ?_⟩, .signalled sig⟩
  · show (o.modifyLink i _).posts[i]? = _
    rw [getElem?_modifyLink, h, Option.map_some, if_pos rfl]
  · simp [signal?, Server.signal?, front, h]
  · simp [exchange?, h, answers, deskEvent?, Post.answer?]

/-- The end of the patience with its own client. -/
lemma goes_expire (h : o.posts[i]? = some p) : o.Goes i p (.happens (.expire i)) := by
  have exchange : o.exchange? i (.happens (.expire i)) = none := by
    simp [exchange?, h, answers, deskEvent?, Post.answer?]
  cases silent : o.idle.isSome && p.link.isSilent with
  | true =>
    obtain ⟨limited, quiet⟩ := Bool.and_eq_true_iff.1 silent
    refine ⟨_, _, _, _, _, ?_, ⟨rfl, rfl, ?_, exchange⟩, .gaveUp quiet⟩
    · show (o.expire i).posts[i]? = _
      rw [expire, if_pos limited, getElem?_modifyLink, h]
      simp [quiet]
    · simp [hearing?, Server.hearing?, front, h, limited, quiet]
  | false =>
    refine goes_of_still ?_ rfl ⟨rfl, rfl, ?_, exchange⟩
    · show (o.expire i).posts[i]? = _
      unfold expire
      split
      · next limited =>
        have loud : p.link.isSilent = false := by simpa [limited] using silent
        rw [getElem?_modifyLink, h]
        simp [loud]
      · exact h
    · simpa [hearing?, Server.hearing?, front, h] using silent

/-- An item that its own writer takes. -/
lemma goes_write (h : o.posts[i]? = some p) : o.Goes i p (.write i) := by
  have exchange : o.exchange? i (.write i) = none := by
    simp [exchange?, h, answers, deskEvent?, Post.answer?]
  cases unsent : p.unsent with
  | nil =>
    refine goes_of_still ?_ rfl ⟨?_, rfl, rfl, exchange⟩
    · rw [getElem?_write, h, Option.map_some, if_pos rfl, Post.write, unsent]
    · simp [written?, h, unsent]
  | cons item rest =>
    refine ⟨_, _, _, _, _, ?_, ⟨?_, rfl, rfl, exchange⟩, .wrote unsent⟩
    · rw [getElem?_write, h, Option.map_some, if_pos rfl, Post.write, unsent]
    · simp [written?, h, unsent]

/-- A handler that has nothing to call reads. -/
lemma goes_read (h : o.posts[i]? = some p) (told : p.link.handler.command? = none)
    (step : o.step (.happens (.turn i)) = o.modifyLink i Link.read) (call : o.call? i = none) :
    o.Goes i p (.happens (.turn i)) := by
  have after : (o.step (.happens (.turn i))).posts[i]? = some { p with link := p.link.read } := by
    rw [step, getElem?_modifyLink, h, Option.map_some, if_pos rfl]
  have quiet : o.deskEvent? (.happens (.turn i)) = none := by
    rw [deskEvent?, call]
    rfl
  have exchange : o.exchange? i (.happens (.turn i)) = none := by
    simp [exchange?, h, answers, quiet, Post.answer?, told]
  cases progress : p.link.handler.progress with
  | reading =>
    cases received : p.link.socket.receive with
    | some x =>
      obtain ⟨r, socket⟩ := x
      refine ⟨_, _, _, _, _, ?_, ⟨rfl, rfl, ?_, exchange⟩, .heard progress received⟩
      · rw [after, Link.read, progress, received]
      · simp [hearing?, Server.hearing?, front, h, progress, received]
    | none =>
      refine goes_of_still ?_ quiet ⟨rfl, rfl, ?_, exchange⟩
      · rw [after, Link.read, progress, received]
      · simp [hearing?, Server.hearing?, front, h, progress, received]
  | finished =>
    refine goes_of_still ?_ quiet ⟨rfl, rfl, ?_, exchange⟩
    · rw [after, Link.read, progress]
    · simp [hearing?, Server.hearing?, front, h, progress]
  | seating => simp [Handler.command?, progress] at told
  | forwarding data => simp [Handler.command?, progress] at told
  | leaving => simp [Handler.command?, progress] at told

/-- A handler that has something to call hears nothing. -/
lemma hearing_of_busy (h : o.posts[i]? = some p) (told : p.link.handler.command? = some cmd) :
    o.hearing? i (.happens (.turn i)) = none := by
  have busy : p.link.handler.progress ≠ .reading := by
    intro reading
    simp [Handler.command?, reading] at told
  simp [hearing?, Server.hearing?, front, h, busy]

/-- Its own turn. -/
lemma goes_turn (h : o.posts[i]? = some p) : o.Goes i p (.happens (.turn i)) := by
  have ts := o.turn_inv i
  have step : o.step (.happens (.turn i)) = o.turn i := rfl
  have event : o.deskEvent? (.happens (.turn i)) = (o.call? i).map .call := rfl
  rw [← step] at ts
  generalize turned : o.step (.happens (.turn i)) = o', calls : o.call? i = call at ts
  rw [calls] at event
  cases ts with
  | absent none =>
    rw [h] at none
    cases none
  | @reads k hk told =>
    obtain rfl := Option.some.inj (h.symm.trans hk)
    exact goes_read h told turned calls
  | @waits k cmd hk told awaited =>
    obtain rfl := Option.some.inj (h.symm.trans hk)
    refine goes_of_still ?_ event ⟨rfl, rfl, hearing_of_busy h told, ?_⟩
    · rw [turned]
      exact h
    · simp [exchange?, h, answers, event, Post.answer?, told, awaited]
  | @asks k cmd hk told awaited =>
    obtain rfl := Option.some.inj (h.symm.trans hk)
    refine ⟨_, _, _, _, _, ?_, ⟨rfl, rfl, hearing_of_busy h told, ?_⟩, .served⟩
    · rw [turned, getElem?_atDesk, h, answers, deliveries, event]
      rfl
    · rw [exchange?, h, Option.bind_some]
      cases p.answer? (o.answers (.happens (.turn i))) with
      | none => simp [told, awaited]
      | some a => rfl
  | @tells k cmd hk told free =>
    obtain rfl := Option.some.inj (h.symm.trans hk)
    have nobody : (o.desk.step (.call cmd)).2.1 = [] := o.desk.answers_call free
    refine ⟨_, _, _, _, _, ?_, ⟨rfl, rfl, hearing_of_busy h told, ?_⟩, .told told free⟩
    · rw [turned, getElem?_modifyLink, getElem?_atDesk, h, deliveries, event, nobody]
      simp [Post.served]
    · simp [exchange?, h, answers, event, nobody, Post.answer?, told, free]

/-- Inversion for `step`, on a post that is there. -/
lemma step_goes (h : o.posts[i]? = some p) (e : OfficeEvent) : o.Goes i p e := by
  by_cases own : e.inbox? = some i
  · cases e with
    | happens e =>
      cases e with
      | signal inbox sig =>
        obtain rfl := Option.some.inj own
        exact goes_signal h sig
      | expire inbox =>
        obtain rfl := Option.some.inj own
        exact goes_expire h
      | turn inbox =>
        obtain rfl := Option.some.inj own
        exact goes_turn h
      | arrive => cases own
      | stray => cases own
      | shutDown => cases own
      | stop => cases own
    | take => cases own
    | write inbox =>
      obtain rfl := Option.some.inj own
      exact goes_write h
  · exact goes_of_aside h own

/-- Nothing but an arrival brings a post. -/
lemma getElem?_step_of_none (none : o.posts[i]? = none) :
    (o.step e).posts[i]? = Option.none ∨ e = .happens .arrive ∧ i = o.posts.length ∧
      (o.step e).posts[i]? = some ⟨.fresh ⟨o.next⟩ i, []⟩ := by
  by_cases arrival : e = .happens .arrive
  · subst arrival
    rw [posts_arrive]
    have outside := List.getElem?_eq_none_iff.1 none
    cases listening : o.isListening with
    | true =>
      obtain rfl | more := Nat.eq_or_lt_of_le outside
      · exact .inr ⟨rfl, rfl, by simp⟩
      · refine .inl (List.getElem?_eq_none_iff.2 ?_)
        rw [List.length_append]
        exact more
    | false => exact .inl (by simpa using none)
  · obtain ⟨f, posts, _⟩ := o.exists_getElem?_step i arrival
    rw [posts, none]
    exact .inl rfl

/-- Every post after an event was there before or has just come. -/
lemma posts_step_inv (h : (o.step e).posts[i]? = some p') :
    (∃ p, o.posts[i]? = some p ∧
      o.PostStep i p e p' (o.written? i e) (o.signal? i e) (o.hearing? i e) (o.exchange? i e)) ∨
    o.posts[i]? = none ∧ e = .happens .arrive ∧ i = o.posts.length ∧
      p' = ⟨.fresh ⟨o.next⟩ i, []⟩ := by
  cases before : o.posts[i]? with
  | some p =>
    obtain ⟨_, _, _, _, _, after, ⟨rfl, rfl, rfl, rfl⟩, st⟩ := step_goes before e
    obtain rfl := Option.some.inj (after.symm.trans h)
    exact .inl ⟨p, rfl, st⟩
  | none =>
    obtain gone | ⟨rfl, last, after⟩ := getElem?_step_of_none (e := e) before
    · rw [gone] at h
      cases h
    · exact .inr ⟨rfl, rfl, last, Option.some.inj (h.symm.trans after)⟩

/-- Events say nothing of a post that has not come. -/
lemma says_of_none (none : o.posts[i]? = none) (e : OfficeEvent) :
    o.Says i e Option.none Option.none Option.none Option.none := by
  have absent : o.front.links[i]? = Option.none := by simp [front, none]
  have exchange : o.exchange? i e = Option.none := by rw [exchange?, none, Option.bind_none]
  cases e with
  | happens e =>
    obtain ⟨signal, hearing, _⟩ := Server.silent_of_none absent e
    exact ⟨rfl, signal, hearing, exchange⟩
  | take => exact ⟨rfl, rfl, rfl, exchange⟩
  | write inbox => exact ⟨by simp [written?, none], rfl, rfl, exchange⟩

/-- Inversion for `exchange?`. -/
lemma exchange_inv {reply : Reply} (said : o.exchange? i e = some (cmd, reply)) :
    ⟨cmd, reply⟩ ∈ o.answers e ∨ cmd.isAwaited = false ∧ reply = o.receipt := by
  obtain ⟨p, _, told⟩ := Option.bind_eq_some_iff.1 said
  cases ha : p.answer? (o.answers e) with
  | some a =>
    rw [ha] at told
    obtain ⟨rfl, rfl⟩ := Prod.mk.inj (Option.some.inj told)
    exact .inl (Post.answer?_inv ha).1
  | none =>
    rw [ha] at told
    dsimp only at told
    split at told
    · obtain ⟨c, tells, same⟩ := Option.map_eq_some_iff.1 told
      obtain ⟨rfl, rfl⟩ := Prod.mk.inj same
      exact .inr ⟨by simpa using (Option.filter_eq_some_iff.1 tells).2, rfl⟩
    · cases told

/-- A room has given every answer that is given at its desk. -/
lemma reply_of_answers {a : Answer} (hm : a ∈ o.answers e) :
    ∃ r : Room, a.reply = (r.step a.command).2.1 := by
  unfold answers at hm
  split at hm
  · cases hm
  · exact Desk.reply_of_answer hm

/-- What is called without waiting can be replied to with what its caller is told at once. -/
lemma admits_receipt (o : Office) {h : Handler} (told : h.command? = some cmd)
    (free : cmd.isAwaited = false) : cmd.Admits o.receipt := by
  unfold receipt
  cases Handler.tells_of_command? told with
  | asks _ => cases free
  | passesOn _ =>
    split
    · exact .tooLate
    · exact .taken
  | reports _ => exact .reported

/-- What an event does to the link of a post is something that can happen to a link. -/
lemma PostStep.moves (st : o.PostStep i p e p' written sig hearing exchange) :
    p.link.Moves p'.link sig hearing exchange := by
  cases st with
  | served =>
    have link := (p.answered_inv (o.answers e)).1
    cases ha : p.answer? (o.answers e) with
    | none =>
      have same : (p.served i (o.answers e) (o.deliveries e)).link = p.link := by
        show (p.answered _).link = _
        rw [link, ha]
      rw [same]
      exact .writes []
    | some a =>
      have resumed : (p.served i (o.answers e) (o.deliveries e)).link =
          { p.link.putAll [] with handler := p.link.handler.resume a.reply } := by
        show (p.answered _).link = _
        rw [link, ha]
        rfl
      obtain ⟨given, told⟩ := Post.answer?_inv ha
      obtain ⟨r, reply⟩ := reply_of_answers given
      rw [resumed]
      exact .spoke [] told (reply ▸ r.admits_step told)
  | told tells free => exact .spoke [] tells (o.admits_receipt tells free)
  | @wrote item _ _ => exact .writes [item]
  | signalled sig => exact .signalled sig
  | gaveUp silent => exact .gaveUp silent
  | heard reading hears => exact .heard reading hears

/-- What waits in an inbox is what has been put there and is not taken yet. -/
lemma PostStep.unsent (st : o.PostStep i p e p' written sig hearing exchange)
    (h : o.posts[i]? = some p) :
    p.unsent ++ Room.itemsFor i (o.deliveries e) = written.toList ++ p'.unsent := by
  cases st with
  | served => rfl
  | told _ _ => rfl
  | wrote first =>
    rw [first]
    exact List.append_nil _
  | signalled sig => exact List.append_nil _
  | gaveUp _ => exact List.append_nil _
  | heard reading _ =>
    have none : o.call? i = none := by simp [call?, h, Handler.command?, reading]
    rw [deliveries, deskEvent?, none]
    exact List.append_nil _

/-- Whatever an event does to a post, its writer does nothing but take what it takes. -/
lemma PostStep.writer (st : o.PostStep i p e p' written sig hearing exchange) :
    p'.link.frames = (p.link.putAll written.toList).frames ∧
    p'.link.isShut = (p.link.putAll written.toList).isShut ∧
    ((p.link.putAll written.toList).socket.isClosing = true →
      p'.link.socket.isClosing = true) := by
  cases st with
  | served =>
    have link : (p.served i (o.answers e) (o.deliveries e)).link = _ := (p.answered_inv _).1
    rw [link]
    exact ⟨rfl, rfl, id⟩
  | told _ _ => exact ⟨rfl, rfl, id⟩
  | wrote _ => exact ⟨rfl, rfl, id⟩
  | signalled sig => exact ⟨rfl, rfl, id⟩
  | gaveUp _ => exact ⟨rfl, rfl, id⟩
  | @heard r socket reading hears =>
    have rc := p.link.socket.receives
    rw [hears] at rc
    cases rc with
    | data _ _ _ => exact ⟨rfl, rfl, id⟩
    | ended _ _ _ closing => exact ⟨rfl, rfl, closing⟩

end Office

end ParityDuel
