import ParityDuel.Proofs.Office.Histories
import ParityDuel.Proofs.Server.Identities

/-!
# Prompt offices

A server is an office that is prompt: whatever is called is taken at once, and whatever is put into
an inbox is sent at once. One event of a server is the same event of an office, after which the room
takes what waits and every writer takes what has been put into its inbox (`promptly`). An office
that is prompt in this way goes through the states of the server (`run_prompt`), so that everything
that can happen at a server can happen at an office.
-/

namespace ParityDuel

/-- A handler that is told something stays told when the writer goes on. -/
lemma Link.putAll_resume (l : Link) (h : Handler) (is : List Item) :
    { l with handler := h }.putAll is = { l.putAll is with handler := h } := by
  induction is generalizing l with
  | nil => rfl
  | cons i is ih =>
    have first : { l with handler := h }.put i = { l.put i with handler := h } := by
      unfold put
      dsimp only
      split
      · rfl
      · cases i with
        | notice n =>
          dsimp only
          cases l.socket.send (Utf8.ofString n.encode) <;> rfl
        | close => rfl
        | ended => rfl
    show ({ l with handler := h }.put i).putAll is = _
    rw [first, ih]
    rfl

/-- A command that is called where nothing waits is turned down before a closed room, or else the
room takes it next. -/
lemma Desk.call_take (r : Room) (cmd : Command) :
    (Desk.mk r []).step (.call cmd) = (⟨r, []⟩, r.answers [cmd], (r.step cmd).2.2) ∧
        (Desk.mk r []).step .take = (⟨r, []⟩, [], []) ∧ (r.step cmd).1 = r ∨
      (Desk.mk r []).step (.call cmd) = (⟨r, [cmd]⟩, [], []) ∧
        (Desk.mk r [cmd]).step .take =
          (⟨(r.step cmd).1, []⟩, r.answers [cmd], (r.step cmd).2.2) := by
  have one : (r.run [cmd]).2 = (r.step cmd).2.2 := List.append_nil _
  cases closed : r.isClosed with
  | true =>
    refine .inl ⟨?_, step_take_nil rfl, by rw [Room.step_of_closed closed]⟩
    rw [step_call_of_closed closed, one]
  | false =>
    refine .inr ⟨step_call_of_open closed cmd, ?_⟩
    cases after : (r.step cmd).1.isClosed with
    | true => rw [step_take_of_closing rfl after, one]
    | false => rw [step_take_of_open rfl after]

namespace Office

/-- The office in which nothing waits. -/
def ofServer (s : Server) : Office :=
  ⟨⟨s.room, []⟩, s.links.map fun l => ⟨l, []⟩, s.next, s.idle, s.isListening⟩

/-- Every writer takes what has been put into its inbox. -/
def writes (ds : List Delivery) : List OfficeEvent := ds.map fun d => .write d.inbox

/-- An event of a server, in an office that sees to it at once. -/
def promptly (s : Server) (e : ServerEvent) : List OfficeEvent :=
  .happens e :: .take :: writes (s.deliveries e)

/-- Events of a server, in an office that sees to each of them at once. -/
def prompt (s : Server) : List ServerEvent → List OfficeEvent
  | [] => []
  | e :: es => promptly s e ++ prompt (s.step e) es

variable {s s' : Server} {o : Office} {e : ServerEvent} {ds : List Delivery}

/-- Two offices with the same posts are the same if the rest is. -/
lemma eq_ofServer (desk : o.desk = ⟨s.room, []⟩)
    (posts : ∀ i : Inbox, o.posts[i]? = s.links[i]?.map fun l => ⟨l, []⟩) (next : o.next = s.next)
    (idle : o.idle = s.idle) (listening : o.isListening = s.isListening) : o = ofServer s := by
  obtain ⟨_, posts', _, _, _⟩ := o
  obtain rfl := desk
  obtain rfl := next
  obtain rfl := idle
  obtain rfl := listening
  have same : posts' = s.links.map fun l => ⟨l, []⟩ := by
    apply List.ext_getElem?
    intro i
    rw [List.getElem?_map]
    exact posts i
  rw [same]
  rfl

/-- Writers change nothing but posts. -/
lemma rest_writes (o : Office) (ds : List Delivery) :
    (o.run (writes ds)).desk = o.desk ∧ (o.run (writes ds)).next = o.next ∧
      (o.run (writes ds)).idle = o.idle ∧ (o.run (writes ds)).isListening = o.isListening := by
  induction ds generalizing o with
  | nil => exact ⟨rfl, rfl, rfl, rfl⟩
  | cons d ds ih => exact ih (o.step (.write d.inbox))

/-- Once every writer has taken what has been put into its inbox, nothing waits any more. -/
lemma posts_writes {f : Inbox → Link → Link}
    (posts : ∀ i : Inbox, o.posts[i]? = s.links[i]?.map fun l => ⟨f i l, Room.itemsFor i ds⟩)
    (i : Inbox) : (o.run (writes ds)).posts[i]? =
      s.links[i]?.map fun l => ⟨(f i l).putAll (Room.itemsFor i ds), []⟩ := by
  induction ds generalizing o f with
  | nil => exact posts i
  | cons d ds ih =>
    show ((o.step (.write d.inbox)).run (writes ds)).posts[i]? = _
    have first : ∀ j : Inbox, (o.step (.write d.inbox)).posts[j]? = s.links[j]?.map fun l =>
        ⟨if d.inbox = j then (f j l).put d.item else f j l, Room.itemsFor j ds⟩ := by
      intro j
      rw [getElem?_write, posts, Option.map_map]
      congr 1
      funext l
      by_cases own : d.inbox = j
      · subst own
        rw [Function.comp_apply, if_pos rfl, if_pos rfl, Room.itemsFor_cons_self]
        rfl
      · rw [Function.comp_apply, if_neg own, if_neg own, Room.itemsFor_cons_of_ne own]
    rw [ih first]
    congr 1
    funext l
    by_cases own : d.inbox = i
    · subst own
      rw [if_pos rfl, Room.itemsFor_cons_self]
      rfl
    · rw [if_neg own, Room.itemsFor_cons_of_ne own]

/-- An office in which nothing waits but what a server has sent is that server once every writer has
taken what has been put into its inbox. -/
lemma run_writes {f : Inbox → Link → Link} (desk : o.desk = ⟨s'.room, []⟩)
    (posts : ∀ i : Inbox, o.posts[i]? = s.links[i]?.map fun l => ⟨f i l, Room.itemsFor i ds⟩)
    (links : ∀ i : Inbox, s'.links[i]? =
      s.links[i]?.map fun l => (f i l).putAll (Room.itemsFor i ds))
    (rest : o.next = s'.next ∧ o.idle = s'.idle ∧ o.isListening = s'.isListening) :
    o.run (writes ds) = ofServer s' := by
  obtain ⟨desk', next, idle, listening⟩ := o.rest_writes ds
  apply eq_ofServer (desk'.trans desk) _ (next.trans rest.1) (idle.trans rest.2.1)
    (listening.trans rest.2.2)
  intro i
  rw [posts_writes posts, links, Option.map_map]
  rfl

/-- A post of a prompt office is a link with nothing left to write. -/
lemma getElem?_ofServer (s : Server) (i : Inbox) :
    (ofServer s).posts[i]? = s.links[i]?.map fun l => ⟨l, []⟩ :=
  List.getElem?_map ..

@[simp] lemma desk_ofServer (s : Server) : (ofServer s).desk = ⟨s.room, []⟩ := rfl

@[simp] lemma desk_atDesk (o : Office) (d : DeskEvent) : (o.atDesk d).desk = (o.desk.step d).1 :=
  rfl

@[simp] lemma desk_modifyLink (o : Office) (inbox : Inbox) (f : Link → Link) :
    (o.modifyLink inbox f).desk = o.desk := rfl

/-- What comes of a command that the room takes as soon as it is called. -/
lemma call_take (s : Server) (cmd : Command) :
    (((ofServer s).atDesk (.call cmd)).atDesk .take).desk = ⟨(s.room.step cmd).1, []⟩ ∧
    ∀ i : Inbox, (((ofServer s).atDesk (.call cmd)).atDesk .take).posts[i]? =
      s.links[i]?.map fun l =>
        (⟨l, []⟩ : Post).served i (s.room.answers [cmd]) (s.room.step cmd).2.2 := by
  simp only [desk_ofServer, desk_atDesk, getElem?_atDesk, getElem?_ofServer, Option.map_map]
  obtain ⟨call, take, same⟩ | ⟨call, take⟩ := Desk.call_take s.room cmd
  · rw [call]
    dsimp only
    rw [take, same]
    refine ⟨rfl, fun i => ?_⟩
    congr 1
    funext l
    exact Post.served_nil _ _
  · rw [call]
    dsimp only
    rw [take]
    refine ⟨rfl, fun i => ?_⟩
    congr 1

/-- The same, if nobody waits for an answer and the handler that calls goes on in between. -/
lemma call_modify_take (s : Server) {cmd : Command} (nobody : s.room.answers [cmd] = [])
    (inbox : Inbox) (f : Link → Link) :
    ((((ofServer s).atDesk (.call cmd)).modifyLink inbox f).atDesk .take).desk =
        ⟨(s.room.step cmd).1, []⟩ ∧
    ∀ i : Inbox, ((((ofServer s).atDesk (.call cmd)).modifyLink inbox f).atDesk .take).posts[i]? =
      s.links[i]?.map fun l =>
        ⟨if inbox = i then f l else l, Room.itemsFor i (s.room.step cmd).2.2⟩ := by
  simp only [desk_ofServer, desk_atDesk, desk_modifyLink, getElem?_atDesk, getElem?_modifyLink,
    getElem?_ofServer, Option.map_map]
  obtain ⟨call, take, same⟩ | ⟨call, take⟩ := Desk.call_take s.room cmd
  · rw [call, nobody]
    dsimp only
    rw [take, same]
    refine ⟨rfl, fun i => ?_⟩
    congr 1
    funext l
    by_cases own : inbox = i <;> simp [own, Post.served]
  · rw [call]
    dsimp only
    rw [take, nobody]
    refine ⟨rfl, fun i => ?_⟩
    congr 1
    funext l
    by_cases own : inbox = i <;> simp [own, Post.served]

/-- A change of a link is the same in both. -/
lemma modifyLink_ofServer (s : Server) (inbox : Inbox) (f : Link → Link) :
    (ofServer s).modifyLink inbox f = ofServer (s.modifyLink inbox f) := by
  apply eq_ofServer rfl _ rfl rfl rfl
  intro i
  rw [getElem?_modifyLink, getElem?_ofServer, Server.getElem?_modifyLink, Option.map_map,
    Option.map_map]
  congr 1
  funext l
  by_cases own : inbox = i <;> simp [own]

/-- A room that nothing waits for takes nothing. -/
lemma take_ofServer (s : Server) : (ofServer s).step .take = ofServer s := by
  apply eq_ofServer rfl _ rfl rfl rfl
  intro i
  show ((ofServer s).atDesk .take).posts[i]? = _
  rw [getElem?_atDesk, getElem?_ofServer, Option.map_map]
  congr 1

/-- An event by which the room is told nothing. -/
lemma run_promptly_of_none (none : s.command? e = none)
    (same : (ofServer s).step (.happens e) = ofServer (s.step e)) :
    (ofServer s).run (promptly s e) = ofServer (s.step e) := by
  have nothing : s.deliveries e = [] := by rw [Server.deliveries, none]
  rw [promptly, nothing]
  show ((ofServer s).step (.happens e)).step .take = _
  rw [same, take_ofServer]

/-- An event by which the room is told something. -/
lemma run_promptly_of_some {cmd : Command} {f : Inbox → Link → Link}
    (told : s.command? e = some cmd)
    (desk : (((ofServer s).step (.happens e)).step .take).desk = ⟨(s.room.step cmd).1, []⟩)
    (posts : ∀ i : Inbox, (((ofServer s).step (.happens e)).step .take).posts[i]? =
      s.links[i]?.map fun l => ⟨f i l, Room.itemsFor i (s.room.step cmd).2.2⟩)
    (links : ∀ i : Inbox, (s.step e).links[i]? =
      s.links[i]?.map fun l => (f i l).putAll (Room.itemsFor i (s.room.step cmd).2.2))
    (rest : ((ofServer s).step (.happens e)).next = (s.step e).next ∧
      ((ofServer s).step (.happens e)).idle = (s.step e).idle ∧
      ((ofServer s).step (.happens e)).isListening = (s.step e).isListening) :
    (ofServer s).run (promptly s e) = ofServer (s.step e) := by
  have ds : s.deliveries e = (s.room.step cmd).2.2 := by rw [Server.deliveries, told]
  rw [promptly, ds]
  refine run_writes ?_ posts links rest
  rw [desk, Server.room_step, told, Option.toList_some, Room.run_cons]
  rfl

variable {i : Inbox} {l : Link} {cmd : Command}

/-- The turn of a handler that has something to tell. -/
lemma turn_of_some (h : s.links[i]? = some l) (told : l.handler.command? = some cmd) :
    (∀ j : Inbox, (s.step (.turn i)).links[j]? = s.links[j]?.map fun k =>
      (if i = j then { k with handler := k.handler.resume (s.room.step cmd).2.1 } else k).putAll
        (Room.itemsFor j (s.room.step cmd).2.2)) ∧
    s.next = (s.step (.turn i)).next ∧ s.idle = (s.step (.turn i)).idle ∧
      s.isListening = (s.step (.turn i)).isListening := by
  constructor
  · intro j
    show (s.turn i).links[j]? = _
    rw [Server.getElem?_turn_of_some h told]
    congr 1
    funext k
    by_cases same : i = j
    · rw [if_pos same, if_pos same]
      exact (Link.putAll_resume k _ _).symm
    · rw [if_neg same, if_neg same]
  · show s.next = (s.turn i).next ∧ s.idle = (s.turn i).idle ∧
      s.isListening = (s.turn i).isListening
    unfold Server.turn
    simp only [h, told]
    exact ⟨rfl, rfl, rfl⟩

/-- A handler that asks for a seat is answered as soon as the room takes its request. -/
lemma run_ask (own : ∀ (j : Inbox) (k : Link), s.links[j]? = some k → k.handler.inbox = j)
    (h : s.links[i]? = some l) (told : l.handler.command? = some cmd)
    (awaited : cmd.isAwaited = true) :
    (ofServer s).run (promptly s (.turn i)) = ofServer (s.step (.turn i)) := by
  have calls : (ofServer s).step (.happens (.turn i)) = (ofServer s).atDesk (.call cmd) := by
    show (ofServer s).turn i = _
    rw [turn, getElem?_ofServer, h, Option.map_some]
    simp [told, awaited, ofServer]
  obtain ⟨desk, posts⟩ := call_take s cmd
  have one : s.room.answers [cmd] = [⟨cmd, (s.room.step cmd).2.1⟩] := by
    rw [Room.answers, Room.answers, Desk.answer, if_pos awaited]
    rfl
  have tells : s.command? (.turn i) = some cmd := by
    rw [Server.command?, h]
    exact told
  -- nobody else has called the request
  have served (j : Inbox) (k : Link) (hk : s.links[j]? = some k) :
      (⟨k, []⟩ : Post).served j (s.room.answers [cmd]) (s.room.step cmd).2.2 =
        ⟨if i = j then { k with handler := k.handler.resume (s.room.step cmd).2.1 } else k,
          Room.itemsFor j (s.room.step cmd).2.2⟩ := by
    by_cases same : i = j
    · subst same
      obtain rfl := Option.some.inj (h.symm.trans hk)
      simp [Post.served, Post.answered, Post.answer?, one, told]
    · have other : k.handler.command? ≠ some cmd := by
        intro tells
        have seating := (Handler.isAwaited_iff told).1 awaited
        have seating' := (Handler.isAwaited_iff tells).1 awaited
        rw [Handler.command?, seating] at told
        rw [Handler.command?, seating', ← told] at tells
        obtain ⟨_, inbox⟩ := Command.connect.inj (Option.some.inj tells)
        rw [own j k hk, own i l h] at inbox
        exact same inbox.symm
      simp [Post.served, Post.answered, Post.answer?, one, other, same]
  refine run_promptly_of_some (f := fun j k => if i = j then
    { k with handler := k.handler.resume (s.room.step cmd).2.1 } else k) tells ?_ ?_ ?_ ?_
  · rw [calls]
    exact desk
  · intro j
    rw [calls]
    refine (posts j).trans ?_
    cases hk : s.links[j]? with
    | none => rfl
    | some k => exact congrArg some (served j k hk)
  · exact (turn_of_some h told).1
  · rw [calls]
    exact (turn_of_some h told).2

/-- What the room replies to a handler that does not wait is what the handler is told at once. -/
lemma receipt_eq (told : l.handler.command? = some cmd) (free : cmd.isAwaited = false) :
    (ofServer s).receipt = (s.room.step cmd).2.1 := by
  cases Handler.tells_of_command? told with
  | asks _ => cases free
  | passesOn _ => exact (s.room.reply_frame _ _).symm
  | reports _ => exact (s.room.reply_disconnect _).symm

/-- A handler that does not wait goes on before the room takes what it has called. -/
lemma run_tell (h : s.links[i]? = some l) (told : l.handler.command? = some cmd)
    (free : cmd.isAwaited = false) :
    (ofServer s).run (promptly s (.turn i)) = ofServer (s.step (.turn i)) := by
  have calls : (ofServer s).step (.happens (.turn i)) =
      ((ofServer s).atDesk (.call cmd)).modifyLink i fun k =>
        { k with handler := k.handler.resume (s.room.step cmd).2.1 } := by
    show (ofServer s).turn i = _
    rw [turn, getElem?_ofServer, h, Option.map_some]
    simp [told, free, receipt_eq told free]
  have nobody : s.room.answers [cmd] = [] := by
    rw [Room.answers, Room.answers, Desk.answer, free]
    rfl
  obtain ⟨desk, posts⟩ := call_modify_take s nobody i fun k =>
    { k with handler := k.handler.resume (s.room.step cmd).2.1 }
  have tells : s.command? (.turn i) = some cmd := by
    rw [Server.command?, h]
    exact told
  refine run_promptly_of_some tells (by rw [calls]; exact desk) (by rw [calls]; exact posts) ?_ ?_
  · exact (turn_of_some h told).1
  · rw [calls]
    exact (turn_of_some h told).2

/-- A shutdown, whatever else the event does. -/
lemma run_shutdown (told : s.command? e = some .shutdown)
    (desk : (((ofServer s).step (.happens e)).step .take).desk =
      (((ofServer s).atDesk (.call .shutdown)).atDesk .take).desk)
    (posts : (((ofServer s).step (.happens e)).step .take).posts =
      (((ofServer s).atDesk (.call .shutdown)).atDesk .take).posts)
    (links : (s.step e).links = (s.tell .shutdown).1.links)
    (rest : ((ofServer s).step (.happens e)).next = (s.step e).next ∧
      ((ofServer s).step (.happens e)).idle = (s.step e).idle ∧
      ((ofServer s).step (.happens e)).isListening = (s.step e).isListening) :
    (ofServer s).run (promptly s e) = ofServer (s.step e) := by
  obtain ⟨desk', posts'⟩ := call_take s .shutdown
  refine run_promptly_of_some (f := fun _ l => l) told (desk.trans desk') ?_ ?_ rest
  · rw [posts]
    exact posts'
  · intro i
    rw [links]
    exact Server.getElem?_tell s .shutdown i

/-- An office that sees to an event of a server at once is the server after the event. -/
lemma run_promptly (own : ∀ (j : Inbox) (k : Link), s.links[j]? = some k → k.handler.inbox = j)
    (e : ServerEvent) : (ofServer s).run (promptly s e) = ofServer (s.step e) := by
  cases e with
  | arrive =>
    apply run_promptly_of_none rfl
    show (ofServer s).arrive = ofServer s.arrive
    have listening : (ofServer s).isListening = s.isListening := rfl
    unfold arrive Server.arrive
    rw [listening]
    split
    · simp [ofServer]
    · rfl
  | stray => exact run_promptly_of_none rfl rfl
  | signal inbox sig =>
    apply run_promptly_of_none rfl
    exact modifyLink_ofServer s inbox fun l => { l with socket := l.socket.signal sig }
  | expire inbox =>
    apply run_promptly_of_none rfl
    show (ofServer s).expire inbox = ofServer (s.expire inbox)
    have idle : (ofServer s).idle = s.idle := rfl
    unfold expire Server.expire
    rw [idle]
    split
    · exact modifyLink_ofServer ..
    · rfl
  | turn i =>
    cases h : s.links[i]? with
    | none =>
      apply run_promptly_of_none
      · rw [Server.command?, h]
        rfl
      · show (ofServer s).turn i = ofServer (s.turn i)
        rw [turn, Server.turn, getElem?_ofServer, h]
        rfl
    | some l =>
      cases told : l.handler.command? with
      | none =>
        apply run_promptly_of_none
        · rw [Server.command?, h]
          exact told
        · show (ofServer s).turn i = ofServer (s.turn i)
          rw [turn, Server.turn, getElem?_ofServer, h]
          simp only [Option.map_some, told]
          exact modifyLink_ofServer ..
      | some cmd =>
        cases awaited : cmd.isAwaited with
        | true => exact run_ask own h told awaited
        | false => exact run_tell h told awaited
  | shutDown => exact run_shutdown rfl rfl rfl rfl ⟨rfl, rfl, rfl⟩
  | stop => exact run_shutdown rfl rfl rfl rfl ⟨rfl, rfl, rfl⟩

lemma prompt_concat (s : Server) (es : List ServerEvent) (e : ServerEvent) :
    prompt s (es ++ [e]) = prompt s es ++ promptly (s.run es) e := by
  induction es generalizing s with
  | nil => exact List.append_nil _
  | cons e' es ih =>
    rw [List.cons_append, prompt, prompt, ih, List.append_assoc]
    rfl

/-- An office that sees to everything at once goes through the states of a server, so whatever can
happen at a server can happen at an office. -/
theorem run_prompt (idle : Option Span) (es : List ServerEvent) :
    (initial idle).run (prompt (.initial idle) es) = ofServer ((Server.initial idle).run es) := by
  induction es using List.reverseRecOn with
  | nil => rfl
  | append_singleton es e ih =>
    rw [prompt_concat, Server.run_concat, run, List.foldl_append]
    show (((initial idle).run _).run _) = _
    rw [ih]
    exact run_promptly (fun _ _ hk => Server.inbox_eq hk) e

end Office

end ParityDuel
