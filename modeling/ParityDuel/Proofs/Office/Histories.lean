import ParityDuel.Proofs.Office.Inversion

/-!
# What handlers call at an office

The room of an office is an empty one that has been told the commands that have left the desk
(`room_run`). A handler calls what it has to tell once, and goes on when it has been told what
becomes of it: `pending_step` says for one event that what a handler waits for and what it calls is
what it is done with and what it waits for then, and `filter_calls` says the same of a run. All that
is known of the handlers of a server is known of those of an office (`history_run`).
-/

namespace ParityDuel

namespace Handler

/-- A handler waits for an answer only when it asks for a seat. -/
lemma isAwaited_iff {h : Handler} {cmd : Command} (told : h.command? = some cmd) :
    cmd.isAwaited = true ↔ h.progress = .seating := by
  cases tells_of_command? told with
  | asks progress => simp [progress, Command.isAwaited]
  | passesOn progress => simp [progress, Command.isAwaited]
  | reports progress => simp [progress, Command.isAwaited]

end Handler

namespace Link

variable {l l' : Link} {sig : Option Signal} {hearing : Option Hearing}
  {exchange : Option (Command × Reply)}

/-- A handler that has asked for a seat, or has been told something, does not ask any more. -/
lemma Moves.ne_seating (mv : l.Moves l' sig hearing exchange)
    (asked : l.handler.progress ≠ .seating ∨ exchange.isSome = true) :
    l'.handler.progress ≠ .seating := by
  cases mv with
  | writes is =>
    rw [putAll_handler]
    exact asked.resolve_right nofun
  | signalled sig => exact asked.resolve_right nofun
  | gaveUp _ => exact nofun
  | spoke is told _ => exact Handler.ne_seating_of_resume told _
  | @heard r _ _ _ => cases r <;> exact nofun

/-- A handler that asks for a seat and is not told anything stays as it is. -/
lemma Moves.handler_of_seating (mv : l.Moves l' sig hearing exchange)
    (seating : l.handler.progress = .seating) (none : exchange = none) :
    l'.handler = l.handler := by
  cases mv with
  | writes is => exact putAll_handler l is
  | signalled sig => rfl
  | gaveUp silent =>
    rw [(isSilent_iff.1 silent).1] at seating
    cases seating
  | spoke is _ _ => cases none
  | heard reading _ =>
    rw [reading] at seating
    cases seating

end Link

namespace Desk

/-- What comes of events one behind the other comes of the first ones and then of the others. -/
lemma run_append (d : Desk) (es es' : List DeskEvent) :
    (d.run (es ++ es')).1 = ((d.run es).1.run es').1 ∧
    (d.run (es ++ es')).2.1 = (d.run es).2.1 ++ ((d.run es).1.run es').2.1 ∧
    (d.run (es ++ es')).2.2 = (d.run es).2.2 ++ ((d.run es).1.run es').2.2 := by
  induction es generalizing d with
  | nil => exact ⟨rfl, rfl, rfl⟩
  | cons e es ih =>
    obtain ⟨desk, answers, deliveries⟩ := ih (d.step e).1
    refine ⟨desk, ?_, ?_⟩
    · show _ ++ ((d.step e).1.run (es ++ es')).2.1 = _
      rw [answers, ← List.append_assoc]
      rfl
    · show _ ++ ((d.step e).1.run (es ++ es')).2.2 = _
      rw [deliveries, ← List.append_assoc]
      rfl

end Desk

namespace Office

variable {o : Office} {i : Inbox} {e : OfficeEvent} {es : List OfficeEvent} {p p' : Post}
  {cmd : Command} {idle : Option Span}

lemma run_concat (o : Office) (es : List OfficeEvent) (e : OfficeEvent) :
    o.run (es ++ [e]) = (o.run es).step e :=
  List.foldl_concat ..

/-- What is called by an event. -/
def called (o : Office) (e : OfficeEvent) : List Command := calledBy (o.deskEvent? e).toList

/-- What happens at the desk by events. -/
def deskEvents (o : Office) (es : List OfficeEvent) : List DeskEvent := collect step deskEvent? o es

/-- What is called by events. -/
def calls (o : Office) (es : List OfficeEvent) : List Command := calledBy (o.deskEvents es)

/-- The answers that are given by events. -/
def answered (o : Office) (es : List OfficeEvent) : List Answer :=
  (o.desk.run (o.deskEvents es)).2.1

/-- What the room puts into inboxes by events. -/
def delivered (o : Office) (es : List OfficeEvent) : List Delivery :=
  (o.desk.run (o.deskEvents es)).2.2

/-- What a client does by events. -/
def signals (o : Office) (i : Inbox) (es : List OfficeEvent) : List Signal :=
  collect step (signal? · i) o es

/-- What comes of waiting for a client by events. -/
def hearings (o : Office) (i : Inbox) (es : List OfficeEvent) : List Hearing :=
  collect step (hearing? · i) o es

/-- What a handler is done with telling by events, and what it has been told. -/
def exchanges (o : Office) (i : Inbox) (es : List OfficeEvent) : List (Command × Reply) :=
  collect step (exchange? · i) o es

/-- What a writer takes by events. -/
def written (o : Office) (i : Inbox) (es : List OfficeEvent) : List Item :=
  collect step (written? · i) o es

/-- What comes of an event at the desk, as that of a run. -/
lemma answers_deliveries_eq (o : Office) (e : OfficeEvent) :
    o.answers e = (o.desk.run (o.deskEvent? e).toList).2.1 ∧
      o.deliveries e = (o.desk.run (o.deskEvent? e).toList).2.2 := by
  rw [answers, deliveries]
  cases o.deskEvent? e with
  | none => exact ⟨rfl, rfl⟩
  | some d => exact ⟨(List.append_nil _).symm, (List.append_nil _).symm⟩

lemma deskEvents_concat (o : Office) (es : List OfficeEvent) (e : OfficeEvent) :
    o.deskEvents (es ++ [e]) = o.deskEvents es ++ ((o.run es).deskEvent? e).toList :=
  collect_concat step deskEvent? o es e

/-- The desk changes by what happens at it. -/
lemma desk_run (o : Office) (es : List OfficeEvent) :
    (o.run es).desk = (o.desk.run (o.deskEvents es)).1 := by
  induction es using List.reverseRecOn with
  | nil => rfl
  | append_singleton es e ih =>
    rw [run_concat, desk_step, ih, deskEvents_concat, (Desk.run_append ..).1]

lemma calls_concat (o : Office) (es : List OfficeEvent) (e : OfficeEvent) :
    o.calls (es ++ [e]) = o.calls es ++ (o.run es).called e := by
  rw [calls, deskEvents_concat, calledBy, List.filterMap_append]
  rfl

lemma answered_concat (o : Office) (es : List OfficeEvent) (e : OfficeEvent) :
    o.answered (es ++ [e]) = o.answered es ++ (o.run es).answers e := by
  rw [(answers_deliveries_eq ..).1, answered, deskEvents_concat, (Desk.run_append ..).2.1, desk_run]
  rfl

lemma delivered_concat (o : Office) (es : List OfficeEvent) (e : OfficeEvent) :
    o.delivered (es ++ [e]) = o.delivered es ++ (o.run es).deliveries e := by
  rw [(answers_deliveries_eq ..).2, delivered, deskEvents_concat, (Desk.run_append ..).2.2,
    desk_run]
  rfl

lemma signals_concat (o : Office) (i : Inbox) (es : List OfficeEvent) (e : OfficeEvent) :
    o.signals i (es ++ [e]) = o.signals i es ++ ((o.run es).signal? i e).toList :=
  collect_concat step (signal? · i) o es e

lemma hearings_concat (o : Office) (i : Inbox) (es : List OfficeEvent) (e : OfficeEvent) :
    o.hearings i (es ++ [e]) = o.hearings i es ++ ((o.run es).hearing? i e).toList :=
  collect_concat step (hearing? · i) o es e

lemma exchanges_concat (o : Office) (i : Inbox) (es : List OfficeEvent) (e : OfficeEvent) :
    o.exchanges i (es ++ [e]) = o.exchanges i es ++ ((o.run es).exchange? i e).toList :=
  collect_concat step (exchange? · i) o es e

lemma written_concat (o : Office) (i : Inbox) (es : List OfficeEvent) (e : OfficeEvent) :
    o.written i (es ++ [e]) = o.written i es ++ ((o.run es).written? i e).toList :=
  collect_concat step (written? · i) o es e

/-- What an event does at the desk is what the room does on the commands that leave the desk. -/
lemma desk_step_eq (od : o.desk.IsOrderly) (e : OfficeEvent) :
    (o.step e).desk.IsOrderly ∧
    ∃ cs, o.desk.waiting ++ o.called e = cs ++ (o.step e).desk.waiting ∧
      o.desk.room.run cs = ((o.step e).desk.room, o.deliveries e) ∧
      o.answers e = o.desk.room.answers cs := by
  obtain ⟨answers, deliveries⟩ := o.answers_deliveries_eq e
  rw [desk_step, answers, deliveries]
  exact Desk.run_eq od _

/-- The room of an office is an empty one that has been told what has left the desk, and this is
what has been called but for what still waits. Nothing waits before a closed room. -/
lemma room_run (idle : Option Span) (es : List OfficeEvent) :
    ((initial idle).run es).desk.IsOrderly ∧
    ∃ cs, (initial idle).calls es = cs ++ ((initial idle).run es).desk.waiting ∧
      Room.initial.run cs = (((initial idle).run es).desk.room, (initial idle).delivered es) ∧
      (initial idle).answered es = Room.initial.answers cs := by
  rw [desk_run]
  exact Desk.run_eq (d := .initial) nofun _

/-- Inversion for `called`. -/
lemma called_inv (hm : cmd ∈ o.called e) :
    o.called e = [cmd] ∧ (cmd = .shutdown ∨
      ∃ i p, e = .happens (.turn i) ∧ o.posts[i]? = some p ∧ p.link.handler.command? = some cmd ∧
        ¬ (cmd.isAwaited = true ∧ cmd ∈ o.desk.waiting)) := by
  cases e with
  | happens e =>
    cases e with
    | turn i =>
      have ev : o.called (.happens (.turn i)) = calledBy ((o.call? i).map DeskEvent.call).toList :=
        rfl
      cases call : o.call? i with
      | none =>
        rw [ev, call] at hm
        cases hm
      | some cmd' =>
        rw [call] at ev
        rw [ev] at hm
        obtain rfl := List.mem_singleton.1 hm
        obtain ⟨told, fresh⟩ := Option.filter_eq_some_iff.1 call
        obtain ⟨p, h, told⟩ := Option.bind_eq_some_iff.1 told
        exact ⟨ev, .inr ⟨i, p, rfl, h, told, by simpa [Decidable.imp_iff_not_or] using fresh⟩⟩
    | shutDown =>
      obtain rfl := List.mem_singleton.1 hm
      exact ⟨rfl, .inl rfl⟩
    | stop =>
      obtain rfl := List.mem_singleton.1 hm
      exact ⟨rfl, .inl rfl⟩
    | arrive => cases hm
    | stray => cases hm
    | signal inbox sig => cases hm
    | expire inbox => cases hm
  | take => cases hm
  | write inbox => cases hm

/-- The handler of a post calls what is called about its connection by an event. -/
def IsOwn (o : Office) (i : Inbox) (p : Post) (e : OfficeEvent) : Prop :=
  ∀ cmd ∈ o.called e, cmd.sender? = some p.link.handler.conn → e = .happens (.turn i)

/-- What a handler has called and waits for. -/
def pending (o : Office) (p : Post) : List Command :=
  (p.link.handler.command?.filter fun cmd =>
    cmd.isAwaited && decide (cmd ∈ o.desk.waiting)).toList

/-- A handler that has been answered waits for nothing. -/
lemma pending_of_busy (o : Office) (busy : p.link.handler.progress ≠ .seating) :
    o.pending p = [] := by
  unfold pending
  cases told : p.link.handler.command? with
  | none => rfl
  | some cmd =>
    have free : ¬ cmd.isAwaited = true := fun awaited =>
      busy ((Handler.isAwaited_iff told).1 awaited)
    simp [Option.filter, free]

/-- A handler that asks for a seat waits for it from the moment it has asked. -/
lemma pending_of_seating (o : Office) (told : p.link.handler.command? = some cmd)
    (seating : p.link.handler.progress = .seating) :
    o.pending p = if cmd ∈ o.desk.waiting then [cmd] else [] := by
  have awaited := (Handler.isAwaited_iff told).2 seating
  by_cases waits : cmd ∈ o.desk.waiting <;> simp [pending, told, Option.filter, awaited, waits]

/-- Whoever is given an answer waits for one. -/
lemma isAwaited_of_answers (od : o.desk.IsOrderly) {a : Answer} (hm : a ∈ o.answers e) :
    a.command.isAwaited = true := by
  obtain ⟨_, cs, _, _, answers⟩ := desk_step_eq od e
  rw [answers] at hm
  exact (Room.mem_answers_inv hm).2

/-- What a handler that asks for a seat waits for and calls is its request, if it has called it. -/
lemma pending_append_called (h : o.posts[i]? = some p) (own : o.IsOwn i p e)
    (told : p.link.handler.command? = some cmd) (seating : p.link.handler.progress = .seating) :
    o.pending p ++ (o.called e).filter (·.sender? = some p.link.handler.conn) =
      if cmd ∈ o.desk.waiting ++ o.called e then [cmd] else [] := by
  have awaited := (Handler.isAwaited_iff told).2 seating
  -- whatever is called about the connection is the request, and does not wait yet
  have calls : ∀ c ∈ o.called e, c.sender? = some p.link.handler.conn →
      c = cmd ∧ o.called e = [cmd] ∧ cmd ∉ o.desk.waiting := by
    intro c hm sender
    have turn := own c hm sender
    obtain ⟨alone, rfl | ⟨j, k, same, hk, tells, fresh⟩⟩ := called_inv hm
    · cases sender
    · rw [turn] at same
      obtain rfl := ServerEvent.turn.inj (OfficeEvent.happens.inj same)
      obtain rfl := Option.some.inj (h.symm.trans hk)
      obtain rfl := Option.some.inj (told.symm.trans tells)
      exact ⟨rfl, alone, fun waits => fresh ⟨awaited, waits⟩⟩
  rw [pending_of_seating o told seating]
  by_cases called : cmd ∈ o.called e
  · obtain ⟨_, alone, fresh⟩ := calls cmd called (Handler.sender?_of_command? told)
    simp [alone, fresh, Handler.sender?_of_command? told]
  · have nothing : (o.called e).filter (·.sender? = some p.link.handler.conn) = [] := by
      apply List.filter_eq_nil_iff.2
      intro c hm sender
      obtain ⟨rfl, _⟩ := calls c hm (of_decide_eq_true sender)
      exact called hm
    rw [nothing, List.append_nil]
    simp [called]

/-- What becomes of the request of a handler: it still waits, or the handler is answered. -/
lemma exchange_of_seating (od : o.desk.IsOrderly) (h : o.posts[i]? = some p)
    (h' : (o.step e).posts[i]? = some p') (told : p.link.handler.command? = some cmd)
    (seating : p.link.handler.progress = .seating) :
    (o.exchange? i e).toList.map Prod.fst ++ (o.step e).pending p' =
      if cmd ∈ o.desk.waiting ++ o.called e then [cmd] else [] := by
  have awaited := (Handler.isAwaited_iff told).2 seating
  obtain ⟨_, cs, left, _, answers⟩ := desk_step_eq od e
  have exchange : o.exchange? i e =
      (p.answer? (o.answers e)).map fun a => (a.command, a.reply) := by
    rw [exchange?, h, Option.bind_some]
    cases p.answer? (o.answers e) with
    | none => simp [told, Option.filter, awaited]
    | some a => rfl
  have mv : ∃ sig hearing, p.link.Moves p'.link sig hearing (o.exchange? i e) := by
    obtain ⟨k, hk, st⟩ | ⟨none, _⟩ := posts_step_inv h'
    · obtain rfl := Option.some.inj (h.symm.trans hk)
      exact ⟨_, _, st.moves⟩
    · rw [none] at h
      cases h
  obtain ⟨_, _, mv⟩ := mv
  have taken := Room.map_command_answers o.desk.room cs
  rw [← answers] at taken
  rw [left]
  cases ha : p.answer? (o.answers e) with
  | some a =>
    obtain ⟨given, same⟩ := Post.answer?_inv ha
    obtain rfl := Option.some.inj (told.symm.trans same)
    have gone := List.mem_map_of_mem (f := Answer.command) given
    rw [taken] at gone
    rw [ha] at exchange
    rw [exchange, pending_of_busy _ (mv.ne_seating (.inr (by rw [exchange]; rfl)))]
    simp [(List.mem_filter.1 gone).1]
  | none =>
    rw [ha] at exchange
    have still := mv.handler_of_seating seating exchange
    have kept : cmd ∉ cs := by
      intro gone
      have there : cmd ∈ (o.answers e).map Answer.command := by
        rw [taken]
        exact List.mem_filter.2 ⟨gone, awaited⟩
      obtain ⟨a, given, rfl⟩ := List.mem_map.1 there
      exact List.find?_eq_none.1 ha a given (by simpa using told)
    rw [exchange, pending_of_seating _ (by rw [still, told]) (by rw [still, seating])]
    simp [kept]

/-- A handler that does not ask for a seat is told at once what becomes of what it calls. -/
lemma exchange_of_busy (od : o.desk.IsOrderly) (h : o.posts[i]? = some p) (own : o.IsOwn i p e)
    (busy : p.link.handler.progress ≠ .seating) :
    (o.exchange? i e).toList.map Prod.fst =
      (o.called e).filter (·.sender? = some p.link.handler.conn) := by
  have nobody : p.answer? (o.answers e) = none := by
    cases ha : p.answer? (o.answers e) with
    | none => rfl
    | some a =>
      obtain ⟨given, told⟩ := Post.answer?_inv ha
      exact absurd ((Handler.isAwaited_iff told).1 (isAwaited_of_answers od given)) busy
  rw [exchange?, h, Option.bind_some, nobody]
  dsimp only
  by_cases turn : e = .happens (.turn i)
  · subst turn
    have called : o.called (.happens (.turn i)) = (o.call? i).toList := by
      show calledBy ((o.call? i).map DeskEvent.call).toList = _
      cases o.call? i <;> rfl
    rw [if_pos rfl, called, call?, h, Option.bind_some]
    cases told : p.link.handler.command? with
    | none => rfl
    | some cmd =>
      have free : ¬ cmd.isAwaited = true := fun awaited =>
        busy ((Handler.isAwaited_iff told).1 awaited)
      simp [Option.filter, free, Handler.sender?_of_command? told]
  · rw [if_neg turn]
    apply Eq.symm
    apply List.filter_eq_nil_iff.2
    intro c hm sender
    exact turn (own c hm (of_decide_eq_true sender))

/-- What a handler waits for and what it calls is what it is done with and what it waits for
afterwards. -/
lemma pending_step (od : o.desk.IsOrderly) (h : o.posts[i]? = some p)
    (h' : (o.step e).posts[i]? = some p') (own : o.IsOwn i p e) :
    o.pending p ++ (o.called e).filter (·.sender? = some p.link.handler.conn) =
      (o.exchange? i e).toList.map Prod.fst ++ (o.step e).pending p' := by
  by_cases seating : p.link.handler.progress = .seating
  · have told : p.link.handler.command? =
        some (.connect p.link.handler.conn p.link.handler.inbox) := by
      rw [Handler.command?, seating]
    rw [pending_append_called h own told seating, exchange_of_seating od h h' told seating]
  · obtain ⟨k, hk, st⟩ | ⟨none, _⟩ := posts_step_inv h'
    · obtain rfl := Option.some.inj (h.symm.trans hk)
      rw [pending_of_busy _ seating, pending_of_busy _ (st.moves.ne_seating (.inl seating)),
        exchange_of_busy od h own seating, List.append_nil]
      rfl
    · rw [none] at h
      cases h

/-- The link of a post stands in front. -/
lemma front_of_post (h : o.posts[i]? = some p) : o.front.links[i]? = some p.link := by
  rw [front, List.getElem?_map, h]
  rfl

/-- Numbers are counted with the posts. -/
lemma next_step (o : Office) (e : OfficeEvent) :
    (o.step e).next = o.next ∧ (o.step e).posts.length = o.posts.length ∨
      (o.step e).next = o.next + 1 ∧ (o.step e).posts.length = o.posts.length + 1 := by
  have atDesk (d : DeskEvent) : (o.atDesk d).posts.length = o.posts.length :=
    List.length_mapIdx ..
  cases e with
  | happens e =>
    cases e with
    | arrive =>
      cases listening : o.isListening with
      | true => exact .inr (by simp [step, arrive, listening])
      | false => exact .inl (by simp [step, arrive, listening])
    | stray => exact .inl ⟨rfl, rfl⟩
    | signal inbox sig => exact .inl ⟨rfl, List.length_modify ..⟩
    | expire inbox =>
      refine .inl ?_
      show (o.expire inbox).next = _ ∧ (o.expire inbox).posts.length = _
      unfold expire
      split
      · exact ⟨rfl, List.length_modify ..⟩
      · exact ⟨rfl, rfl⟩
    | turn inbox =>
      have ts := o.turn_inv inbox
      refine .inl ?_
      show (o.turn inbox).next = _ ∧ (o.turn inbox).posts.length = _
      generalize o.turn inbox = o', o.call? inbox = call at ts
      cases ts with
      | absent _ => exact ⟨rfl, rfl⟩
      | reads _ _ => exact ⟨rfl, List.length_modify ..⟩
      | waits _ _ _ => exact ⟨rfl, rfl⟩
      | asks _ _ _ => exact ⟨rfl, atDesk _⟩
      | tells _ _ _ => exact ⟨rfl, (List.length_modify ..).trans (atDesk _)⟩
    | shutDown => exact .inl ⟨rfl, atDesk _⟩
    | stop => exact .inl ⟨rfl, atDesk (.call .shutdown)⟩
  | take => exact .inl ⟨rfl, atDesk _⟩
  | write inbox => exact .inl ⟨rfl, List.length_modify ..⟩

/-- The connections of an office have the numbers of their places. -/
lemma numbered_run (idle : Option Span) (es : List OfficeEvent) :
    ((initial idle).run es).front.Numbered := by
  induction es using List.reverseRecOn with
  | nil => exact ⟨rfl, fun i l h => by cases h⟩
  | append_singleton es e ih =>
    obtain ⟨next, conns⟩ := ih
    rw [run_concat]
    constructor
    · rw [front, List.length_map] at next ⊢
      obtain ⟨same, length⟩ | ⟨more, length⟩ := ((initial idle).run es).next_step e
      · exact same.trans (next.trans (by rw [length]))
      · rw [length, UInt64.ofNat_add, ← UInt64.add_assoc]
        exact more.trans (congrArg (· + 1) next)
    · intro i l' h'
      rw [front, List.getElem?_map] at h'
      obtain ⟨p', there, rfl⟩ := Option.map_eq_some_iff.1 h'
      obtain ⟨p, h, st⟩ | ⟨_, _, rfl, rfl⟩ := posts_step_inv there
      · rw [st.moves.same.1, conns i p.link (front_of_post h)]
      · rw [front, List.length_map] at next
        exact congrArg Conn.mk next

/-- Connections are numbered from one, in the order of their arrival. -/
lemma conn_eq (h : ((initial idle).run es).posts[i]? = some p) :
    p.link.handler.conn = ⟨1 + UInt64.ofNat i⟩ :=
  (numbered_run idle es).conns i p.link (front_of_post h)

/-- As long as numbers last, no two posts have the same connection. -/
lemma post_unique {j : Inbox} {q : Post} (few : ((initial idle).run es).posts.length < 2 ^ 64)
    (h : ((initial idle).run es).posts[i]? = some p)
    (hq : ((initial idle).run es).posts[j]? = some q)
    (same : q.link.handler.conn = p.link.handler.conn) : j = i :=
  (numbered_run idle es).link_unique (by rwa [front, List.length_map]) (front_of_post h)
    (front_of_post hq) same

/-- No post goes away. -/
lemma length_le_step (o : Office) (e : OfficeEvent) :
    o.posts.length ≤ (o.step e).posts.length := by
  obtain ⟨_, same⟩ | ⟨_, more⟩ := o.next_step e
  · exact Nat.le_of_eq same.symm
  · rw [more]
    exact Nat.le_succ _

/-- As long as numbers last, what is called about a connection is called by the handler of its post,
when its turn comes. -/
lemma turn_of_called (few : ((initial idle).run es).posts.length < 2 ^ 64) (inside : i < 2 ^ 64)
    (hm : cmd ∈ ((initial idle).run es).called e)
    (sender : cmd.sender? = some ⟨1 + UInt64.ofNat i⟩) :
    e = .happens (.turn i) ∧ (((initial idle).run es).posts[i]?).isSome = true := by
  obtain ⟨_, rfl | ⟨j, k, rfl, hk, told, _⟩⟩ := called_inv hm
  · cases sender
  · rw [Handler.sender?_of_command? told, conn_eq hk] at sender
    have there := Nat.lt_trans (List.getElem?_eq_some_iff.1 hk).1 few
    obtain rfl := Server.number_inj there inside (Option.some.inj sender)
    exact ⟨rfl, by rw [hk]; rfl⟩

/-- As long as numbers last, a handler calls what is called about its connection. -/
lemma isOwn (few : ((initial idle).run es).posts.length < 2 ^ 64)
    (h : ((initial idle).run es).posts[i]? = some p) (e : OfficeEvent) :
    ((initial idle).run es).IsOwn i p e := by
  intro cmd hm sender
  rw [conn_eq h] at sender
  exact (turn_of_called few (Nat.lt_trans (List.getElem?_eq_some_iff.1 h).1 few) hm sender).1

/-- Nothing is said of a post that does not come. -/
lemma collect_of_none (none : ((initial idle).run es).posts[i]? = none) :
    (initial idle).signals i es = [] ∧ (initial idle).hearings i es = [] ∧
      (initial idle).exchanges i es = [] ∧ (initial idle).written i es = [] := by
  induction es using List.reverseRecOn with
  | nil => exact ⟨rfl, rfl, rfl, rfl⟩
  | append_singleton es e ih =>
    rw [run_concat] at none
    have absent : ((initial idle).run es).posts[i]? = Option.none := by
      cases h : ((initial idle).run es).posts[i]? with
      | none => rfl
      | some p =>
        obtain ⟨_, _, _, _, _, after, _⟩ := step_goes h e
        rw [none] at after
        cases after
    obtain ⟨signals, hearings, exchanges, written⟩ := ih absent
    obtain ⟨wrote, signal, hearing, exchange⟩ := says_of_none absent e
    rw [signals_concat, hearings_concat, exchanges_concat, written_concat, signals, hearings,
      exchanges, written, wrote, signal, hearing, exchange]
    exact ⟨rfl, rfl, rfl, rfl⟩

/-- All that is known of the handlers of a server is known of those of an office. -/
lemma history_run (h : ((initial idle).run es).posts[i]? = some p) :
    Server.History i p.link ((initial idle).signals i es) ((initial idle).hearings i es)
      ((initial idle).exchanges i es) := by
  induction es using List.reverseRecOn generalizing p with
  | nil => cases h
  | append_singleton es e ih =>
    rw [run_concat] at h
    rw [signals_concat, hearings_concat, exchanges_concat]
    obtain ⟨k, hk, st⟩ | ⟨none, rfl, _, rfl⟩ := posts_step_inv h
    · exact (ih hk).move st.moves
    · obtain ⟨signals, hearings, exchanges, _⟩ := collect_of_none none
      obtain ⟨_, signal, hearing, exchange⟩ := says_of_none none (.happens .arrive)
      rw [signals, hearings, exchanges, signal, hearing, exchange]
      exact Server.history_fresh _ _

/-- A handler that has called its request is answered, or the request waits. -/
lemma asked_step (od : o.desk.IsOrderly) (h : o.posts[i]? = some p)
    (h' : (o.step e).posts[i]? = some p') (told : p.link.handler.command? = some cmd)
    (seating : p.link.handler.progress = .seating) (asked : cmd ∈ o.desk.waiting ++ o.called e) :
    p'.link.handler.progress ≠ .seating ∨ cmd ∈ (o.step e).desk.waiting := by
  have law := exchange_of_seating od h h' told seating
  rw [if_pos asked] at law
  obtain ⟨k, hk, st⟩ | ⟨none, _⟩ := posts_step_inv h'
  · obtain rfl := Option.some.inj (h.symm.trans hk)
    cases exchange : o.exchange? i e with
    | some x => exact .inl (st.moves.ne_seating (.inr (by rw [exchange]; rfl)))
    | none =>
      refine .inr ?_
      have still := st.moves.handler_of_seating seating exchange
      rw [exchange, pending_of_seating _ (by rw [still, told]) (by rw [still, seating])] at law
      by_cases waits : cmd ∈ (o.step e).desk.waiting
      · exact waits
      · simp [waits] at law
  · rw [none] at h
    cases h

/-- Whoever brings an inbox is the handler of its post, and has asked for a seat. -/
lemma asker_of_tells {c : Conn} {j : Inbox} (h : ((initial idle).run es).posts[j]? = some p)
    (told : p.link.handler.command? = some (.connect c i)) :
    j = i ∧ p.link.handler.conn = c ∧ p.link.handler.progress = .seating := by
  have own := (history_run h).inbox
  have seating := (Handler.isAwaited_iff told).1 rfl
  rw [Handler.command?, seating] at told
  obtain ⟨conn, inbox⟩ := Command.connect.inj (Option.some.inj told)
  exact ⟨own.symm.trans inbox, conn, seating⟩

/-- A seat has been asked for by the handler of the post whose inbox has been brought. This handler
does not ask any more, unless its request still waits. -/
lemma asker_of_mem {c : Conn} (hm : .connect c i ∈ (initial idle).calls es) :
    ∃ p, ((initial idle).run es).posts[i]? = some p ∧ p.link.handler.conn = c ∧
      (p.link.handler.progress ≠ .seating ∨
        .connect c i ∈ ((initial idle).run es).desk.waiting) := by
  induction es using List.reverseRecOn with
  | nil => cases hm
  | append_singleton es e ih =>
    rw [calls_concat] at hm
    rw [run_concat]
    have od := (room_run idle es).1
    have after {p : Post} (h : ((initial idle).run es).posts[i]? = some p)
        (conn : p.link.handler.conn = c)
        (asked : p.link.handler.progress ≠ .seating ∨
          .connect c i ∈ ((initial idle).run es).desk.waiting ++ ((initial idle).run es).called e) :
        ∃ p', (((initial idle).run es).step e).posts[i]? = some p' ∧ p'.link.handler.conn = c ∧
          (p'.link.handler.progress ≠ .seating ∨
            .connect c i ∈ (((initial idle).run es).step e).desk.waiting) := by
      obtain ⟨p', _, _, _, _, h', _, st⟩ := step_goes h e
      refine ⟨p', h', st.moves.same.1.trans conn, ?_⟩
      by_cases seating : p.link.handler.progress = .seating
      · have told : p.link.handler.command? = some (.connect c i) := by
          rw [Handler.command?, seating, conn, (history_run h).inbox]
        exact asked_step od h h' told seating (asked.resolve_left fun busy => busy seating)
      · exact .inl (st.moves.ne_seating (.inl seating))
    obtain old | new := List.mem_append.1 hm
    · obtain ⟨p, h, conn, asked⟩ := ih old
      exact after h conn (asked.imp_right (List.mem_append_left _))
    · obtain ⟨_, down | ⟨j, k, _, hk, told, _⟩⟩ := called_inv new
      · cases down
      · obtain ⟨rfl, conn, _⟩ := asker_of_tells hk told
        exact after hk conn (.inr (List.mem_append_right _ new))

/-- No inbox is brought twice, so that what is known of inboxes at a desk is known of those of an
office. -/
lemma nodup_inboxes (idle : Option Span) (es : List OfficeEvent) :
    (inboxesOf ((initial idle).calls es)).Nodup := by
  induction es using List.reverseRecOn with
  | nil => exact .nil
  | append_singleton es e ih =>
    rw [calls_concat, inboxesOf, List.filterMap_append]
    apply List.nodup_append.2
    refine ⟨ih, ?_, ?_⟩
    · cases called : ((initial idle).run es).called e with
      | nil => exact .nil
      | cons cmd rest =>
        rw [← called, (called_inv (called ▸ List.mem_cons_self)).1]
        cases brings : cmd.inbox? <;> simp [brings]
    · rintro inbox old _ new rfl
      obtain ⟨cmd, told, brings⟩ := List.mem_filterMap.1 new
      obtain ⟨cmd', told', brings'⟩ := List.mem_filterMap.1 old
      obtain ⟨c, rfl⟩ := Command.eq_connect_of_inbox? brings
      obtain ⟨d, rfl⟩ := Command.eq_connect_of_inbox? brings'
      obtain ⟨k, hk, conn, asked⟩ := asker_of_mem told'
      obtain ⟨_, down | ⟨j, p, _, h, tells, fresh⟩⟩ := called_inv told
      · cases down
      · obtain ⟨rfl, same, seating⟩ := asker_of_tells h tells
        obtain rfl := Option.some.inj (h.symm.trans hk)
        obtain busy | waits := asked
        · exact busy seating
        · rw [← conn, same] at waits
          exact fresh ⟨rfl, waits⟩

/-- As long as numbers last, what is called about the connection of a place is what the handler
there is done with, and then what it waits for. -/
lemma filter_calls (few : ((initial idle).run es).posts.length < 2 ^ 64) (inside : i < 2 ^ 64) :
    ((initial idle).calls es).filter (·.sender? = some ⟨1 + UInt64.ofNat i⟩) =
      ((initial idle).exchanges i es).map Prod.fst ++
        match ((initial idle).run es).posts[i]? with
        | none => []
        | some p => ((initial idle).run es).pending p := by
  induction es using List.reverseRecOn with
  | nil => rfl
  | append_singleton es e ih =>
    rw [run_concat] at few ⊢
    have fewer := Nat.lt_of_le_of_lt (length_le_step _ e) few
    have before := ih fewer
    rw [calls_concat, List.filter_append, before, exchanges_concat, List.map_append,
      List.append_assoc, List.append_assoc]
    congr 1
    cases h : ((initial idle).run es).posts[i]? with
    | some p =>
      obtain ⟨p', _, _, _, _, h', _⟩ := step_goes h e
      rw [h']
      dsimp only
      rw [← conn_eq h]
      exact pending_step (room_run idle es).1 h h' (isOwn fewer h e)
    | none =>
      have nothing : (((initial idle).run es).called e).filter
          (·.sender? = some ⟨1 + UInt64.ofNat i⟩) = [] := by
        apply List.filter_eq_nil_iff.2
        intro cmd hm sender
        have there := (turn_of_called fewer inside hm (of_decide_eq_true sender)).2
        rw [h] at there
        cases there
      have silent := (says_of_none h e).2.2.2
      rw [nothing, silent]
      obtain gone | ⟨rfl, rfl, come⟩ := getElem?_step_of_none (e := e) h
      · rw [gone]
        rfl
      · -- nobody has asked for a seat with the number of a client that has just come
        rw [come]
        dsimp only
        rw [pending_of_seating _ rfl rfl, if_neg]
        · rfl
        · intro waits
          rw [desk_step] at waits
          obtain ⟨_, cs, calls, _⟩ := room_run idle es
          obtain ⟨k, hk, _⟩ := asker_of_mem (calls ▸ List.mem_append_right _ waits)
          cases h.symm.trans hk

/-- What a handler has been told is the answer to its command, if it has waited for one, or else
that the command waits or is too late. -/
lemma exchanges_inv {reply : Reply} (hm : (cmd, reply) ∈ (initial idle).exchanges i es) :
    ⟨cmd, reply⟩ ∈ (initial idle).answered es ∨
      cmd.isAwaited = false ∧ (reply = .done ∨ reply = .refused .unavailable) := by
  induction es using List.reverseRecOn with
  | nil => cases hm
  | append_singleton es e ih =>
    rw [exchanges_concat] at hm
    rw [answered_concat]
    obtain old | new := List.mem_append.1 hm
    · exact (ih old).imp_left (List.mem_append_left _)
    · obtain given | ⟨free, rfl⟩ := exchange_inv (Option.mem_toList.1 new)
      · exact .inl (List.mem_append_right _ given)
      · refine .inr ⟨free, ?_⟩
        unfold receipt
        split
        · exact .inr rfl
        · exact .inl rfl

/-- In every run of an office, however long commands wait at the desk: the room is an empty one that
has been told what has left the desk, and this is what has been called, in the order of the calls,
but for what still waits, where nothing waits before a closed room. A handler goes through what it
would go through at a server: it has told what it has heard of its client, and once it waits for
more, it has heard all. What it has waited for is what the room has replied. As long as numbers of
connections last, what is called about its connection is what it is done with, and then what it
waits for. The end of its connection is called once at most, and the guard that it drops calls it
only if the handler has not. -/
theorem handlers_are_done_with_their_calls (h : ((initial idle).run es).posts[i]? = some p) :
    ∃ cs, (initial idle).calls es = cs ++ ((initial idle).run es).desk.waiting ∧
      Room.initial.run cs = (((initial idle).run es).desk.room, (initial idle).delivered es) ∧
      (((initial idle).run es).desk.room.isClosed = true →
        ((initial idle).run es).desk.waiting = []) ∧
      Server.History i p.link ((initial idle).signals i es) ((initial idle).hearings i es)
        ((initial idle).exchanges i es) ∧
      (p.link.isSilent = true → ((initial idle).hearings i es).filterMap Hearing.data? =
        received ((initial idle).signals i es)) ∧
      (∀ cmd reply, (cmd, reply) ∈ (initial idle).exchanges i es → cmd.isAwaited = true →
        (cmd, reply) ∈ Room.initial.dialogue cs) ∧
      (((initial idle).run es).posts.length < 2 ^ 64 →
        ((initial idle).calls es).filter (·.sender? = some p.link.handler.conn) =
          ((initial idle).exchanges i es).map Prod.fst ++ ((initial idle).run es).pending p) ∧
      (((initial idle).exchanges i es).map Prod.fst ++ p.link.handler.drop.command?.toList).count
        (.disconnect p.link.handler.conn) ≤ 1 := by
  have history := history_run h
  obtain ⟨orderly, cs, calls, rooms, answers⟩ := room_run idle es
  refine ⟨cs, calls, rooms, orderly, history, ?_, ?_, ?_, history.count_reports_le⟩
  · intro silent
    obtain ⟨reading, none, _⟩ := Link.isSilent_iff.1 silent
    have all := (history.waits (by rw [Handler.stillReads, reading])).1
    rwa [none, List.append_nil] at all
  · intro cmd reply hm awaited
    obtain given | ⟨free, _⟩ := exchanges_inv hm
    · rw [answers] at given
      exact (Room.mem_answers_inv given).1
    · rw [awaited] at free
      cases free
  · intro few
    have inside := Nat.lt_trans (List.getElem?_eq_some_iff.1 h).1 few
    rw [conn_eq h, filter_calls few inside, h]

/-- A client is seated and sends something, and the room is asked to shut down before the handler
gets to it. -/
def lateFrame : List OfficeEvent :=
  [.happens .arrive, .happens (.turn 0), .take, .happens (.signal 0 (.frame (.binary [65]))),
    .happens .shutDown, .happens (.turn 0), .happens (.turn 0), .take]

/-- The handler is done with the frame as soon as it waits behind the shutdown. The room, which the
shutdown closes, does nothing with it. -/
example :
    (initial none).exchanges 0 lateFrame =
      [(.connect ⟨1⟩ 0, .seated .odd), (.frame ⟨1⟩ [65], .done)] ∧
    (initial none).calls lateFrame = [.connect ⟨1⟩ 0, .shutdown, .frame ⟨1⟩ [65]] ∧
    ((initial none).run lateFrame).desk.waiting = [] ∧
    Room.itemsFor 0 ((initial none).delivered lateFrame) =
      [.notice (.assigned .odd .empty), .notice (.waiting "Waiting for opponent..."), .close,
        .ended] := by
  decide +kernel

end Office

end ParityDuel
