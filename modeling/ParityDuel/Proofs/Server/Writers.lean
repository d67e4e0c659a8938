import ParityDuel.Proofs.Server.Identities
import ParityDuel.Proofs.Wire.Notice

/-!
# Writers

A writer sends the notices that are put into its inbox before the inbox closes or ends
(`noticesOf`), and closes the socket then. `Link.Wrote` lists how far it can have come, and
`wrote_run` says that it holds of every link in every run: a writer is up to date, or it is done, or
else the socket has not taken something. What the client of an inbox gets in the end then follows
from what a room puts into the inbox (`Room.Course`).
-/

namespace ParityDuel

/-- The notices that are put into an inbox before it closes or ends. -/
def noticesOf : List Item → List Notice
  | [] => []
  | .notice n :: items => n :: noticesOf items
  | .close :: _ => []
  | .ended :: _ => []

/-- Whether an inbox closes or ends. -/
def isOver (items : List Item) : Bool := items.any fun item => item = .close || item = .ended

/-- The frames that carry notices. -/
def framesOf (ns : List Notice) : List Frame := ns.map fun n => .text n.encode

/-- Notices behind an end do not count. -/
lemma noticesOf_append (items items' : List Item) :
    noticesOf (items ++ items') =
      noticesOf items ++ if isOver items then [] else noticesOf items' := by
  induction items with
  | nil => rfl
  | cons item items ih => cases item <;> simp [noticesOf, isOver, ih]

lemma isOver_append (items items' : List Item) :
    isOver (items ++ items') = (isOver items || isOver items') :=
  List.any_append

/-- It is over with a closing or with an end. -/
lemma isOver_iff {items : List Item} : isOver items = true ↔ .close ∈ items ∨ .ended ∈ items := by
  simp only [isOver, List.any_eq_true, Bool.or_eq_true, decide_eq_true_eq]
  constructor
  · rintro ⟨_, hm, rfl | rfl⟩
    · exact .inl hm
    · exact .inr hm
  · rintro (hm | hm)
    · exact ⟨_, hm, .inl rfl⟩
    · exact ⟨_, hm, .inr rfl⟩

/-- An inbox that is not over holds notices only. -/
lemma eq_of_not_isOver {items : List Item} (still : isOver items = false) :
    items = (noticesOf items).map .notice := by
  induction items with
  | nil => rfl
  | cons item items ih =>
    cases item with
    | notice n => exact congrArg (_ :: ·) (ih still)
    | close => cases still
    | ended => cases still

lemma framesOf_append (ns ns' : List Notice) : framesOf (ns ++ ns') = framesOf ns ++ framesOf ns' :=
  List.map_append

/-- Notices are read back from the frames that carry them. -/
lemma decode_framesOf (ns : List Notice) :
    (framesOf ns).map (fun f => Notice.decode f.data) = ns.map .ok := by
  rw [framesOf, List.map_map]
  apply List.map_congr_left
  intro n _
  dsimp only [Function.comp_apply, Frame.data]
  exact n.decode_of_encode

/-- Whether a socket takes what is written. -/
def Socket.accepts (k : Socket) : Bool := !k.isClosing && !k.isBroken

lemma Frame.ofBytes_ofString (text : String) : Frame.ofBytes (Utf8.ofString text) = .text text := by
  rw [ofBytes, Utf8.decode?_ofString]
  simp only [String.ofList_toList]

/-- A socket that takes a notice sends it as text. -/
lemma Socket.send_notice (k : Socket) (n : Notice) :
    k.accepts = true ∧ k.send (Utf8.ofString n.encode) = .ok (.text n.encode) ∨
      k.accepts = false ∧ ∃ e, k.send (Utf8.ofString n.encode) = .error e := by
  rw [send, Frame.ofBytes_ofString]
  obtain ⟨_, isClosing, isBroken⟩ := k
  cases isClosing with
  | true => exact .inr ⟨rfl, _, rfl⟩
  | false =>
    cases isBroken with
    | true => exact .inr ⟨rfl, _, rfl⟩
    | false => exact .inl ⟨rfl, rfl⟩

/-- A handler that has asked for a seat has had an answer. -/
lemma Handler.Told.answered {c : Conn} {inbox : Inbox} {progress : Progress} {hs : List Hearing}
    {xs : List (Command × Reply)} (td : Told c inbox progress hs xs)
    (asked : progress ≠ .seating) : ∃ reply, (.connect c inbox, reply) ∈ xs := by
  cases td with
  | seating => exact absurd rfl asked
  | refused => exact ⟨_, List.mem_cons_self⟩
  | reading => exact ⟨_, List.mem_cons_self⟩
  | forwarding => exact ⟨_, List.mem_cons_self⟩
  | ended _ => exact ⟨_, List.mem_cons_self⟩
  | shutOut => exact ⟨_, List.mem_append_left _ List.mem_cons_self⟩
  | left td =>
    obtain ⟨role, seated⟩ := td.seated_mem
    exact ⟨_, List.mem_append_left _ seated⟩

namespace Link

/-- How far a writer can have come, when so much has been put into its inbox. -/
inductive Wrote (accepted : Prop) (l : Link) (items : List Item) : Prop where
  | going :
    l.isShut = false →
    isOver items = false →
    l.frames = framesOf (noticesOf items) →
    Wrote accepted l items
  | done :
    l.isShut = true →
    l.socket.isClosing = true →
    isOver items = true →
    l.frames = framesOf (noticesOf items) →
    Wrote accepted l items
  | brokenOff :
    ¬ accepted →
    l.isShut = true →
    l.socket.isClosing = true →
    l.frames <+: framesOf (noticesOf items) →
    Wrote accepted l items

variable {accepted accepted' : Prop} {l l' : Link} {items : List Item}

/-- The writer of a fresh link has written nothing, and had nothing to write. -/
lemma wrote_fresh (accepted : Prop) (c : Conn) (i : Inbox) : (fresh c i).Wrote accepted [] :=
  .going rfl rfl rfl

/-- What holds under one condition on the client holds under a stronger one. -/
lemma Wrote.mono (wr : l.Wrote accepted items) (less : accepted' → accepted) :
    l.Wrote accepted' items := by
  cases wr with
  | going isShut still frames => exact .going isShut still frames
  | done isShut closing ended frames => exact .done isShut closing ended frames
  | brokenOff failed isShut closing frames =>
    exact .brokenOff (mt less failed) isShut closing frames

/-- What a writer has done stays done, whatever becomes of the handler. -/
lemma Wrote.of_same (wr : l.Wrote accepted items) (frames : l'.frames = l.frames)
    (shut : l'.isShut = l.isShut)
    (closing : l.socket.isClosing = true → l'.socket.isClosing = true) :
    l'.Wrote accepted items := by
  cases wr with
  | going isShut still sent => exact .going (shut.trans isShut) still (frames.trans sent)
  | done isShut closes ended sent =>
    exact .done (shut.trans isShut) (closing closes) ended (frames.trans sent)
  | brokenOff failed isShut closes sent =>
    exact .brokenOff failed (shut.trans isShut) (closing closes) (frames ▸ sent)

/-- A writer that has stopped writes no more. -/
lemma put_of_isShut (isShut : l.isShut = true) (item : Item) : l.put item = l := by
  simp [put, isShut]

/-- A notice is written as a frame, or the writer stops over it. -/
lemma put_notice (isShut : l.isShut = false) (n : Notice) :
    l.socket.accepts = true ∧
        l.put (.notice n) = { l with frames := l.frames ++ [.text n.encode] } ∨
      l.socket.accepts = false ∧ l.put (.notice n) = l.shut := by
  obtain ⟨accepts, sent⟩ | ⟨accepts, e, failed⟩ := l.socket.send_notice n
  · exact .inl ⟨accepts, by simp [put, isShut, sent]⟩
  · exact .inr ⟨accepts, by simp [put, isShut, failed]⟩

/-- Whatever closes or ends an inbox lets the writer close the socket. -/
lemma put_last {item : Item} (isShut : l.isShut = false) (last : isOver [item] = true) :
    l.put item = l.shut := by
  cases item with
  | notice n => cases last
  | close => simp [put, isShut]
  | ended => simp [put, isShut]

/-- A writer that is done at the last item has sent everything before. -/
lemma wrote_shut {item : Item} (last : isOver [item] = true)
    (frames : l.frames = framesOf (noticesOf items)) : l.shut.Wrote accepted (items ++ [item]) := by
  have none : noticesOf [item] = [] := by
    cases item with
    | notice n => cases last
    | close => rfl
    | ended => rfl
  apply Wrote.done rfl rfl
  · rw [isOver_append, last, Bool.or_true]
  · rw [noticesOf_append, none, ite_self, List.append_nil]
    exact frames

/-- One more item is written, or is left if the writer has stopped. -/
lemma Wrote.put (wr : l.Wrote accepted items) (item : Item)
    (accepts : accepted → l.isShut = false → noticesOf [item] ≠ [] → l.socket.accepts = true) :
    (l.put item).Wrote accepted (items ++ [item]) := by
  cases wr with
  | going isShut still frames =>
    cases item with
    | notice n =>
      have more : framesOf (noticesOf (items ++ [Item.notice n])) =
          l.frames ++ [Frame.text n.encode] := by
        rw [noticesOf_append, still, framesOf_append, frames]
        rfl
      obtain ⟨_, sent⟩ | ⟨refuses, failed⟩ := put_notice isShut n
      · rw [sent]
        refine .going isShut ?_ more.symm
        rw [isOver_append, still]
        rfl
      · rw [failed]
        apply Wrote.brokenOff _ rfl rfl
        · rw [more]
          exact List.prefix_append _ _
        · intro all
          rw [accepts all isShut (List.cons_ne_nil _ _)] at refuses
          cases refuses
    | close =>
      rw [put_last isShut rfl]
      exact wrote_shut rfl frames
    | ended =>
      rw [put_last isShut rfl]
      exact wrote_shut rfl frames
  | done isShut closing ended frames =>
    rw [put_of_isShut isShut]
    apply Wrote.done isShut closing
    · rw [isOver_append, ended, Bool.true_or]
    · rw [noticesOf_append, ended, if_pos rfl, List.append_nil]
      exact frames
  | brokenOff failed isShut closing frames =>
    rw [put_of_isShut isShut]
    apply Wrote.brokenOff failed isShut closing
    rw [noticesOf_append, framesOf_append]
    exact frames.trans (List.prefix_append _ _)

/-- A writer that goes on behind an item has sent a notice, and leaves the socket as it was. -/
lemma put_inv_of_going {item : Item} (going : (l.put item).isShut = false) :
    l.isShut = false ∧ isOver [item] = false ∧ (l.put item).socket = l.socket := by
  cases isShut : l.isShut with
  | true =>
    rw [put_of_isShut isShut, isShut] at going
    cases going
  | false =>
    cases item with
    | notice n =>
      obtain ⟨_, sent⟩ | ⟨_, failed⟩ := put_notice isShut n
      · rw [sent]
        exact ⟨rfl, rfl, rfl⟩
      · rw [failed] at going
        cases going
    | close =>
      rw [put_last isShut rfl] at going
      cases going
    | ended =>
      rw [put_last isShut rfl] at going
      cases going

/-- So are more of them. -/
lemma Wrote.putAll {is : List Item} (wr : l.Wrote accepted items)
    (accepts : accepted → l.isShut = false → noticesOf is ≠ [] → l.socket.accepts = true) :
    (l.putAll is).Wrote accepted (items ++ is) := by
  induction is generalizing l items with
  | nil =>
    rw [List.append_nil]
    exact wr
  | cons item is ih =>
    have all : noticesOf (item :: is) =
        noticesOf [item] ++ if isOver [item] then [] else noticesOf is :=
      noticesOf_append [item] is
    have first : (l.put item).Wrote accepted (items ++ [item]) := by
      apply wr.put
      intro taken isShut full
      apply accepts taken isShut
      rw [all]
      exact List.append_ne_nil_of_left_ne_nil full _
    rw [List.append_cons]
    apply ih first
    intro taken going full
    obtain ⟨isShut, still, same⟩ := put_inv_of_going going
    rw [same]
    apply accepts taken isShut
    rw [all, still]
    exact List.append_ne_nil_of_right_ne_nil _ full

/-- What is written are the first of the notices, whatever the client accepts. -/
lemma Wrote.prefix_framesOf (wr : l.Wrote accepted items) :
    l.frames <+: framesOf (noticesOf items) := by
  cases wr with
  | going _ _ frames => exact ⟨[], (List.append_nil _).trans frames⟩
  | done _ _ _ frames => exact ⟨[], (List.append_nil _).trans frames⟩
  | brokenOff _ _ _ frames => exact frames

/-- A writer whose socket takes everything is done when the inbox is over, and has sent all notices
before. -/
lemma Wrote.whole (wr : l.Wrote accepted items) (all : accepted) :
    l.isShut = isOver items ∧ l.frames = framesOf (noticesOf items) := by
  cases wr with
  | going isShut still frames => exact ⟨isShut.trans still.symm, frames⟩
  | done isShut _ ended frames => exact ⟨isShut.trans ended.symm, frames⟩
  | brokenOff failed _ _ _ => exact absurd all failed

/-- A writer that has stopped has closed the connection. -/
lemma Wrote.isClosing (wr : l.Wrote accepted items) (shut : l.isShut = true) :
    l.socket.isClosing = true := by
  cases wr with
  | going isShut _ _ =>
    rw [shut] at isShut
    cases isShut
  | done _ closing _ _ => exact closing
  | brokenOff _ _ closing _ => exact closing

/-- A writer that goes on has nothing left to send. -/
lemma Wrote.isOver_eq_false (wr : l.Wrote accepted items) (going : l.isShut = false) :
    isOver items = false := by
  cases wr with
  | going _ still _ => exact still
  | done isShut _ _ _ =>
    rw [going] at isShut
    cases isShut
  | brokenOff _ isShut _ _ =>
    rw [going] at isShut
    cases isShut

end Link

namespace Room

variable {cs : List Command} {i : Inbox}

/-- Nobody is registered in a room that has been shut down. -/
lemma members_of_closed (closed : (initial.run cs).1.isClosed = true) :
    (initial.run cs).1.members = [] := by
  induction cs using List.reverseRecOn with
  | nil => cases closed
  | append_singleton cs cmd ih =>
    rw [run_concat] at closed ⊢
    cases before : (initial.run cs).1.isClosed with
    | true =>
      rw [step_of_closed before]
      exact ih before
    | false =>
      by_cases down : cmd = .shutdown
      · rw [down, step_shutdown before]
      · obtain ⟨_, st⟩ := step_inv before down
        rw [st.isClosed_eq, before] at closed
        cases closed

/-- A shutdown puts nothing but a closing before the end into the inbox of a member. -/
lemma isOver_of_shutdown {r : Room} (hm : i ∈ r.members.map Member.inbox) :
    isOver (itemsFor i (r.toAll .close ++ r.toAll .ended)) = true ∧
      noticesOf (itemsFor i (r.toAll .close ++ r.toAll .ended)) = [] := by
  obtain ⟨n, once⟩ := Nat.exists_eq_succ_of_ne_zero (List.count_pos_iff.2 hm).ne'
  rw [itemsFor_append, itemsFor_toAll, itemsFor_toAll, once, List.replicate_succ]
  exact ⟨rfl, rfl⟩

end Room

namespace Server

variable {s : Server} {i : Inbox} {e : ServerEvent} {es : List ServerEvent} {l l' k : Link}
  {sig : Option Signal} {hearing : Option Hearing} {exchange : Option (Command × Reply)}
  {cmd : Command} {idle : Option Span}

/-- What the room puts into an inbox by events. -/
def items (s : Server) (i : Inbox) (es : List ServerEvent) : List Item :=
  Room.itemsFor i (s.room.run (s.commands es)).2

/-- Whether a client takes everything that is written to it by events. -/
def acceptsWrites (s : Server) (i : Inbox) : List ServerEvent → Bool
  | [] => true
  | e :: es =>
    (match s.links[i]? with
      | none => true
      | some l =>
        l.isShut || (noticesOf (Room.itemsFor i (s.deliveries e))).isEmpty || l.socket.accepts) &&
      (s.step e).acceptsWrites i es

lemma items_append (s : Server) (i : Inbox) (es es' : List ServerEvent) :
    s.items i (es ++ es') = s.items i es ++ (s.run es).items i es' := by
  rw [items, commands_append, Room.run_append, Room.itemsFor_append, ← room_run]
  rfl

/-- What the first event puts into an inbox, and then what the others do. -/
lemma items_cons (s : Server) (i : Inbox) (e : ServerEvent) (es : List ServerEvent) :
    s.items i (e :: es) = Room.itemsFor i (s.deliveries e) ++ (s.step e).items i es := by
  have first : s.items i [e] = Room.itemsFor i (s.deliveries e) := by
    rw [items, commands, collect, collect, List.append_nil, deliveries]
    cases s.command? e with
    | none => rfl
    | some cmd =>
      rw [Option.toList_some, Room.run_cons, Room.run_nil, List.append_nil]
  rw [← first]
  exact items_append s i [e] es

lemma items_concat (s : Server) (i : Inbox) (es : List ServerEvent) (e : ServerEvent) :
    s.items i (es ++ [e]) = s.items i es ++ Room.itemsFor i ((s.run es).deliveries e) := by
  rw [items_append, items_cons]
  exact congrArg _ (List.append_nil _)

/-- Nothing is put into the inbox of a client that has not come. -/
lemma items_of_none (none : ((initial idle).run es).links[i]? = none) :
    (initial idle).items i es = [] := by
  refine (Room.run_of_absent List.not_mem_nil fun brought => ?_).2
  obtain ⟨cmd, told, brings⟩ := List.mem_filterMap.1 brought
  obtain ⟨c, rfl⟩ := Command.eq_connect_of_inbox? brings
  obtain ⟨l, h, _⟩ := asker_of_mem told
  rw [none] at h
  cases h

/-- By the turn of a handler the room puts into inboxes what comes of the command of the handler. -/
lemma deliveries_turn (h : s.links[i]? = some l) :
    s.deliveries (.turn i) =
      match l.handler.command? with
      | none => []
      | some cmd => (s.room.step cmd).2.2 := by
  rw [deliveries, command?, h]
  rfl

/-- Whatever an event does to a link, its writer does nothing but take what the room puts into the
inbox. -/
lemma LinkStep.writer (st : s.LinkStep i l e l' sig hearing exchange) (h : s.links[i]? = some l) :
    l'.frames = (l.putAll (Room.itemsFor i (s.deliveries e))).frames ∧
    l'.isShut = (l.putAll (Room.itemsFor i (s.deliveries e))).isShut ∧
    ((l.putAll (Room.itemsFor i (s.deliveries e))).socket.isClosing = true →
      l'.socket.isClosing = true) := by
  cases st with
  | aside _ => exact ⟨rfl, rfl, id⟩
  | signalled sig => exact ⟨rfl, rfl, id⟩
  | gaveUp _ => exact ⟨rfl, rfl, id⟩
  | stillHeard _ => exact ⟨rfl, rfl, id⟩
  | @spoke cmd told =>
    rw [deliveries_turn h, told]
    exact ⟨rfl, rfl, id⟩
  | @heard r socket reading hears =>
    rw [deliveries_turn h, Handler.command?, reading]
    have rc := l.socket.receives
    rw [hears] at rc
    cases rc with
    | data _ _ _ => exact ⟨rfl, rfl, id⟩
    | ended _ _ _ closing => exact ⟨rfl, rfl, closing⟩
  | waited reading _ =>
    rw [deliveries_turn h, Handler.command?, reading]
    exact ⟨rfl, rfl, id⟩
  | rested finished =>
    rw [deliveries_turn h, Handler.command?, finished]
    exact ⟨rfl, rfl, id⟩

/-- The client accepts what is written in the last event, and all before. -/
lemma acceptsWrites_concat (accepts : s.acceptsWrites i (es ++ [e]) = true) :
    s.acceptsWrites i es = true ∧ ∀ l, (s.run es).links[i]? = some l → l.isShut = false →
      noticesOf (Room.itemsFor i ((s.run es).deliveries e)) ≠ [] → l.socket.accepts = true := by
  induction es generalizing s with
  | nil =>
    refine ⟨rfl, fun l h going full => ?_⟩
    rw [run_nil] at h full
    rw [List.nil_append, acceptsWrites, h] at accepts
    simpa [acceptsWrites, going, full] using accepts
  | cons e' es ih =>
    rw [List.cons_append, acceptsWrites, Bool.and_eq_true_iff] at accepts
    obtain ⟨now, later⟩ := accepts
    obtain ⟨rest, last⟩ := ih later
    refine ⟨?_, last⟩
    rw [acceptsWrites, Bool.and_eq_true_iff]
    exact ⟨now, rest⟩

/-- How far the writer of a link has come in a run. -/
lemma wrote_run (h : ((initial idle).run es).links[i]? = some l) :
    l.Wrote ((initial idle).acceptsWrites i es = true) ((initial idle).items i es) := by
  induction es using List.reverseRecOn generalizing l with
  | nil => cases h
  | append_singleton es e ih =>
    rw [run_concat] at h
    rw [items_concat]
    obtain ⟨k, hk, st⟩ | ⟨none, rfl, _, _, rfl⟩ := links_step_inv h
    · obtain ⟨frames, isShut, closing⟩ := st.writer hk
      have before : k.Wrote ((initial idle).acceptsWrites i (es ++ [e]) = true) _ :=
        (ih hk).mono fun accepts => (acceptsWrites_concat accepts).1
      refine (before.putAll ?_).of_same frames isShut closing
      intro accepts
      exact (acceptsWrites_concat accepts).2 k hk
    · rw [items_of_none none]
      exact Link.wrote_fresh _ _ _

/-- What becomes of the inbox of a client whose handler has asked for a seat. -/
lemma course_of_exchange {c : Conn} {reply : Reply}
    (hm : (.connect c i, reply) ∈ (initial idle).exchanges i es) :
    ∃ before later, (Room.initial.run before).1.Course c later reply ((initial idle).items i es) ∧
      (i ∈ ((initial idle).run es).room.members.map Member.inbox ↔
        .ended ∉ (initial idle).items i es) := by
  obtain ⟨before, e, after, rfl, said⟩ := exists_of_mem_collect hm
  obtain ⟨l, rfl, h, told, rfl⟩ := exchange_inv said
  have tells : ((initial idle).run before).command? (.turn i) = some (.connect c i) := by
    rw [command?, h]
    exact told
  have commands : (initial idle).commands (before ++ .turn i :: after) =
      (initial idle).commands before ++ .connect c i ::
        (((initial idle).run before).step (.turn i)).commands after := by
    rw [commands_append]
    show _ ++ ((((initial idle).run before).command? (.turn i)).toList ++ _) = _
    rw [tells]
    rfl
  have fresh := nodup_inboxes idle (before ++ .turn i :: after)
  rw [commands] at fresh
  refine ⟨(initial idle).commands before,
    (((initial idle).run before).step (.turn i)).commands after, ?_⟩
  have course := Room.course_of_mem fresh
  rw [← commands] at course
  rw [room_eq, room_eq]
  exact course

/-- Whoever has asked for a seat has had an answer. -/
lemma answered_of_ne_seating (h : ((initial idle).run es).links[i]? = some l)
    (asked : l.handler.progress ≠ .seating) :
    ∃ reply, (.connect l.handler.conn i, reply) ∈ (initial idle).exchanges i es :=
  (history_run (s := initial idle) (i := i) rfl h).told.answered asked

/-- A client that has not ended is there when the room is shut down. -/
lemma isOver_of_shutDown (h : ((initial idle).run es).links[i]? = some l)
    (asked : l.handler.progress ≠ .seating) (going : l.isShut = false)
    (down : ((initial idle).run es).command? e = some .shutdown) :
    isOver (Room.itemsFor i (((initial idle).run es).deliveries e)) = true ∧
      noticesOf (Room.itemsFor i (((initial idle).run es).deliveries e)) = [] := by
  have still := (wrote_run h).isOver_eq_false going
  obtain ⟨reply, hm⟩ := answered_of_ne_seating h asked
  obtain ⟨_, _, _, kept⟩ := course_of_exchange hm
  have member : i ∈ ((initial idle).run es).room.members.map Member.inbox := by
    rw [kept]
    intro ended
    rw [isOver_iff.2 (.inr ended)] at still
    cases still
  have isOpen : ((initial idle).run es).room.isClosed = false := by
    rw [← Bool.not_eq_true]
    intro closed
    rw [room_eq] at closed member
    rw [Room.members_of_closed closed] at member
    cases member
  rw [deliveries, down]
  dsimp only
  rw [Room.step_shutdown isOpen]
  exact Room.isOver_of_shutdown member

/-- What a client whose socket takes everything has got in the end if it was refused a seat. -/
lemma frames_of_refused {c : Conn} {refusal : Refusal}
    (h : ((initial idle).run es).links[i]? = some l)
    (accepts : (initial idle).acceptsWrites i es = true)
    (hm : (.connect c i, .refused refusal) ∈ (initial idle).exchanges i es) :
    l.isShut = true ∧
      (refusal = .full ∧ l.frames = [.text (Notice.refused "game is full").encode] ∨
        refusal = .unavailable ∧ l.frames = [] ∨
        2 ^ 64 ≤ ((initial idle).run es).links.length ∧ l.frames = []) := by
  obtain ⟨isShut, frames⟩ := (wrote_run h).whole accepts
  obtain ⟨_, _, course, _⟩ := course_of_exchange hm
  generalize (initial idle).items i es = items at isShut frames course
  cases course with
  | unavailable _ => exact ⟨isShut, .inr (.inl ⟨rfl, frames⟩)⟩
  | known _ _ =>
    refine ⟨isShut, .inr (.inr ⟨?_, frames⟩)⟩
    rw [← Nat.not_lt]
    intro few
    exact alreadyConnected_not_mem_exchanges few i _ _ hm
  | full _ _ _ => exact ⟨isShut, .inl ⟨rfl, frames⟩⟩

/-- In every run of a server, every client gets what is put into its inbox, from the first notice on
and in order, and nothing else, until something written to it is not taken. If it takes everything
that is written to it, it gets text only; what is read from it are all notices that have been put
into its inbox before the inbox closes or ends; and its connection is closed then, and not before.
A client that is refused a seat gets the one notice that the game is full, or nothing if the room is
shut down; no other client is refused as long as numbers of connections last. A client whose handler
asks for a seat when the room is shut down gets nothing. A client that is there when the room is
shut down gets all that has been put into its inbox before, and nothing else. In all these cases the
connection is closed. -/
theorem clients_receive_their_inboxes (h : ((initial idle).run es).links[i]? = some l) :
    l.frames <+: framesOf (noticesOf ((initial idle).items i es)) ∧
    ((initial idle).acceptsWrites i es = true →
      (∀ f ∈ l.frames, ∃ text, f = .text text) ∧
      l.frames.map (fun f => Notice.decode f.data) =
        (noticesOf ((initial idle).items i es)).map .ok ∧
      (l.isShut = true ↔
        .close ∈ (initial idle).items i es ∨ .ended ∈ (initial idle).items i es) ∧
      (l.isShut = true → l.socket.isClosing = true) ∧
      (∀ (c : Conn) (refusal : Refusal),
        (.connect c i, .refused refusal) ∈ (initial idle).exchanges i es →
        l.isShut = true ∧
        (refusal = .full ∧ l.frames = [.text (Notice.refused "game is full").encode] ∨
          refusal = .unavailable ∧ l.frames = [] ∨
          2 ^ 64 ≤ ((initial idle).run es).links.length ∧ l.frames = [])) ∧
      ∀ (before : List ServerEvent) (e : ServerEvent) (after : List ServerEvent) (k : Link),
        es = before ++ e :: after →
        ((initial idle).run before).links[i]? = some k →
        (e = .turn i → k.handler.progress = .seating →
          ((initial idle).run before).room.isClosed = true → l.isShut = true ∧ l.frames = []) ∧
        (e = .shutDown ∨ e = .stop → k.handler.progress ≠ .seating → k.isShut = false →
          l.isShut = true ∧ ∃ ns : List Notice,
            (initial idle).items i before = ns.map .notice ∧ l.frames = framesOf ns)) := by
  have wr := wrote_run h
  refine ⟨wr.prefix_framesOf, fun accepts => ?_⟩
  obtain ⟨isShut, frames⟩ := wr.whole accepts
  refine ⟨?_, ?_, ?_, wr.isClosing, fun c refusal hm => frames_of_refused h accepts hm, ?_⟩
  · rw [frames]
    intro f hf
    obtain ⟨n, _, rfl⟩ := List.mem_map.1 hf
    exact ⟨n.encode, rfl⟩
  · rw [frames]
    exact decode_framesOf _
  · rw [isShut]
    exact isOver_iff
  · rintro before e after k rfl hk
    constructor
    · rintro rfl seating closed
      have refused : (.connect k.handler.conn k.handler.inbox, .refused .unavailable) ∈
          (initial idle).exchanges i (before ++ .turn i :: after) := by
        apply mem_collect
        show ((initial idle).run before).exchange? i (.turn i) = _
        simp [exchange?, hk, Handler.command?, seating, Room.step_of_closed closed]
      rw [inbox_eq hk] at refused
      obtain ⟨shut, ⟨other, _⟩ | ⟨_, nothing⟩ | ⟨_, nothing⟩⟩ := frames_of_refused h accepts refused
      · cases other
      · exact ⟨shut, nothing⟩
      · exact ⟨shut, nothing⟩
    · intro down asked going
      have told : ((initial idle).run before).command? e = some .shutdown := by
        obtain rfl | rfl := down <;> rfl
      obtain ⟨last, none⟩ := isOver_of_shutDown hk asked going told
      have still := (wrote_run hk).isOver_eq_false going
      rw [items_append, items_cons, isOver_append, isOver_append, last, Bool.true_or,
        Bool.or_true] at isShut
      rw [items_append, items_cons, noticesOf_append, still, noticesOf_append, none, last] at frames
      exact ⟨isShut, _, eq_of_not_isOver still, by simpa using frames⟩

/-- Three clients come, of whom the last one is turned away. The room is shut down, and another
client comes. -/
def closedTable : List ServerEvent :=
  [.arrive, .arrive, .arrive, .turn 0, .turn 1, .turn 2, .shutDown, .arrive, .turn 3]

/-- The first client has been told its seat and to wait, and its seat once more when the second one
came; the third one is told that the game is full, and the last one is told nothing. -/
theorem clients_receive_their_inboxes_closedTable :
    (∃ l : Link, ((initial none).run closedTable).links[0]? = some l ∧ l.isShut = true ∧
      l.frames.map (fun f => Notice.decode f.data) =
        [Notice.assigned .odd .empty, Notice.waiting "Waiting for opponent...",
          Notice.assigned .odd .empty].map .ok) ∧
    (∃ l : Link, ((initial none).run closedTable).links[2]? = some l ∧ l.isShut = true ∧
      l.frames = [.text (Notice.refused "game is full").encode]) ∧
    ∃ l : Link, ((initial none).run closedTable).links[3]? = some l ∧ l.isShut = true ∧
      l.frames = [] := by
  have there : ∀ i < 4, (((initial none).run closedTable).links[i]?).isSome = true ∧
      (initial none).acceptsWrites i closedTable = true := by
    decide +kernel
  have items : (initial none).items 0 closedTable = [.notice (.assigned .odd .empty),
      .notice (.waiting "Waiting for opponent..."), .notice (.assigned .odd .empty), .close,
      .ended] := by
    decide +kernel
  have refused : (.connect ⟨3⟩ 2, .refused .full) ∈ (initial none).exchanges 2 closedTable := by
    decide +kernel
  refine ⟨?_, ?_, ?_⟩
  · obtain ⟨here, accepts⟩ := there 0 (by decide)
    obtain ⟨l, h⟩ := Option.isSome_iff_exists.1 here
    obtain ⟨_, received, shut, _⟩ := (clients_receive_their_inboxes h).2 accepts
    rw [items] at received shut
    exact ⟨l, h, shut.2 (by simp), received⟩
  · obtain ⟨here, accepts⟩ := there 2 (by decide)
    obtain ⟨l, h⟩ := Option.isSome_iff_exists.1 here
    obtain ⟨_, _, _, _, away, _⟩ := (clients_receive_their_inboxes h).2 accepts
    obtain ⟨shut, ⟨_, error⟩ | ⟨other, _⟩ | ⟨many, _⟩⟩ := away _ _ refused
    · exact ⟨l, h, shut, error⟩
    · cases other
    · exact absurd many (by decide +kernel)
  · obtain ⟨here, accepts⟩ := there 3 (by decide)
    obtain ⟨l, h⟩ := Option.isSome_iff_exists.1 here
    obtain ⟨_, _, _, _, _, later⟩ := (clients_receive_their_inboxes h).2 accepts
    have seating : ((initial none).run (closedTable.take 8)).links[3]?.map Link.handler =
        some ⟨⟨4⟩, 3, .seating, none⟩ := by
      decide +kernel
    obtain ⟨k, hk, asks⟩ := Option.map_eq_some_iff.1 seating
    obtain ⟨late, _⟩ := later _ (.turn 3) [] k rfl hk
    exact ⟨l, h, late rfl (by rw [asks]) (by decide +kernel)⟩

end Server

end ParityDuel
