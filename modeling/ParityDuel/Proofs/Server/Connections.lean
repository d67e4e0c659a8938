import ParityDuel.Proofs.Server.Soundness

/-!
# Connections

A server that is not shut down loses no seat and keeps none that nobody holds. A client that has
been given a seat stays registered until it leaves: `hasLeft` says so from outside, by what the
client has done and by whether it has been given up. Once all handlers have come to rest, those who
are registered are those who have been seated and have not left (`stays_iff`); and when all have
left, the room is as at the beginning.
-/

namespace ParityDuel

/-- Whether the room has given a seat to a handler. -/
def wasSeated (xs : List (Command × Reply)) : Bool :=
  xs.any fun x => match x.2 with
    | .seated _ => true
    | _ => false

/-- Whether a client has ended the connection or has been given up. -/
def hasLeft (sigs : List Signal) (hs : List Hearing) : Bool :=
  isEnded sigs || hs.any fun h => h = .silent

/-- A handler that is admitted has been given a seat. -/
lemma Handler.Told.wasSeated {c : Conn} {inbox : Inbox} {h : Handler} {hs : List Hearing}
    {xs : List (Command × Reply)} (td : Handler.Told c inbox h.progress hs xs)
    (admitted : h.isAdmitted = true) : wasSeated xs = true := by
  obtain ⟨_, _, progress, _⟩ := h
  cases td with
  | seating => cases admitted
  | refused => cases admitted
  | left _ => cases admitted
  | _ => rfl

namespace Server

variable {s : Server} {i : Inbox} {e : ServerEvent} {l l' : Link} {sig : Option Signal}
  {hearing : Option Hearing} {exchange : Option (Command × Reply)} {sigs : List Signal}
  {hs : List Hearing} {xs : List (Command × Reply)}

/-- The history of a link in a server that is not shut down: no handler that has been given a seat
stops reading before its client has left. -/
structure Faithful (i : Inbox) (l : Link) (sigs : List Signal) (hs : List Hearing)
    (xs : List (Command × Reply)) : Prop where
  history : History i l sigs hs xs
  /-- Handlers stop reading when their clients have left. -/
  stops : wasSeated xs = true → l.handler.stillReads = false → hasLeft sigs hs = true

/-- A client has left in one part or in the other. -/
lemma hasLeft_append (sigs sigs' : List Signal) (hs hs' : List Hearing) :
    hasLeft (sigs ++ sigs') (hs ++ hs') = (hasLeft sigs hs || hasLeft sigs' hs') := by
  simp only [hasLeft, isEnded_append, List.any_append]
  cases isEnded sigs <;> cases isEnded sigs' <;> simp

/-- What an event does keeps handlers faithful. -/
lemma Faithful.of_step (ff : Faithful i l sigs hs xs) (sd : s.Sound)
    (st : s.LinkStep i l e l' sig hearing exchange) :
    Faithful i l' (sigs ++ sig.toList) (hs ++ hearing.toList) (xs ++ exchange.toList) := by
  refine ⟨ff.history.move st.moves, fun seated stops => ?_⟩
  cases st with
  | aside _ =>
    rw [Link.putAll_handler] at stops
    simp only [Option.toList_none, List.append_nil] at seated ⊢
    exact ff.stops seated stops
  | signalled sig =>
    simp only [Option.toList_none, List.append_nil] at seated
    rw [hasLeft_append, ff.stops seated stops]
    rfl
  | gaveUp _ =>
    rw [hasLeft_append, Bool.or_eq_true_iff]
    exact .inr rfl
  | stillHeard _ =>
    simp only [Option.toList_none, List.append_nil] at seated ⊢
    exact ff.stops seated stops
  | @spoke cmd told =>
    simp only [Option.toList_none, Option.toList_some, List.append_nil] at seated ⊢
    dsimp only at stops
    cases Handler.tells_of_command? told with
    | asks progress =>
      obtain ⟨role, reply⟩ | ⟨e, reply⟩ := s.room.reply_connect l.handler.conn l.handler.inbox
      · rw [reply] at stops
        simp [Handler.resume, Handler.isTaken, Handler.stillReads, progress] at stops
      · -- whoever asks has not been seated before
        have out : wasSeated xs = false := by
          have td := ff.history.told
          rw [progress] at td
          cases td
          rfl
        rw [reply, wasSeated, List.any_append, ← wasSeated, out] at seated
        cases seated
    | passesOn progress =>
      rw [Room.reply_frame, sd.room.isOpen] at stops
      simp [Handler.resume, Handler.isTaken, Handler.stillReads, progress] at stops
    | reports progress =>
      exact ff.stops (ff.history.told.wasSeated (by rw [Handler.isAdmitted, progress]))
        (by rw [Handler.stillReads, progress])
  | @heard r socket reading hears =>
    have reads : l.handler.stillReads = true := by rw [Handler.stillReads, reading]
    have rc := l.socket.receives
    rw [hears] at rc
    cases rc with
    | data _ _ _ => cases stops
    | ended _ _ ended _ =>
      rw [hasLeft_append, Bool.or_eq_true_iff]
      refine .inl ?_
      rw [hasLeft, ← (ff.history.waits reads).2, ended]
      rfl
  | waited _ _ =>
    simp only [Option.toList_none, List.append_nil] at seated ⊢
    exact ff.stops seated stops
  | rested _ =>
    simp only [Option.toList_none, List.append_nil] at seated ⊢
    exact ff.stops seated stops

/-- Along every run without a shutdown, a link is faithful to what has been heard of it. -/
lemma faithful_run {idle : Option Span} {es : List ServerEvent}
    (running : .shutDown ∉ es ∧ .stop ∉ es) (h : ((initial idle).run es).links[i]? = some l) :
    Faithful i l ((initial idle).signals i es) ((initial idle).hearings i es)
      ((initial idle).exchanges i es) := by
  refine known_run_of_none Sound (fun e => e ≠ .shutDown ∧ e ≠ .stop) (Faithful i)
    (fun s e sd allowed => sd.step allowed)
    (fun s l e l' _ _ _ _ _ _ sd _ _ st ff => ff.of_step sd st) (sound_initial idle) ?_
    (fun c => ⟨history_fresh c i, nofun⟩) rfl h
  rintro e he
  exact ⟨fun down => running.1 (down ▸ he), fun stop => running.2 (stop ▸ he)⟩

/-- Whether a client has been seated and has not left. -/
def stays (s : Server) (es : List ServerEvent) (i : Inbox) : Bool :=
  wasSeated (s.exchanges i es) && !hasLeft (s.signals i es) (s.hearings i es)

/-- Once a handler has come to rest, its client stays or has gone for good. -/
lemma Faithful.stays_iff (ff : Faithful i l sigs hs xs) (rest : l.IsAtRest) :
    (wasSeated xs && !hasLeft sigs hs) = l.handler.isAdmitted := by
  obtain finished | silent := rest
  · have out : l.handler.isAdmitted = false := by rw [Handler.isAdmitted, finished]
    rw [out, Bool.and_eq_false_imp]
    intro seated
    rw [ff.stops seated (by rw [Handler.stillReads, finished])]
    rfl
  · obtain ⟨reading, _, still⟩ := Link.isSilent_iff.1 silent
    have admitted : l.handler.isAdmitted = true := by rw [Handler.isAdmitted, reading]
    have open' : isEnded sigs = false :=
      (ff.history.waits (by rw [Handler.stillReads, reading])).2.symm.trans still
    have td := ff.history.told
    rw [td.wasSeated admitted, admitted]
    rw [reading] at td
    cases td
    simp [hasLeft, open', Handler.heardAll]

section Settling

/-- Events by which handlers only go on. -/
def AreTurns (es : List ServerEvent) : Prop := ∀ e ∈ es, ∃ i, e = .turn i

/-- A link that has come to rest is not disturbed by a turn. -/
lemma rest_turn (h : s.links[i]? = some l) (rest : l.IsAtRest) (j : Inbox) :
    ∃ l', (s.step (.turn j)).links[i]? = some l' ∧ l'.IsAtRest := by
  obtain ⟨l', _, _, _, after, -, -, -, st⟩ := step_goes h (.turn j)
  refine ⟨l', after, ?_⟩
  by_cases own : j = i
  · subst own
    obtain ⟨busy, _⟩ | ⟨_, rfl⟩ := st.toDo_lt
    · exact absurd rest busy
    · exact rest
  · cases st with
    | aside _ =>
      -- what another handler does may be written here, but nothing comes to be read
      obtain finished | silent := rest
      · exact .inl (by rw [Link.putAll_handler, finished])
      · refine .inr (Link.isSilent_iff.2 ?_)
        rw [Link.putAll_handler, Link.putAll_unread]
        exact Link.isSilent_iff.1 silent
    | _ => exact absurd rfl own

/-- Links that have come to rest are not disturbed by turns, and none comes. -/
lemma rest_run {es : List ServerEvent} (turns : AreTurns es) :
    (s.links[i]? = none → (s.run es).links[i]? = none) ∧
      (s.links[i]? = some l → l.IsAtRest → ∃ l', (s.run es).links[i]? = some l' ∧ l'.IsAtRest) := by
  induction es generalizing s l with
  | nil => exact ⟨id, fun h rest => ⟨l, h, rest⟩⟩
  | cons e es ih =>
    obtain ⟨⟨j, rfl⟩, others⟩ := List.forall_mem_cons.1 turns
    refine ⟨fun none => ?_, fun h rest => ?_⟩
    · obtain gone | ⟨arrival, _⟩ := getElem?_step_of_none (e := .turn j) none
      · exact (ih (l := l) others).1 gone
      · cases arrival
    · obtain ⟨l', after, rest'⟩ := rest_turn h rest j
      exact (ih others).2 after rest'

/-- Handlers that are let settle one after the other come to rest. -/
lemma foldl_settle (s : Server) (is : List Inbox) :
    ∃ es, AreTurns es ∧ is.foldl settle s = s.run es ∧
      ∀ i ∈ is, ∀ l, (s.run es).links[i]? = some l → l.IsAtRest := by
  induction is generalizing s with
  | nil => exact ⟨[], nofun, rfl, nofun⟩
  | cons i is ih =>
    cases h : s.links[i]? with
    | none =>
      have idle : s.settle i = s := by
        rw [settle, h]
      obtain ⟨es, turns, run, rest⟩ := ih s
      refine ⟨es, turns, by rw [List.foldl_cons, idle, run], ?_⟩
      intro j hj l hl
      obtain rfl | hj := List.mem_cons.1 hj
      · rw [(rest_run (l := l) turns).1 h] at hl
        cases hl
      · exact rest j hj l hl
    | some l =>
      have busy : s.settle i =
          s.run (.replicate (2 * l.socket.unread.length + 4) (.turn i)) := by
        rw [settle, h]
        rfl
      have own : AreTurns (.replicate (2 * l.socket.unread.length + 4) (.turn i)) :=
        fun e he => ⟨i, List.eq_of_mem_replicate he⟩
      obtain ⟨l', after, rest'⟩ := settle_rest h
      rw [busy] at after
      obtain ⟨es, turns, run, rest⟩ :=
        ih (s.run (.replicate (2 * l.socket.unread.length + 4) (.turn i)))
      refine ⟨.replicate (2 * l.socket.unread.length + 4) (.turn i) ++ es, ?_, ?_, ?_⟩
      · intro e he
        exact (List.mem_append.1 he).elim (own e) (turns e)
      · rw [List.foldl_cons, busy, run, run_append]
      · intro j hj k hk
        rw [run_append] at hk
        obtain rfl | hj := List.mem_cons.1 hj
        · -- the handlers that settle later leave this one at rest
          obtain ⟨k', hk', still⟩ := (rest_run turns).2 after rest'
          obtain rfl := Option.some.inj (hk'.symm.trans hk)
          exact still
        · exact rest j hj k hk

/-- A server whose handlers are all let settle comes to rest, by turns only. -/
lemma settleAll_rest (s : Server) :
    ∃ es, AreTurns es ∧ s.settleAll = s.run es ∧ ∀ l ∈ s.settleAll.links, l.IsAtRest := by
  obtain ⟨es, turns, run, rest⟩ := s.foldl_settle (List.range s.links.length)
  have whole : s.settleAll = s.run es := run
  refine ⟨es, turns, whole, fun l hl => ?_⟩
  rw [whole] at hl
  obtain ⟨i, h⟩ := List.mem_iff_getElem?.1 hl
  refine rest i (List.mem_range.2 ?_) l h
  rw [← Nat.not_le]
  intro outside
  rw [(rest_run (l := l) turns).1 (List.getElem?_eq_none_iff.2 outside)] at h
  cases h

end Settling

section Numbers

/-- Connections are numbered from one, in the order in which they come, as far as numbers go. -/
structure Numbered (s : Server) : Prop where
  next : s.next = 1 + UInt64.ofNat s.links.length
  conns : ∀ (i : Inbox) (l : Link), s.links[i]? = some l → l.handler.conn = ⟨1 + UInt64.ofNat i⟩

/-- Numbers are counted with the links. -/
lemma next_step (s : Server) (e : ServerEvent) :
    (s.step e).next = s.next ∧ (s.step e).links.length = s.links.length ∨
      (s.step e).next = s.next + 1 ∧ (s.step e).links.length = s.links.length + 1 := by
  cases e with
  | arrive =>
    cases listening : s.isListening with
    | true => exact .inr (by simp [step, arrive, listening])
    | false => exact .inl (by simp [step, arrive, listening])
  | stray => exact .inl ⟨rfl, rfl⟩
  | signal inbox sig => exact .inl ⟨rfl, List.length_modify ..⟩
  | expire inbox =>
    refine .inl ?_
    show (s.expire inbox).next = _ ∧ (s.expire inbox).links.length = _
    unfold expire
    split
    · exact ⟨rfl, List.length_modify ..⟩
    · exact ⟨rfl, rfl⟩
  | turn inbox =>
    refine .inl ?_
    show (s.turn inbox).next = _ ∧ (s.turn inbox).links.length = _
    unfold turn
    split
    · exact ⟨rfl, rfl⟩
    · split
      · exact ⟨rfl, List.length_modify ..⟩
      · exact ⟨rfl, (List.length_modify ..).trans (length_post _ _)⟩
  | shutDown => exact .inl ⟨rfl, length_post _ _⟩
  | stop => exact .inl ⟨rfl, length_post _ _⟩

/-- A link that arrives takes the next number. -/
lemma Numbered.step (nb : s.Numbered) (e : ServerEvent) : (s.step e).Numbered where
  next := by
    obtain ⟨next, length⟩ | ⟨next, length⟩ := s.next_step e
    · rw [next, length, nb.next]
    · rw [next, length, nb.next, UInt64.ofNat_add, UInt64.add_assoc]
      rfl
  conns i l' h' := by
    obtain ⟨l, h, st⟩ | ⟨_, _, _, rfl, rfl⟩ := links_step_inv h'
    · exact st.same.1.trans (nb.conns i l h)
    · exact congrArg Conn.mk nb.next

/-- Connections stay numbered in the order of their arrival. -/
lemma Numbered.run (nb : s.Numbered) (es : List ServerEvent) : (s.run es).Numbered := by
  induction es generalizing s with
  | nil => exact nb
  | cons e es ih => exact ih (nb.step e)

/-- A server without links is numbered. -/
lemma numbered_initial (idle : Option Span) : (initial idle).Numbered where
  next := rfl
  conns i l h := by cases h

/-- A link keeps its connection. -/
lemma conn_run (h : s.links[i]? = some l) (es : List ServerEvent) :
    ∃ l', (s.run es).links[i]? = some l' ∧ l'.handler.conn = l.handler.conn :=
  @known_run s i l [] [] [] (fun _ => True) (fun _ => True)
    (fun l' _ _ _ => l'.handler.conn = l.handler.conn) (fun _ _ _ _ => trivial)
    (fun _ _ _ _ _ _ _ _ _ _ _ _ _ st same => st.same.1.trans same)
    es trivial (fun _ _ => trivial) h rfl

/-- A handler that asks for a seat asks for the connection of its link. -/
lemma connect_mem_commands {c : Conn} {es : List ServerEvent} (sd : s.Sound)
    (running : .shutDown ∉ es ∧ .stop ∉ es) (hm : .connect c i ∈ s.commands es) :
    ∃ l, (s.run es).links[i]? = some l ∧ l.handler.conn = c := by
  induction es generalizing s with
  | nil => cases hm
  | cons e es ih =>
    obtain ⟨now, then'⟩ := running_cons running
    have sd' := sd.step now
    obtain first | later := List.mem_append.1 hm
    · have told : s.command? e = some (.connect c i) := Option.mem_toList.1 first
      cases e with
      | turn inbox =>
        obtain ⟨l, h, asks⟩ := Option.bind_eq_some_iff.1 told
        obtain ⟨own, cmd⟩ := Handler.eq_of_inbox? asks rfl
        obtain rfl : inbox = i := (sd.inboxes inbox l h).symm.trans own
        obtain ⟨l', last, same⟩ := conn_run h (.turn inbox :: es)
        rw [Command.connect.injEq] at cmd
        exact ⟨l', last, same.trans cmd.1.symm⟩
      | _ => cases told
    · exact ih sd' then' later

end Numbers

section Leaks

variable {idle : Option Span} {es : List ServerEvent}

/-- Once handlers have come to rest, those are registered who have been seated and have not left. -/
lemma members_perm (running : .shutDown ∉ es ∧ .stop ∉ es)
    (rest : ∀ l ∈ ((initial idle).run es).links, l.IsAtRest) :
    (((initial idle).run es).room.members.map Member.inbox).Perm
      ((List.range ((initial idle).run es).links.length).filter ((initial idle).stays es)) := by
  have sd := (sound_initial idle).run running
  have known : ∀ (i : Inbox) (l : Link), ((initial idle).run es).links[i]? = some l →
      (initial idle).stays es i = l.handler.isAdmitted := fun i l h =>
    (faithful_run running h).stays_iff (rest l (List.mem_of_getElem? h))
  refine (List.perm_ext_iff_of_nodup sd.inboxes_nodup (List.nodup_range.filter _)).2 fun i => ?_
  rw [List.mem_filter, List.mem_range]
  constructor
  · intro hm
    obtain ⟨⟨c, _⟩, mem, rfl⟩ := List.mem_map.1 hm
    obtain ⟨l, h, _, admitted⟩ := (sd.members _ _).1 mem
    exact ⟨(List.getElem?_eq_some_iff.1 h).1, (known _ l h).trans admitted⟩
  · rintro ⟨inside, stays⟩
    have h := List.getElem?_eq_getElem inside
    have admitted := (known i _ h).symm.trans stays
    exact List.mem_map_of_mem ((sd.members _ i).2 ⟨_, h, rfl, admitted⟩)

/-- Without a shutdown among the events there is none among the commands. -/
lemma shutdown_not_mem_commands {s : Server} (running : .shutDown ∉ es ∧ .stop ∉ es) :
    .shutdown ∉ s.commands es := by
  induction es generalizing s with
  | nil => exact List.not_mem_nil
  | cons e es ih =>
    obtain ⟨now, then'⟩ := running_cons running
    intro hm
    obtain first | later := List.mem_append.1 hm
    · have told : s.command? e = some .shutdown := Option.mem_toList.1 first
      cases e with
      | turn inbox =>
        obtain ⟨l, _, tells⟩ := Option.bind_eq_some_iff.1 told
        exact ne_shutdown tells rfl
      | shutDown => exact now.1 rfl
      | stop => exact now.2 rfl
      | _ => cases told
    · exact ih then' later

/-- A sound room without members is as at the start. -/
lemma eq_initial_of_nobody {r : Room} (sd : r.Sound) (nobody : r.members = []) : r = .initial := by
  have odd : r.session.seats.odd = none := by
    cases odd : r.session.seats.odd with
    | none => rfl
    | some c =>
      have registered := sd.seatedRegistered c (Seats.isSeated_iff.2 (.inl odd))
      rw [Room.isRegistered, nobody] at registered
      cases registered
  have session := sd.session.eq_initial odd
  have isOpen := sd.isOpen
  obtain ⟨_, _, _⟩ := r
  dsimp only at nobody session isOpen
  rw [nobody, session, isOpen]
  rfl

/-- The first two clients to ask for seats in an empty room are seated as odd and as even, if they
are the next two who come to the server. -/
lemma seatings_of_two {s : Server} {later : List ServerEvent} {rest : List Inbox} (sd : s.Sound)
    (nb : s.Numbered) (running : .shutDown ∉ later ∧ .stop ∉ later)
    (stay : Room.initial.PlayersStay (s.commands later))
    (ask : inboxesOf (s.commands later) = s.links.length :: (s.links.length + 1) :: rest) :
    Room.initial.seatings (s.commands later) = [(⟨s.next⟩, .odd), (⟨s.next + 1⟩, .even)] := by
  have down := shutdown_not_mem_commands (s := s) running
  have number : ∀ {c : Conn} {i : Inbox}, .connect c i ∈ s.commands later →
      c = ⟨1 + UInt64.ofNat i⟩ := by
    intro c i hm
    obtain ⟨l, h, rfl⟩ := connect_mem_commands sd running hm
    exact (nb.run later).conns i l h
  -- the commands are cut at the first two that bring an inbox
  obtain ⟨first, cmd, others, split, before, brings, ask'⟩ := List.filterMap_eq_cons_iff.1 ask
  obtain ⟨second, cmd', last, rfl, between, brings', _⟩ := List.filterMap_eq_cons_iff.1 ask'
  obtain ⟨a, rfl⟩ := Command.eq_connect_of_inbox? brings
  obtain ⟨b, rfl⟩ := Command.eq_connect_of_inbox? brings'
  have memA : .connect a s.links.length ∈ s.commands later := by
    rw [split]
    exact List.mem_append_right _ List.mem_cons_self
  have memB : .connect b (s.links.length + 1) ∈ s.commands later := by
    rw [split]
    exact List.mem_append_right _ (.tail _ (List.mem_append_right _ List.mem_cons_self))
  have ha : a = ⟨s.next⟩ := by rw [number memA, nb.next]
  have hb : b = ⟨s.next + 1⟩ := by
    rw [number memB, nb.next, UInt64.ofNat_add, UInt64.add_assoc]
    rfl
  have ne : a ≠ b := by
    rw [ha, hb]
    simp
  obtain ⟨seatings, _⟩ := Room.next_game Room.sound_initial rfl down stay
  rw [split] at down
  obtain ⟨newcomers, two⟩ := Room.newcomers_of_two ne down before between
  rw [seatings, split, two, ha, hb]
  exact congrArg (_ :: _ :: ·) List.zip_nil_right

/-- In every run of a server without a shutdown: the handlers can be let settle by turns alone, and
are then at rest. Once they are at rest, the room counts as many connections as there are clients
that have been seated and have not left. If there is none, the room is as at the beginning and looks
so; whatever comes then, the first two newcomers are seated as odd and as even as long as players
stay, and these are the next two clients to be accepted if they are the first to ask. -/
theorem no_connection_is_leaked {s : Server} (running : .shutDown ∉ es ∧ .stop ∉ es)
    (reached : (initial idle).run es = s) :
    (∃ more, AreTurns more ∧ s.settleAll = s.run more ∧ ∀ l ∈ s.settleAll.links, l.IsAtRest) ∧
    ((∀ l ∈ s.links, l.IsAtRest) →
      s.snapshot = .ok s.room.look ∧
      s.room.look.connections = (List.range s.links.length).countP ((initial idle).stays es) ∧
      ((∀ i < s.links.length, (initial idle).stays es i = false) →
        s.room = .initial ∧
        s.snapshot = .ok ⟨.waiting, .empty, none, none, false, .idle, 0, 0⟩ ∧
        ∀ later, .shutDown ∉ later ∧ .stop ∉ later → s.room.PlayersStay (s.commands later) →
          s.room.seatings (s.commands later) =
            (s.room.newcomers (s.commands later)).zip [.odd, .even] ∧
          ∀ rest, inboxesOf (s.commands later) = s.links.length :: (s.links.length + 1) :: rest →
            s.room.seatings (s.commands later) = [(⟨s.next⟩, .odd), (⟨s.next + 1⟩, .even)])) := by
  obtain rfl := reached
  have sd := (sound_initial idle).run running
  have nb := (numbered_initial idle).run es
  refine ⟨settleAll_rest _, fun rest => ?_⟩
  have looks : ((initial idle).run es).snapshot = .ok ((initial idle).run es).room.look := by
    rw [snapshot, sd.room.isOpen]
    rfl
  have members := members_perm running rest
  refine ⟨looks, ?_, fun left => ?_⟩
  · rw [List.countP_eq_length_filter, ← members.length_eq, List.length_map]
    rfl
  · have nobody : ((initial idle).run es).room.members = [] := by
      rw [List.filter_eq_nil_iff.2 (fun i hi => by simp [left i (List.mem_range.1 hi)])] at members
      exact List.map_eq_nil_iff.1 members.eq_nil
    have anew := eq_initial_of_nobody sd.room nobody
    refine ⟨anew, by rw [looks, anew]; rfl, fun later running' stay => ?_⟩
    rw [anew] at stay ⊢
    have down := shutdown_not_mem_commands (s := (initial idle).run es) running'
    exact ⟨(Room.next_game Room.sound_initial rfl down stay).1,
      fun _ ask => seatings_of_two sd nb running' stay ask⟩

/-- Three clients come, and somebody who is no client. The first one sends bytes that are no
request, the second one probes, and the third one is turned away. The first one drops the
connection, and the second one is given up. -/
def emptiedTable : List ServerEvent :=
  [.arrive, .stray, .arrive, .arrive, .turn 0, .turn 1, .turn 2, .signal 0 (.frame (.text "")),
    .signal 1 (.ping [1]), .turn 1, .turn 0, .turn 0, .signal 0 .abort, .turn 0, .turn 0,
    .expire 1, .turn 1]

/-- The table is as at the beginning after that, and the next two clients play. -/
theorem no_connection_is_leaked_emptiedTable :
    (.shutDown ∉ emptiedTable ∧ .stop ∉ emptiedTable) ∧
    (∀ l ∈ ((initial (some ⟨1, 0⟩)).run emptiedTable).links, l.IsAtRest) ∧
    (∀ i < 3, (initial (some ⟨1, 0⟩)).stays emptiedTable i = false) ∧
    ((initial (some ⟨1, 0⟩)).run emptiedTable).snapshot =
      .ok ⟨.waiting, .empty, none, none, false, .idle, 0, 0⟩ ∧
    ((initial (some ⟨1, 0⟩)).run emptiedTable).room.seatings
        (((initial (some ⟨1, 0⟩)).run emptiedTable).commands [.arrive, .arrive, .turn 3, .turn 4]) =
      [(⟨4⟩, .odd), (⟨5⟩, .even)] := by
  have running : .shutDown ∉ emptiedTable ∧ .stop ∉ emptiedTable := by decide
  obtain ⟨-, settled⟩ := @no_connection_is_leaked (some ⟨1, 0⟩) _ _ running rfl
  have rest : ∀ l ∈ ((initial (some ⟨1, 0⟩)).run emptiedTable).links, l.IsAtRest := by
    decide +kernel
  have three : ((initial (some ⟨1, 0⟩)).run emptiedTable).links.length = 3 := by decide +kernel
  have next : ((initial (some ⟨1, 0⟩)).run emptiedTable).next = 4 := by decide +kernel
  have left : ∀ i < 3, (initial (some ⟨1, 0⟩)).stays emptiedTable i = false := by decide +kernel
  obtain ⟨-, -, empty⟩ := settled rest
  rw [three, next] at empty
  obtain ⟨anew, looks, later⟩ := empty left
  have commands : ((initial (some ⟨1, 0⟩)).run emptiedTable).commands
      [.arrive, .arrive, .turn 3, .turn 4] = [.connect ⟨4⟩ 3, .connect ⟨5⟩ 4] := by
    decide +kernel
  obtain ⟨-, two⟩ := later [.arrive, .arrive, .turn 3, .turn 4] (by decide)
    (by rw [commands, anew]; exact ⟨rfl, rfl, trivial⟩)
  exact ⟨running, rest, left, looks, two [] (by rw [commands]; rfl)⟩

end Leaks

end Server

end ParityDuel
