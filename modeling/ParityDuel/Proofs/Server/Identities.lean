import ParityDuel.Proofs.Server.Tellings

/-!
# Identities

Every handler has a connection of its own, and tells the room in turn that the connection comes,
what it sends and that it is over. `Room.Interleaved` lists the commands of such handlers in any
order in which a room may take them, however they have waited before. The room then has registered
the connections that have been seated and have not been reported, with the inboxes of their own
handlers (`Interleaved.members_eq`), so that no handler meets what another one has left behind. As
long as numbers of connections last, the handlers of a server are of this kind
(`interleaved_commands`).
-/

namespace ParityDuel

namespace Room

/-- What handlers with connections of their own may tell the room next, when it has taken commands
by which the connections `ms` have been seated and are not reported yet. -/
inductive Turn (cs : List Command) (ms : List Member) : Command → List Member → Prop where
  | seated {c inbox role} :
    (∀ j, .connect c j ∉ cs) →
    ((initial.run cs).1.step (.connect c inbox)).2.1 = .seated role →
    Turn cs ms (.connect c inbox) (ms ++ [⟨c, inbox⟩])
  | turnedAway {c inbox e} :
    (∀ j, .connect c j ∉ cs) →
    ((initial.run cs).1.step (.connect c inbox)).2.1 = .refused e →
    Turn cs ms (.connect c inbox) ms
  | passesOn {c inbox data} :
    (⟨c, inbox⟩ : Member) ∈ ms →
    Turn cs ms (.frame c data) ms
  | reports {c inbox} :
    (⟨c, inbox⟩ : Member) ∈ ms →
    Turn cs ms (.disconnect c) (ms.filter (· ≠ ⟨c, inbox⟩))
  | looks :
    Turn cs ms .snapshot ms
  | shutsDown :
    Turn cs ms .shutdown ms

/-- Commands of handlers with connections of their own, and the connections that have been seated by
them and are not reported yet. -/
inductive Interleaved : List Command → List Member → Prop where
  | nil :
    Interleaved [] []
  | concat {cs ms cmd ms'} :
    Interleaved cs ms →
    Turn cs ms cmd ms' →
    Interleaved (cs ++ [cmd]) ms'

variable {r : Room} {cs : List Command} {ms ms' : List Member} {cmd : Command} {c : Conn}
  {inbox : Inbox}

lemma run_concat (r : Room) (cs : List Command) (cmd : Command) :
    (r.run (cs ++ [cmd])).1 = ((r.run cs).1.step cmd).1 := by
  rw [run_append]
  rfl

/-- A room that takes commands has taken all before. -/
lemma isOpen_of_step (isOpen : (r.step cmd).1.isClosed = false) : r.isClosed = false := by
  cases closed : r.isClosed with
  | false => rfl
  | true =>
    rw [step_of_closed closed, closed] at isOpen
    cases isOpen

/-- A room that is open is sound. -/
lemma sound_of_isOpen (isOpen : (initial.run cs).1.isClosed = false) : (initial.run cs).1.Sound :=
  (isClosed_or_sound cs).resolve_left (by rw [isOpen]; exact Bool.false_ne_true)

/-- Where no connection is registered twice, a connection is taken out with one inbox. -/
lemma filter_conn_eq (nodup : (ms.map Member.conn).Nodup) (hm : (⟨c, inbox⟩ : Member) ∈ ms) :
    ms.filter (·.conn ≠ c) = ms.filter (· ≠ ⟨c, inbox⟩) := by
  apply List.filter_congr
  intro m there
  rw [decide_eq_decide]
  apply not_congr
  constructor
  · intro same
    exact List.inj_on_of_nodup_map nodup there hm same
  · rintro rfl
    rfl

/-- Whoever asks for a seat in turn has not asked before. -/
lemma Turn.isNew (tn : Turn cs ms (.connect c inbox) ms') : ∀ j, .connect c j ∉ cs := by
  cases tn with
  | seated new _ => exact new
  | turnedAway new _ => exact new

/-- A connection that is not reported yet has asked for a seat. -/
lemma Interleaved.connect_mem (il : Interleaved cs ms) (hm : (⟨c, inbox⟩ : Member) ∈ ms) :
    .connect c inbox ∈ cs := by
  induction il with
  | nil => cases hm
  | concat _ tn ih =>
    cases tn with
    | seated _ _ =>
      obtain old | new := List.mem_append.1 hm
      · exact List.mem_append_left _ (ih old)
      · obtain ⟨rfl, rfl⟩ := Member.mk.inj (List.mem_singleton.1 new)
        exact List.mem_append_right _ (List.mem_singleton_self _)
    | turnedAway _ _ => exact List.mem_append_left _ (ih hm)
    | passesOn _ => exact List.mem_append_left _ (ih hm)
    | reports _ => exact List.mem_append_left _ (ih (List.mem_filter.1 hm).1)
    | looks => exact List.mem_append_left _ (ih hm)
    | shutsDown => exact List.mem_append_left _ (ih hm)

/-- An open room has registered the connections that have been seated and are not reported yet, with
the inboxes of their handlers. -/
lemma Interleaved.members_eq (il : Interleaved cs ms)
    (isOpen : (initial.run cs).1.isClosed = false) : (initial.run cs).1.members = ms := by
  induction il with
  | nil => rfl
  | @concat cs ms cmd ms' _ tn ih =>
    rw [run_concat] at isOpen ⊢
    have before := isOpen_of_step isOpen
    have same := ih before
    cases tn with
    | seated _ reply =>
      obtain ⟨e, refused, _⟩ | ⟨_, _, members⟩ := members_connect before _ _
      · rw [reply] at refused
        cases refused
      · rw [members, same]
    | turnedAway _ reply =>
      obtain ⟨_, _, members⟩ | ⟨role, seated, _⟩ := members_connect before _ _
      · rw [members, same]
      · rw [reply] at seated
        cases seated
    | passesOn _ => rw [members_frame before, same]
    | @reports c inbox hm =>
      have nodup := (sound_of_isOpen before).connsNodup
      rw [members_disconnect before, same]
      rw [same] at nodup
      exact filter_conn_eq nodup hm
    | looks =>
      rw [step, before]
      exact same
    | shutsDown =>
      rw [step_shutdown before] at isOpen
      cases isOpen

/-- Those who are in the room are registered there. -/
lemma Interleaved.isRegistered (il : Interleaved cs ms) (hm : (⟨c, inbox⟩ : Member) ∈ ms)
    (isOpen : (initial.run cs).1.isClosed = false) :
    (initial.run cs).1.isRegistered c = true := by
  rw [isRegistered_iff, il.members_eq isOpen]
  exact ⟨inbox, hm⟩

/-- A connection that asks for a seat for the first time is not taken for one that is there. -/
lemma Interleaved.reply_ne_alreadyConnected (il : Interleaved cs ms)
    (new : ∀ j, .connect c j ∉ cs) (inbox : Inbox) (d : Conn) :
    ((initial.run cs).1.step (.connect c inbox)).2.1 ≠ .refused (.alreadyConnected d) := by
  cases isClosed : (initial.run cs).1.isClosed with
  | true =>
    rw [step_of_closed isClosed]
    nofun
  | false =>
    have unknown : (initial.run cs).1.isRegistered c = false := by
      rw [← Bool.not_eq_true, isRegistered_iff, il.members_eq isClosed]
      rintro ⟨j, hm⟩
      exact new j (il.connect_mem hm)
    cases hc : (initial.run cs).1.session.connect c with
    | error e =>
      obtain ⟨rfl, _⟩ := Session.connect_eq_error_iff.1 hc
      rw [step_connect_of_error inbox isClosed unknown hc]
      nofun
    | ok t =>
      obtain ⟨role, s, ls⟩ := t
      rw [step_connect_of_ok inbox isClosed unknown hc]
      nofun

/-- A report takes out the registration of the handler that reports, and no other. -/
lemma Interleaved.members_reported (il : Interleaved cs ms) (hm : (⟨c, inbox⟩ : Member) ∈ ms)
    (isOpen : (initial.run cs).1.isClosed = false) :
    (⟨c, inbox⟩ : Member) ∈ (initial.run cs).1.members ∧
      ((initial.run cs).1.step (.disconnect c)).1.members =
        (initial.run cs).1.members.filter (· ≠ ⟨c, inbox⟩) := by
  have nodup := (sound_of_isOpen isOpen).connsNodup
  have there : (⟨c, inbox⟩ : Member) ∈ (initial.run cs).1.members := by
    rw [il.members_eq isOpen]
    exact hm
  rw [members_disconnect isOpen]
  exact ⟨there, filter_conn_eq nodup there⟩

/-- A report is taken as long as the room is open. -/
lemma reply_disconnect (r : Room) (c : Conn) :
    (r.step (.disconnect c)).2.1 = if r.isClosed then .refused .unavailable else .done := by
  cases closed : r.isClosed with
  | true => rw [step_of_closed closed]; rfl
  | false => simp [step, closed]

/-- Every command is told in turn. -/
lemma Interleaved.turn_of_split {before after : List Command} (il : Interleaved cs ms)
    (split : cs = before ++ cmd :: after) :
    ∃ ms₀ ms₁, Interleaved before ms₀ ∧ Turn before ms₀ cmd ms₁ := by
  induction il generalizing after with
  | nil => simp at split
  | @concat cs ms cmd' ms' il tn ih =>
    obtain rfl | ⟨rest, last, rfl⟩ := after.eq_nil_or_concat
    · obtain ⟨rfl, one⟩ := List.append_inj' split rfl
      obtain rfl := List.singleton_inj.1 one
      exact ⟨ms, ms', il, tn⟩
    · rw [List.concat_eq_append, ← List.cons_append, ← List.append_assoc] at split
      obtain ⟨earlier, _⟩ := List.append_inj' split rfl
      exact ih earlier

/-- Every command meets the registration of its own handler, if it meets one. -/
lemma Interleaved.own_registration {before after : List Command} (il : Interleaved cs ms)
    (split : cs = before ++ cmd :: after) :
    (∀ c inbox d, cmd = .connect c inbox →
      ((initial.run before).1.step cmd).2.1 ≠ .refused (.alreadyConnected d)) ∧
    ((initial.run before).1.isClosed = false →
      (∀ c data, cmd = .frame c data → (initial.run before).1.isRegistered c = true) ∧
      (∀ c, cmd = .disconnect c → ∃ inbox, .connect c inbox ∈ before ∧
        (⟨c, inbox⟩ : Member) ∈ (initial.run before).1.members ∧
        ((initial.run before).1.step cmd).1.members =
          (initial.run before).1.members.filter (· ≠ ⟨c, inbox⟩))) := by
  obtain ⟨ms₀, ms₁, il₀, tn⟩ := il.turn_of_split split
  refine ⟨?_, fun isOpen => ⟨?_, ?_⟩⟩
  · rintro c inbox d rfl
    exact il₀.reply_ne_alreadyConnected tn.isNew inbox d
  · rintro c data rfl
    cases tn with
    | passesOn hm => exact il₀.isRegistered hm isOpen
  · rintro c rfl
    cases tn with
    | @reports _ inbox hm => exact ⟨inbox, il₀.connect_mem hm, il₀.members_reported hm isOpen⟩

end Room

namespace Handler

variable {c : Conn} {inbox : Inbox}

/-- Only a handler that leaves reports that its connection has ended. -/
lemma leaving_of_command? {h : Handler} (told : h.command? = some (.disconnect h.conn)) :
    h.progress = .leaving := by
  cases tells_of_command? told with
  | reports progress => exact progress

/-- A handler that leaves has been given a seat. -/
lemma Told.seated_mem {hs : List Hearing} {xs : List (Command × Reply)}
    (td : Told c inbox .leaving hs xs) : ∃ role, (.connect c inbox, .seated role) ∈ xs := by
  cases td with
  | @ended role _ _ _ => exact ⟨role, List.mem_cons_self⟩
  | @shutOut role _ _ => exact ⟨role, List.mem_append_left _ List.mem_cons_self⟩

/-- A handler that has a seat after the reply had one before, and does not leave, or has been given
one. -/
lemma isAdmitted_resume {h : Handler} {cmd : Command} {r : Reply} (gd : h.IsGuarded)
    (told : h.command? = some cmd) (admitted : (h.resume r).isAdmitted = true) :
    h.isAdmitted = true ∧ cmd ≠ .disconnect h.conn ∨
      cmd = .connect h.conn h.inbox ∧ isTaken r = true := by
  obtain ⟨conn, inbox, progress, guard⟩ := h
  cases progress with
  | seating =>
    obtain rfl := Option.some.inj told
    cases taken : isTaken r with
    | true => exact .inr ⟨rfl, rfl⟩
    | false => simp [resume, taken, isAdmitted] at admitted
  | forwarding data =>
    obtain rfl := Option.some.inj told
    exact .inl ⟨rfl, fun same => by cases same⟩
  | leaving =>
    obtain rfl : guard = some .disarmed := gd
    cases admitted
  | reading => cases told
  | finished => cases told

end Handler

namespace Server

variable {s : Server} {i : Inbox} {e : ServerEvent} {es : List ServerEvent} {l l' : Link}
  {sig : Option Signal} {hearing : Option Hearing} {exchange : Option (Command × Reply)}
  {cmd : Command} {idle : Option Span}

/-- Nobody gets a seat but by an answer of the room, and nobody keeps it who reports that the
connection is over. -/
lemma LinkStep.isAdmitted (st : s.LinkStep i l e l' sig hearing exchange)
    (gd : l.handler.IsGuarded) (admitted : l'.handler.isAdmitted = true) :
    l.handler.isAdmitted = true ∧
        (e = .turn i → l.handler.command? ≠ some (.disconnect l.handler.conn)) ∨
      e = .turn i ∧ l.handler.command? = some (.connect l.handler.conn l.handler.inbox) ∧
        Handler.isTaken (s.room.step (.connect l.handler.conn l.handler.inbox)).2.1 = true := by
  cases st with
  | aside other =>
    rw [Link.putAll_handler] at admitted
    exact .inl ⟨admitted, by rintro rfl; exact absurd rfl other⟩
  | signalled sig => exact .inl ⟨admitted, nofun⟩
  | gaveUp silent =>
    have reading := (Link.isSilent_iff.1 silent).1
    exact .inl ⟨by rw [Handler.isAdmitted, reading], nofun⟩
  | stillHeard _ => exact .inl ⟨admitted, nofun⟩
  | spoke told =>
    obtain ⟨had, stays⟩ | ⟨rfl, taken⟩ := Handler.isAdmitted_resume gd told admitted
    · refine .inl ⟨had, fun _ leaves => stays ?_⟩
      exact Option.some.inj (told.symm.trans leaves)
    · exact .inr ⟨rfl, told, taken⟩
  | heard reading _ =>
    refine .inl ⟨by rw [Handler.isAdmitted, reading], ?_⟩
    simp [Handler.command?, reading]
  | waited reading _ =>
    refine .inl ⟨admitted, ?_⟩
    simp [Handler.command?, reading]
  | rested finished =>
    rw [Handler.isAdmitted, finished] at admitted
    cases admitted

/-- The handlers that have been given a seat and have not reported are among those of an
interleaving. -/
def Covers (s : Server) (ms : List Member) : Prop :=
  ∀ (i : Inbox) (l : Link), s.links[i]? = some l → l.handler.isAdmitted = true →
    (⟨l.handler.conn, i⟩ : Member) ∈ ms

/-- Those are covered after an event who were covered, or else have been given a seat by it. -/
lemma Covers.step {ms ms' : List Member} (cv : s.Covers ms) (gd : s.AreGuarded)
    (keeps : ∀ (j : Inbox) (k : Link), s.links[j]? = some k →
      (e = .turn j → k.handler.command? ≠ some (.disconnect k.handler.conn)) →
      (⟨k.handler.conn, j⟩ : Member) ∈ ms → (⟨k.handler.conn, j⟩ : Member) ∈ ms')
    (takes : ∀ (j : Inbox) (k : Link), e = .turn j → s.links[j]? = some k →
      k.handler.command? = some (.connect k.handler.conn k.handler.inbox) →
      Handler.isTaken (s.room.step (.connect k.handler.conn k.handler.inbox)).2.1 = true →
      (⟨k.handler.conn, j⟩ : Member) ∈ ms') :
    (s.step e).Covers ms' := by
  intro j k' h' admitted
  obtain ⟨k, h, st⟩ | ⟨_, _, _, _, rfl⟩ := links_step_inv h'
  · rw [st.same.1]
    obtain ⟨had, stays⟩ | ⟨own, told, taken⟩ := st.isAdmitted (gd j k h) admitted
    · exact keeps j k h stays (cv j k h had)
    · exact takes j k own h told taken
  · cases admitted

/-- An event by which nobody asks for a seat leaves those covered who were. -/
lemma Covers.of_idle {ms : List Member} (cv : s.Covers ms) (gd : s.AreGuarded)
    (idle : ∀ c i, s.command? e ≠ some (.connect c i)) : (s.step e).Covers ms := by
  apply cv.step gd
  · intro j k _ _ hm
    exact hm
  · rintro j k rfl h told _
    exact absurd (by rw [command?, h]; exact told) (idle k.handler.conn k.handler.inbox)

/-- Nobody has asked for the connection of a handler that has not asked for its seat. -/
lemma connect_not_mem_commands (few : ((initial idle).run es).links.length < 2 ^ 64)
    (h : ((initial idle).run es).links[i]? = some l) (seating : l.handler.progress = .seating)
    (j : Inbox) : .connect l.handler.conn j ∉ (initial idle).commands es := by
  intro hm
  obtain ⟨k, hk, same, asked⟩ := asker_of_mem hm
  obtain rfl := ((numbered_initial idle).run es).link_unique few h hk same
  obtain rfl := Option.some.inj (h.symm.trans hk)
  exact asked seating

/-- What the handler of a link tells next, it tells in turn. -/
lemma turn_of_tells {ms : List Member} (few : ((initial idle).run es).links.length < 2 ^ 64)
    (cv : ((initial idle).run es).Covers ms) (h : ((initial idle).run es).links[i]? = some l)
    (told : l.handler.command? = some cmd) :
    ∃ ms', Room.Turn ((initial idle).commands es) ms cmd ms' ∧
      (((initial idle).run es).step (.turn i)).Covers ms' := by
  have tells : ((initial idle).run es).command? (.turn i) = some cmd := by
    rw [command?, h]
    exact told
  cases Handler.tells_of_command? told with
  | asks progress =>
    have new := connect_not_mem_commands few h progress
    obtain ⟨role, reply⟩ | ⟨e, reply⟩ :=
      ((initial idle).run es).room.reply_connect l.handler.conn l.handler.inbox
    · refine ⟨_, .seated new (room_eq idle es ▸ reply), ?_⟩
      apply cv.step (areGuarded_run idle es)
      · intro j k _ _ hm
        exact List.mem_append_left _ hm
      · intro j k own hk _ _
        obtain rfl := ServerEvent.turn.inj own
        obtain rfl := Option.some.inj (h.symm.trans hk)
        rw [inbox_eq h]
        exact List.mem_append_right _ (List.mem_singleton_self _)
    · refine ⟨ms, .turnedAway new (room_eq idle es ▸ reply), ?_⟩
      apply cv.step (areGuarded_run idle es)
      · intro j k _ _ hm
        exact hm
      · intro j k own hk _ taken
        obtain rfl := ServerEvent.turn.inj own
        obtain rfl := Option.some.inj (h.symm.trans hk)
        rw [reply] at taken
        cases taken
  | passesOn progress =>
    refine ⟨ms, .passesOn (cv i l h (by rw [Handler.isAdmitted, progress])), ?_⟩
    apply cv.of_idle (areGuarded_run idle es)
    intro c j asks
    rw [tells] at asks
    cases asks
  | reports progress =>
    refine ⟨_, .reports (cv i l h (by rw [Handler.isAdmitted, progress])), ?_⟩
    apply cv.step (areGuarded_run idle es)
    · intro j k hk stays hm
      refine List.mem_filter.2 ⟨hm, decide_eq_true ?_⟩
      intro same
      obtain ⟨_, rfl⟩ := Member.mk.inj same
      obtain rfl := Option.some.inj (h.symm.trans hk)
      exact stays rfl told
    · intro j k own hk asks _
      obtain rfl := ServerEvent.turn.inj own
      obtain rfl := Option.some.inj (h.symm.trans hk)
      rw [told] at asks
      cases asks

/-- As long as numbers last, the handlers of a server tell the room about connections of their own.
-/
lemma interleaved_commands (few : ((initial idle).run es).links.length < 2 ^ 64) :
    ∃ ms, Room.Interleaved ((initial idle).commands es) ms ∧
      ((initial idle).run es).Covers ms := by
  induction es using List.reverseRecOn with
  | nil => exact ⟨[], .nil, fun _ _ h => by cases h⟩
  | append_singleton es e ih =>
    rw [run_concat] at few ⊢
    rw [commands_concat]
    have fewer := Nat.lt_of_le_of_lt (length_le_step _ e) few
    obtain ⟨ms, il, cv⟩ := ih fewer
    cases told : ((initial idle).run es).command? e with
    | none =>
      rw [Option.toList_none, List.append_nil]
      refine ⟨ms, il, cv.of_idle (areGuarded_run idle es) fun c i asks => ?_⟩
      rw [told] at asks
      cases asks
    | some cmd =>
      rw [Option.toList_some]
      obtain rfl | ⟨i, l, rfl, h, tells⟩ := told_of_command? told
      · exact ⟨ms, il.concat .shutsDown,
          cv.of_idle (areGuarded_run idle es) fun c i asks => by rw [told] at asks; cases asks⟩
      · obtain ⟨ms', tn, cv'⟩ := turn_of_tells fewer cv h tells
        exact ⟨ms', il.concat tn, cv'⟩

/-- As long as numbers last, no handler is told that its connection is there already. -/
lemma alreadyConnected_not_mem_exchanges (few : ((initial idle).run es).links.length < 2 ^ 64)
    (i : Inbox) (cmd : Command) (c : Conn) :
    (cmd, .refused (.alreadyConnected c)) ∉ (initial idle).exchanges i es := by
  intro hm
  obtain ⟨before, e, after, rfl, said⟩ := exists_of_mem_collect hm
  obtain ⟨l, rfl, h, told, reply⟩ := exchange_inv said
  have fewer : ((initial idle).run before).links.length < 2 ^ 64 := by
    apply Nat.lt_of_le_of_lt _ few
    rw [run_append]
    exact length_le_run _ _
  obtain ⟨ms, il, cv⟩ := interleaved_commands fewer
  rw [room_eq] at reply
  obtain ⟨_, tn, _⟩ := turn_of_tells fewer cv h told
  cases Handler.tells_of_command? told with
  | asks _ => exact il.reply_ne_alreadyConnected tn.isNew _ _ reply
  | passesOn _ =>
    rw [Room.reply_frame] at reply
    split at reply <;> cases reply
  | reports _ =>
    rw [Room.reply_disconnect] at reply
    split at reply <;> cases reply

/-- In every run of a server to which fewer than 2^64 clients have come: no two of them have one
connection, and the handlers tell the room about connections of their own (`Room.Interleaved`). No
handler is ever told that its connection is there already. While the room is open, a handler that
has a frame to pass on is registered, and what the report of a handler takes out is the registration
with its own inbox, which the handler has been given when it was seated. The same holds of every
command in every order in which a room may take the commands of such handlers, wherever they have
waited before. -/
theorem connections_never_alias :
    (∀ (idle : Option Span) (es : List ServerEvent) (s : Server),
      (initial idle).run es = s → s.links.length < 2 ^ 64 →
      (s.links.map (·.handler.conn)).Nodup ∧
      (∃ ms, Room.Interleaved ((initial idle).commands es) ms) ∧
      ∀ (i : Inbox) (l : Link), s.links[i]? = some l →
        (∀ cmd c, (cmd, .refused (.alreadyConnected c)) ∉ (initial idle).exchanges i es) ∧
        (s.room.isClosed = false →
          (∀ data, l.handler.command? = some (.frame l.handler.conn data) →
            s.room.isRegistered l.handler.conn = true) ∧
          (l.handler.command? = some (.disconnect l.handler.conn) →
            (∃ role, (.connect l.handler.conn i, .seated role) ∈ (initial idle).exchanges i es) ∧
            (⟨l.handler.conn, i⟩ : Member) ∈ s.room.members ∧
            (s.room.step (.disconnect l.handler.conn)).1.members =
              s.room.members.filter (· ≠ ⟨l.handler.conn, i⟩)))) ∧
    ∀ (cs : List Command) (ms : List Member), Room.Interleaved cs ms →
      ∀ (before after : List Command) (cmd : Command) (r : Room),
        cs = before ++ cmd :: after → (Room.initial.run before).1 = r →
        (∀ c inbox d, cmd = .connect c inbox →
          (r.step cmd).2.1 ≠ .refused (.alreadyConnected d)) ∧
        (r.isClosed = false →
          (∀ c data, cmd = .frame c data → r.isRegistered c = true) ∧
          (∀ c, cmd = .disconnect c → ∃ inbox, .connect c inbox ∈ before ∧
            (⟨c, inbox⟩ : Member) ∈ r.members ∧
            (r.step cmd).1.members = r.members.filter (· ≠ ⟨c, inbox⟩))) := by
  constructor
  · rintro idle es s rfl few
    have nb := (numbered_initial idle).run es
    obtain ⟨ms, il, cv⟩ := interleaved_commands few
    refine ⟨nb.nodup_conns few, ⟨ms, il⟩, fun i l h => ⟨?_, fun isOpen => ⟨?_, ?_⟩⟩⟩
    · exact alreadyConnected_not_mem_exchanges few i
    · intro data told
      obtain ⟨_, tn, _⟩ := turn_of_tells few cv h told
      rw [room_eq] at isOpen ⊢
      cases tn with
      | passesOn hm => exact il.isRegistered hm isOpen
    · intro told
      have leaving := Handler.leaving_of_command? told
      have own := cv i l h (by rw [Handler.isAdmitted, leaving])
      have history := (history_run (s := initial idle) (i := i) rfl h).told
      rw [leaving] at history
      rw [room_eq] at isOpen ⊢
      exact ⟨history.seated_mem, il.members_reported own isOpen⟩
  · rintro cs ms il before after cmd r split rfl
    exact il.own_registration split

/-- Three clients come, and the second one is the first to ask for a seat. The last one to ask is
turned away. The second client sends something, which is heard, and the first one says goodbye. -/
def overtakenTable : List ServerEvent :=
  [.arrive, .arrive, .arrive, .turn 1, .turn 0, .turn 2, .signal 1 (.frame (.text "")), .turn 1,
    .signal 0 .close, .turn 0]

/-- The frame finds its sender registered, and the report takes out no one else. The room takes the
report before the frame as well. -/
theorem connections_never_alias_overtakenTable :
    ((initial none).run overtakenTable).links.length < 2 ^ 64 ∧
    (((initial none).run overtakenTable).links.map (·.handler.conn)).Nodup ∧
    ((initial none).run overtakenTable).room.isRegistered ⟨2⟩ = true ∧
    (((initial none).run overtakenTable).room.step (.disconnect ⟨1⟩)).1.members =
      ((initial none).run overtakenTable).room.members.filter (· ≠ ⟨⟨1⟩, 0⟩) ∧
    Room.Interleaved [.connect ⟨2⟩ 1, .connect ⟨1⟩ 0, .disconnect ⟨1⟩, .frame ⟨2⟩ []]
      [⟨⟨2⟩, 1⟩] ∧
    (Room.initial.run [.connect ⟨2⟩ 1, .connect ⟨1⟩ 0, .disconnect ⟨1⟩]).1.isRegistered ⟨2⟩ =
      true := by
  have few : ((initial none).run overtakenTable).links.length < 2 ^ 64 := by decide +kernel
  have isOpen : ((initial none).run overtakenTable).room.isClosed = false := by decide +kernel
  have leaves : ((initial none).run overtakenTable).links[0]?.map Link.handler =
      some ⟨⟨1⟩, 0, .leaving, some .disarmed⟩ := by
    decide +kernel
  have forwards : ((initial none).run overtakenTable).links[1]?.map Link.handler =
      some ⟨⟨2⟩, 1, .forwarding [], some .armed⟩ := by
    decide +kernel
  have first : Room.Turn [] [] (.connect ⟨2⟩ 1) [⟨⟨2⟩, 1⟩] := .seated nofun rfl
  have second : Room.Turn [.connect ⟨2⟩ 1] [⟨⟨2⟩, 1⟩] (.connect ⟨1⟩ 0) [⟨⟨2⟩, 1⟩, ⟨⟨1⟩, 0⟩] :=
    .seated (by simp) rfl
  have report : Room.Turn [.connect ⟨2⟩ 1, .connect ⟨1⟩ 0] [⟨⟨2⟩, 1⟩, ⟨⟨1⟩, 0⟩]
      (.disconnect ⟨1⟩) [⟨⟨2⟩, 1⟩] :=
    @Room.Turn.reports _ _ _ 0 (by decide)
  have frame : Room.Turn [.connect ⟨2⟩ 1, .connect ⟨1⟩ 0, .disconnect ⟨1⟩] [⟨⟨2⟩, 1⟩]
      (.frame ⟨2⟩ []) [⟨⟨2⟩, 1⟩] :=
    .passesOn (List.mem_singleton_self _)
  have told := (((Room.Interleaved.nil.concat first).concat second).concat report).concat frame
  obtain ⟨server, queue⟩ := connections_never_alias
  obtain ⟨apart, _, alone⟩ := server none overtakenTable _ rfl few
  obtain ⟨l, h, leaver⟩ := Option.map_eq_some_iff.1 leaves
  obtain ⟨k, hk, sender⟩ := Option.map_eq_some_iff.1 forwards
  obtain ⟨_, reports⟩ := (alone 0 l h).2 isOpen
  obtain ⟨passesOn, _⟩ := (alone 1 k hk).2 isOpen
  rw [leaver] at reports
  rw [sender] at passesOn
  obtain ⟨_, here⟩ := queue _ _ told [.connect ⟨2⟩ 1, .connect ⟨1⟩ 0, .disconnect ⟨1⟩] []
    (.frame ⟨2⟩ []) _ rfl rfl
  exact ⟨few, apart, passesOn [] rfl, (reports rfl).2.2, told, (here rfl).1 ⟨2⟩ [] rfl⟩

end Server

end ParityDuel
