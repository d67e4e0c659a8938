import ParityDuel.Proofs.Office.Histories
import ParityDuel.Proofs.Server.Identities

/-!
# Identities at an office

The handlers of an office call their commands in turn as well: as long as numbers of connections
last, what is called is of the kind of `Room.Interleaved` (`interleaved_calls`), in the order of the
calls. A handler that waits for an answer is counted with those that are seated as soon as its
request is called, if it will be given the seat (`Covers`), since what it calls next waits behind
the request.
-/

namespace ParityDuel

namespace Room

/-- What a room replies to commands, it replies to the first ones and then to the others. -/
lemma dialogue_append (r : Room) (cs cs' : List Command) :
    r.dialogue (cs ++ cs') = r.dialogue cs ++ (r.run cs).1.dialogue cs' := by
  induction cs generalizing r with
  | nil => rfl
  | cons cmd cs ih => rw [List.cons_append, dialogue, dialogue, ih, run_cons]; rfl

/-- A room replies to what it is told. -/
lemma mem_of_mem_dialogue {r : Room} {cs : List Command} {cmd : Command} {reply : Reply}
    (hm : (cmd, reply) ∈ r.dialogue cs) : cmd ∈ cs := by
  obtain ⟨before, after, rfl, _⟩ := split_of_mem_dialogue hm
  exact List.mem_append_right _ List.mem_cons_self

end Room

namespace Link

variable {l l' : Link} {sig : Option Signal} {hearing : Option Hearing}
  {exchange : Option (Command × Reply)}

/-- Whatever happens to a link, its handler has a seat afterwards only if it had one before and has
not reported, or if it has been given one. -/
lemma Moves.isAdmitted (mv : l.Moves l' sig hearing exchange) (gd : l.handler.IsGuarded)
    (admitted : l'.handler.isAdmitted = true) :
    l.handler.isAdmitted = true ∧
        (∀ reply, exchange ≠ some (.disconnect l.handler.conn, reply)) ∨
      ∃ role, exchange = some (.connect l.handler.conn l.handler.inbox, .seated role) := by
  cases mv with
  | writes is =>
    rw [putAll_handler] at admitted
    exact .inl ⟨admitted, nofun⟩
  | signalled sig => exact .inl ⟨admitted, nofun⟩
  | gaveUp silent =>
    have reading := (isSilent_iff.1 silent).1
    exact .inl ⟨by rw [Handler.isAdmitted, reading], nofun⟩
  | @spoke cmd reply is told admits =>
    obtain ⟨had, stays⟩ | ⟨rfl, taken⟩ := Handler.isAdmitted_resume gd told admitted
    · exact .inl ⟨had, fun _ leaves => stays (Prod.mk.inj (Option.some.inj leaves)).1⟩
    · cases admits with
      | seated => exact .inr ⟨_, rfl⟩
      | turnedAway => cases taken
  | heard reading _ => exact .inl ⟨by rw [Handler.isAdmitted, reading], nofun⟩

/-- What a handler is told about, it has had to tell. -/
lemma Moves.command? {cmd : Command} {reply : Reply}
    (mv : l.Moves l' sig hearing (some (cmd, reply))) : l.handler.command? = some cmd := by
  cases mv with
  | spoke is told _ => exact told

end Link

namespace Office

variable {o : Office} {i j : Inbox} {e : OfficeEvent} {es : List OfficeEvent} {p p' : Post}
  {cmd : Command} {idle : Option Span} {cs : List Command} {ms ms' : List Member}

/-- The handlers that have been given a seat and have not reported, and those that have asked for
one and will get it, are among those of an interleaving. -/
def Covers (o : Office) (cs : List Command) (ms : List Member) : Prop :=
  ∀ (i : Inbox) (p : Post), o.posts[i]? = some p →
    (p.link.handler.isAdmitted = true ∨ p.link.handler.progress = .seating ∧
      ∃ role, (.connect p.link.handler.conn i, .seated role) ∈ Room.initial.dialogue cs) →
    (⟨p.link.handler.conn, i⟩ : Member) ∈ ms

/-- What a handler has been told of its request is what the room replies to it in its turn. -/
lemma mem_dialogue {reply : Reply} (hm : (cmd, reply) ∈ (initial idle).exchanges i es)
    (awaited : cmd.isAwaited = true) :
    (cmd, reply) ∈ Room.initial.dialogue ((initial idle).calls es) := by
  obtain ⟨_, cs, calls, _, answers⟩ := room_run idle es
  obtain given | ⟨free, _⟩ := exchanges_inv hm
  · rw [answers] at given
    rw [calls, Room.dialogue_append]
    exact List.mem_append_left _ (Room.mem_answers_inv given).1
  · rw [awaited] at free
    cases free

/-- Who has a seat after an event had it before and has not reported, or else has asked for one and
is given it in its turn, as who still waits for one will be. -/
lemma seated_or_asked {l' : Link} (h : ((initial idle).run es).posts[i]? = some p)
    (mv : p.link.Moves l' (((initial idle).run es).signal? i e)
      (((initial idle).run es).hearing? i e) (((initial idle).run es).exchange? i e))
    (covered : l'.handler.isAdmitted = true ∨ l'.handler.progress = .seating ∧
      ∃ role, (.connect p.link.handler.conn i, .seated role) ∈
        Room.initial.dialogue ((initial idle).calls (es ++ [e]))) :
    (p.link.handler.isAdmitted = true ∧ ∀ reply, ((initial idle).run es).exchange? i e ≠
      some (.disconnect p.link.handler.conn, reply)) ∨
    p.link.handler.progress = .seating ∧
      ∃ role, (.connect p.link.handler.conn i, .seated role) ∈
        Room.initial.dialogue ((initial idle).calls (es ++ [e])) := by
  have history := history_run h
  obtain admitted | ⟨seating, waits⟩ := covered
  · obtain had | ⟨role, given⟩ := mv.isAdmitted history.guarded admitted
    · exact .inl had
    · rw [given] at mv
      rw [history.inbox] at mv given
      have seated : (.connect p.link.handler.conn i, .seated role) ∈
          (initial idle).exchanges i (es ++ [e]) := by
        rw [exchanges_concat, given]
        exact List.mem_append_right _ List.mem_cons_self
      exact .inr ⟨(Handler.isAwaited_iff mv.command?).1 rfl, role, mem_dialogue seated rfl⟩
  · refine .inr ⟨?_, waits⟩
    by_contra busy
    exact mv.ne_seating (.inl busy) seating

/-- Those are covered after an event who were covered and have not reported, and those whose request
is called by it, if they will be given a seat. -/
lemma Covers.step
    (cv : ((initial idle).run es).Covers ((initial idle).calls es) ms)
    (keeps : ∀ (j : Inbox) (k : Post), ((initial idle).run es).posts[j]? = some k →
      (∀ reply, ((initial idle).run es).exchange? j e ≠
        some (.disconnect k.link.handler.conn, reply)) →
      (⟨k.link.handler.conn, j⟩ : Member) ∈ ms → (⟨k.link.handler.conn, j⟩ : Member) ∈ ms')
    (takes : ∀ (j : Inbox) (k : Post) (role : Role),
      ((initial idle).run es).posts[j]? = some k →
      .connect k.link.handler.conn j ∈ ((initial idle).run es).called e →
      (.connect k.link.handler.conn j, .seated role) ∈
        Room.initial.dialogue ((initial idle).calls (es ++ [e])) →
      (⟨k.link.handler.conn, j⟩ : Member) ∈ ms') :
    (((initial idle).run es).step e).Covers ((initial idle).calls (es ++ [e])) ms' := by
  intro j p' h' covered
  have calls := calls_concat (initial idle) es e
  obtain ⟨p, h, st⟩ | ⟨none, rfl, _, rfl⟩ := posts_step_inv h'
  · have mv := st.moves
    rw [mv.same.1] at covered ⊢
    obtain ⟨admitted, stays⟩ | ⟨seating, role, waits⟩ := seated_or_asked h mv covered
    · exact keeps j p h stays (cv j p h (.inl admitted))
    · by_cases new : .connect p.link.handler.conn j ∈ ((initial idle).run es).called e
      · exact takes j p role h new waits
      · rw [calls, Room.dialogue_append] at waits
        obtain old | later := List.mem_append.1 waits
        · refine keeps j p h ?_ (cv j p h (.inr ⟨seating, role, old⟩))
          intro reply leaves
          rw [leaves] at mv
          have told := mv.command?
          rw [Handler.command?, seating] at told
          cases told
        · exact absurd (Room.mem_of_mem_dialogue later) new
  · obtain admitted | ⟨_, role, waits⟩ := covered
    · cases admitted
    · -- nobody has asked for a seat through the inbox of a client that has just come
      have asked := Room.mem_of_mem_dialogue waits
      rw [calls] at asked
      obtain ⟨k, hk, _⟩ := asker_of_mem ((List.mem_append.1 asked).resolve_right List.not_mem_nil)
      rw [none] at hk
      cases hk

/-- An event by which nothing is called but a frame or a shutdown leaves those covered who were. -/
lemma Covers.of_idle (cv : ((initial idle).run es).Covers ((initial idle).calls es) ms)
    (nobody : ∀ c i, .connect c i ∉ ((initial idle).run es).called e) :
    (((initial idle).run es).step e).Covers ((initial idle).calls (es ++ [e])) ms := by
  apply cv.step
  · intro j k _ _ hm
    exact hm
  · intro j k _ _ called _
    exact absurd called (nobody _ _)

/-- Nobody has asked for the connection of a handler whose own request has not been called. -/
lemma connect_not_mem_calls (few : ((initial idle).run es).posts.length < 2 ^ 64)
    (h : ((initial idle).run es).posts[i]? = some p) (seating : p.link.handler.progress = .seating)
    (fresh : .connect p.link.handler.conn i ∉ ((initial idle).run es).desk.waiting) (j : Inbox) :
    .connect p.link.handler.conn j ∉ (initial idle).calls es := by
  intro hm
  obtain ⟨q, hq, same, asked⟩ := asker_of_mem hm
  obtain rfl := post_unique few h hq same
  obtain rfl := Option.some.inj (h.symm.trans hq)
  obtain busy | waits := asked
  · exact busy seating
  · exact fresh waits

/-- A handler that leaves is told about its report as soon as it has called it. -/
lemma exists_exchange_of_report (few : ((initial idle).run es).posts.length < 2 ^ 64)
    (h : ((initial idle).run es).posts[i]? = some p) (leaving : p.link.handler.progress = .leaving)
    (called : ((initial idle).run es).called e = [.disconnect p.link.handler.conn]) :
    ∃ reply, ((initial idle).run es).exchange? i e =
      some (.disconnect p.link.handler.conn, reply) := by
  have told := exchange_of_busy (room_run idle es).1 h (isOwn few h e) (by simp [leaving])
  rw [called] at told
  cases exchange : ((initial idle).run es).exchange? i e with
  | none => simp [exchange, Command.sender?] at told
  | some x =>
    obtain ⟨c, reply⟩ := x
    obtain rfl : c = .disconnect p.link.handler.conn := by
      simpa [exchange, Command.sender?] using told
    exact ⟨reply, rfl⟩

/-- What the handler of a post calls next, it calls in turn. -/
lemma turn_of_tells (few : ((initial idle).run es).posts.length < 2 ^ 64)
    (cv : ((initial idle).run es).Covers ((initial idle).calls es) ms)
    (h : ((initial idle).run es).posts[i]? = some p)
    (told : p.link.handler.command? = some cmd)
    (called : ((initial idle).run es).called e = [cmd])
    (fresh : ¬ (cmd.isAwaited = true ∧ cmd ∈ ((initial idle).run es).desk.waiting)) :
    ∃ ms', Room.Turn ((initial idle).calls es) ms cmd ms' ∧
      (((initial idle).run es).step e).Covers ((initial idle).calls (es ++ [e])) ms' := by
  cases Handler.tells_of_command? told with
  | asks progress =>
    have new := connect_not_mem_calls few h progress fun waits => by
      rw [(history_run h).inbox] at fresh
      exact fresh ⟨rfl, waits⟩
    have own : ∀ (j : Inbox) (c : Conn), .connect c j ∈ ((initial idle).run es).called e →
        c = p.link.handler.conn ∧ j = p.link.handler.inbox := by
      intro j c hm
      rw [called] at hm
      exact Command.connect.inj (List.mem_singleton.1 hm)
    obtain ⟨role, reply⟩ | ⟨refusal, reply⟩ :=
      (Room.initial.run ((initial idle).calls es)).1.reply_connect p.link.handler.conn
        p.link.handler.inbox
    · refine ⟨_, .seated new reply, ?_⟩
      apply cv.step
      · intro j k _ _ hm
        exact List.mem_append_left _ hm
      · intro j k _ hk asks _
        obtain ⟨conn, inbox⟩ := own j _ asks
        rw [conn, inbox]
        exact List.mem_append_right _ (List.mem_singleton_self _)
    · refine ⟨ms, .turnedAway new reply, ?_⟩
      apply cv.step
      · intro j k _ _ hm
        exact hm
      · intro j k role hk asks waits
        obtain ⟨conn, inbox⟩ := own j _ asks
        rw [calls_concat, called, Room.dialogue_concat, reply] at waits
        obtain old | now := List.mem_append.1 waits
        · rw [conn] at old
          exact absurd (Room.mem_of_mem_dialogue old) (new j)
        · cases (Prod.mk.inj (List.mem_singleton.1 now)).2
  | passesOn progress =>
    refine ⟨ms, .passesOn (cv i p h (.inl (by rw [Handler.isAdmitted, progress]))), ?_⟩
    apply cv.of_idle
    simp [called]
  | reports progress =>
    refine ⟨_, .reports (cv i p h (.inl (by rw [Handler.isAdmitted, progress]))), ?_⟩
    apply cv.step
    · intro j k hk stays hm
      refine List.mem_filter.2 ⟨hm, decide_eq_true ?_⟩
      intro same
      obtain ⟨conn, rfl⟩ := Member.mk.inj same
      obtain rfl := Option.some.inj (h.symm.trans hk)
      obtain ⟨reply, reported⟩ := exists_exchange_of_report few h progress called
      exact stays reply reported
    · intro j k _ _ asks _
      rw [called] at asks
      cases List.mem_singleton.1 asks

/-- As long as numbers last, the handlers of an office call commands about connections of their own.
-/
lemma interleaved_calls (few : ((initial idle).run es).posts.length < 2 ^ 64) :
    ∃ ms, Room.Interleaved ((initial idle).calls es) ms ∧
      ((initial idle).run es).Covers ((initial idle).calls es) ms := by
  induction es using List.reverseRecOn with
  | nil => exact ⟨[], .nil, fun _ _ h => by cases h⟩
  | append_singleton es e ih =>
    rw [run_concat] at few ⊢
    have fewer := Nat.lt_of_le_of_lt (length_le_step _ e) few
    obtain ⟨ms, il, cv⟩ := ih fewer
    cases called : ((initial idle).run es).called e with
    | nil =>
      refine ⟨ms, ?_, cv.of_idle fun c i asks => ?_⟩
      · rw [calls_concat, called, List.append_nil]
        exact il
      · rw [called] at asks
        cases asks
    | cons cmd rest =>
      obtain ⟨alone, told⟩ := called_inv (called ▸ List.mem_cons_self)
      rw [calls_concat, alone]
      obtain rfl | ⟨i, p, _, h, tells, fresh⟩ := told
      · refine ⟨ms, il.concat .shutsDown, ?_⟩
        have cv' := cv.of_idle (e := e) fun c i asks => ?_
        · rwa [calls_concat, alone] at cv'
        · rw [alone] at asks
          cases List.mem_singleton.1 asks
      · obtain ⟨ms', tn, cv'⟩ := turn_of_tells fewer cv h tells alone fresh
        rw [calls_concat, alone] at cv'
        exact ⟨ms', il.concat tn, cv'⟩

/-- In every run of an office to which fewer than 2^64 clients have come, however long commands wait
at the desk: no two clients have one connection, and no handler is ever told that its connection is
there already. While the room is open, a frame that it takes finds its sender registered, and a
report takes out the registration with the inbox that its sender has brought, and no other. -/
theorem connections_stay_apart (few : ((initial idle).run es).posts.length < 2 ^ 64) :
    (((initial idle).run es).posts.map (·.link.handler.conn)).Nodup ∧
    (∃ ms, Room.Interleaved ((initial idle).calls es) ms) ∧
    (∀ (i : Inbox) (cmd : Command) (c : Conn),
      (cmd, .refused (.alreadyConnected c)) ∉ (initial idle).exchanges i es) ∧
    ∀ (before after : List Command) (cmd : Command) (r : Room),
      (initial idle).calls es = before ++ cmd :: after → (Room.initial.run before).1 = r →
      r.isClosed = false →
      (∀ c data, cmd = .frame c data → r.isRegistered c = true) ∧
      (∀ c, cmd = .disconnect c → ∃ inbox, .connect c inbox ∈ before ∧
        (⟨c, inbox⟩ : Member) ∈ r.members ∧
        (r.step cmd).1.members = r.members.filter (· ≠ ⟨c, inbox⟩)) := by
  obtain ⟨ms, il, _⟩ := interleaved_calls few
  refine ⟨?_, ⟨ms, il⟩, ?_, ?_⟩
  · have apart := (numbered_run idle es).nodup_conns (by rwa [front, List.length_map])
    rwa [front, List.map_map] at apart
  · intro i cmd c hm
    cases awaited : cmd.isAwaited with
    | true =>
      obtain ⟨before, after, split, reply⟩ := Room.split_of_mem_dialogue (mem_dialogue hm awaited)
      cases cmd with
      | connect d inbox => exact (il.own_registration split).1 d inbox c rfl reply
      | snapshot =>
        cases closed : (Room.initial.run before).1.isClosed <;>
          simp [Room.step, closed, Room.refuseAll] at reply
      | frame d data => cases awaited
      | disconnect d => cases awaited
      | shutdown => cases awaited
    | false =>
      obtain given | ⟨_, none | late⟩ := exchanges_inv hm
      · obtain ⟨_, cs, _, _, answers⟩ := room_run idle es
        rw [answers] at given
        exact absurd awaited (by simp [(Room.mem_answers_inv given).2])
      · cases none
      · cases late
  · rintro before after cmd r split rfl isOpen
    exact (il.own_registration split).2 isOpen

end Office

end ParityDuel
