import ParityDuel.Proofs.Server.Tellings

/-!
# Ways to part

A handler cannot tell how the bytes it hears have been sent, nor how a client has ended the
connection. Two links are alike (`Link.Alike`) if their handlers will hear the same bytes and then
an end, or none in either. Whatever happens, servers that are the same but for one pair of alike
links stay so (`Alike.run`), so that nobody else sees a difference, neither the room nor the other
clients.
-/

namespace ParityDuel

namespace Link

/-- Two links whose handlers are as far, and will hear the same from now on. -/
structure Alike (l l' : Link) : Prop where
  handler : l'.handler = l.handler
  hears : l.handler.stillReads = true →
    received l'.socket.unread = received l.socket.unread ∧
    isEnded l'.socket.unread = isEnded l.socket.unread

variable {l l' : Link}

/-- A link is like itself. -/
lemma Alike.refl (l : Link) : l.Alike l := ⟨rfl, fun _ => ⟨rfl, rfl⟩⟩

/-- Handlers that will not hear of their clients any more are alike. -/
lemma Alike.of_deaf (handler : l'.handler = l.handler) (deaf : l.handler.stillReads = false) :
    l.Alike l' :=
  ⟨handler, fun reads => absurd (deaf.symm.trans reads) Bool.false_ne_true⟩

/-- Links stay alike when their clients do something that says the same. -/
lemma Alike.signal (al : l.Alike l') {sig sig' : Signal}
    (data : received [sig'] = received [sig]) (last : sig'.isEnd = sig.isEnd) :
    Alike { l with socket := l.socket.signal sig } { l' with socket := l'.socket.signal sig' } := by
  refine ⟨al.handler, fun reads => ?_⟩
  obtain ⟨same, ended⟩ := al.hears reads
  simp [Socket.signal, received_append, isEnded_append, isEnded_singleton, same, ended, data, last]

/-- What a writer does is nothing to a handler. -/
lemma Alike.putAll (al : l.Alike l') (is is' : List Item) :
    (l.putAll is).Alike (l'.putAll is') := by
  refine ⟨?_, ?_⟩
  · rw [putAll_handler, putAll_handler, al.handler]
  · rw [putAll_handler, putAll_unread, putAll_unread]
    exact al.hears

/-- Links stay alike when their handlers read. -/
lemma Alike.read (al : l.Alike l') : l.read.Alike l'.read := by
  by_cases reading : l.handler.progress = .reading
  · have reading' : l'.handler.progress = .reading := by rw [al.handler, reading]
    obtain ⟨data, ended⟩ := al.hears (by rw [Handler.stillReads, reading])
    have rc := l.socket.receives
    have rc' := l'.socket.receives
    unfold Link.read
    rw [reading, reading']
    generalize l.socket.receive = x at rc ⊢
    generalize l'.socket.receive = x' at rc' ⊢
    -- both hear the same bytes, or both hear an end, or both wait
    cases rc with
    | data first rest _ =>
      cases rc' with
      | data first' rest' _ =>
        obtain ⟨rfl, same⟩ := List.cons.inj (first'.symm.trans (data.trans first))
        exact ⟨by rw [al.handler], fun _ => ⟨same, rest'.trans (ended.trans rest.symm)⟩⟩
      | ended _ none _ _ => simp [none, first] at data
      | waits none _ => simp [none, first] at data
    | ended last none closed _ =>
      cases rc' with
      | data first' _ _ => simp [none, first'] at data
      | ended last' _ _ _ =>
        refine .of_deaf ?_ ?_
        · show l'.handler.hear _ = l.handler.hear _
          rw [Handler.hear_of_end last, Handler.hear_of_end last', al.handler]
        · show (l.handler.hear _).stillReads = false
          rw [Handler.hear_of_end last]
          rfl
      | waits _ still => simp [closed, still] at ended
    | waits none still =>
      cases rc' with
      | data first' _ _ => simp [none, first'] at data
      | ended _ _ closed _ => simp [closed, still] at ended
      | waits _ _ => exact al
  · have reading' : l'.handler.progress ≠ .reading := by
      rw [al.handler]
      exact reading
    rw [read_of_busy reading, read_of_busy reading']
    exact al

/-- Links stay alike when their handlers hear the same reply. -/
lemma Alike.resume (al : l.Alike l') (reply : Reply) :
    Alike { l with handler := l.handler.resume reply }
      { l' with handler := l'.handler.resume reply } :=
  ⟨by rw [al.handler], fun reads => al.hears (Handler.stillReads_of_resume reads)⟩

/-- Clients of links that are alike are silent together. -/
lemma Alike.isSilent (al : l.Alike l') : l'.isSilent = l.isSilent := by
  rw [Bool.eq_iff_iff, isSilent_iff, isSilent_iff, al.handler]
  refine and_congr_right fun reading => ?_
  obtain ⟨data, ended⟩ := al.hears (by rw [Handler.stillReads, reading])
  rw [data, ended]

/-- Links stay alike when their clients are given up as silent. -/
lemma Alike.giveUp (al : l.Alike l') :
    Alike (if l.isSilent then { l with handler := l.handler.giveUp } else l)
      (if l'.isSilent then { l' with handler := l'.handler.giveUp } else l') := by
  rw [al.isSilent]
  split
  · exact .of_deaf (by rw [al.handler]) rfl
  · exact al

end Link

namespace Server

/-- Servers that are the same but for one link, and their handlers of this link are as far. -/
structure SameBut (i : Inbox) (s s' : Server) : Prop where
  room : s'.room = s.room
  next : s'.next = s.next
  idle : s'.idle = s.idle
  isListening : s'.isListening = s.isListening
  others : ∀ j, j ≠ i → s'.links[j]? = s.links[j]?
  handler : s'.links[i]?.map Link.handler = s.links[i]?.map Link.handler

/-- Servers that are the same but for two links that are alike. -/
structure Alike (i : Inbox) (s s' : Server) : Prop where
  room : s'.room = s.room
  next : s'.next = s.next
  idle : s'.idle = s.idle
  isListening : s'.isListening = s.isListening
  length : s'.links.length = s.links.length
  others : ∀ j, j ≠ i → s'.links[j]? = s.links[j]?
  own : ∀ l l', s.links[i]? = some l → s'.links[i]? = some l' → l.Alike l'

variable {i : Inbox} {s s' : Server}

/-- Both servers have the same links, but for the one whose client has gone deaf. -/
lemma Alike.link (al : Alike i s s') {j : Inbox} :
    s.links[j]? = none ∧ s'.links[j]? = none ∨
      ∃ l l', s.links[j]? = some l ∧ s'.links[j]? = some l' ∧ l.Alike l' ∧ (j ≠ i → l' = l) := by
  cases h : s.links[j]? with
  | none =>
    have none' : s'.links[j]? = none := by
      rw [List.getElem?_eq_none_iff] at h ⊢
      rw [al.length]
      exact h
    exact .inl ⟨rfl, none'⟩
  | some l =>
    by_cases own : j = i
    · subst own
      have inside : j < s'.links.length := by
        rw [al.length]
        exact (List.getElem?_eq_some_iff.1 h).1
      have h' := List.getElem?_eq_getElem inside
      exact .inr ⟨l, _, rfl, h', al.own l _ h h', fun other => absurd rfl other⟩
    · have h' : s'.links[j]? = some l := (al.others j own).trans h
      exact .inr ⟨l, l, rfl, h', .refl l, fun _ => rfl⟩

/-- Servers that are alike show the same but for one link. -/
lemma Alike.sameBut (al : Alike i s s') : SameBut i s s' where
  room := al.room
  next := al.next
  idle := al.idle
  isListening := al.isListening
  others := al.others
  handler := by
    obtain ⟨none, none'⟩ | ⟨l, l', h, h', own, _⟩ := al.link (j := i)
    · rw [none, none']
    · rw [h, h', Option.map_some, Option.map_some, own.handler]

/-- A change that keeps links alike keeps servers alike. -/
lemma Alike.modifyLink (al : Alike i s s') (inbox : Inbox) {f : Link → Link}
    (hf : ∀ l l', l.Alike l' → (f l).Alike (f l')) :
    Alike i (s.modifyLink inbox f) (s'.modifyLink inbox f) where
  room := al.room
  next := al.next
  idle := al.idle
  isListening := al.isListening
  length := by
    show (s'.links.modify _ _).length = (s.links.modify _ _).length
    rw [List.length_modify, List.length_modify, al.length]
  others j other := by
    rw [getElem?_modifyLink, getElem?_modifyLink, al.others j other]
  own k k' hk hk' := by
    rw [getElem?_modifyLink] at hk hk'
    obtain ⟨l, h, rfl⟩ := Option.map_eq_some_iff.1 hk
    obtain ⟨l', h', rfl⟩ := Option.map_eq_some_iff.1 hk'
    have same := al.own l l' h h'
    split
    · exact hf l l' same
    · exact same

/-- The room is told the same and delivers the same. -/
lemma Alike.tell (al : Alike i s s') (cmd : Command) : Alike i (s.tell cmd).1 (s'.tell cmd).1 where
  room := by
    show (s'.room.step cmd).1 = (s.room.step cmd).1
    rw [al.room]
  next := al.next
  idle := al.idle
  isListening := al.isListening
  length := by
    show (s'.post _).links.length = (s.post _).links.length
    rw [length_post, length_post, al.length]
  others j other := by
    rw [getElem?_tell, getElem?_tell, al.others j other, al.room]
  own k k' hk hk' := by
    rw [getElem?_tell] at hk hk'
    obtain ⟨l, h, rfl⟩ := Option.map_eq_some_iff.1 hk
    obtain ⟨l', h', rfl⟩ := Option.map_eq_some_iff.1 hk'
    rw [al.room]
    exact (al.own l l' h h').putAll _ _

/-- The same link arrives. -/
lemma Alike.arrive (al : Alike i s s') : Alike i (s.step .arrive) (s'.step .arrive) := by
  show Alike i s.arrive s'.arrive
  unfold Server.arrive
  rw [al.isListening]
  split
  · refine ⟨al.room, congrArg (· + 1) al.next, al.idle, rfl, ?_, ?_, ?_⟩
    · rw [List.length_append, List.length_append, al.length]
      rfl
    · intro j other
      rw [List.getElem?_append, List.getElem?_append, al.length, al.next, al.others j other]
    · intro k k' hk hk'
      rw [List.getElem?_append] at hk hk'
      rw [al.length, al.next] at hk'
      split at hk
      · next inside =>
        rw [if_pos inside] at hk'
        exact al.own k k' hk hk'
      · next outside =>
        rw [if_neg outside] at hk'
        obtain rfl := Option.some.inj (hk.symm.trans hk')
        exact .refl k
  · exact al

/-- The same handler takes its turn, and has the same to tell. -/
lemma Alike.turn (al : Alike i s s') (inbox : Inbox) : Alike i (s.turn inbox) (s'.turn inbox) := by
  unfold Server.turn
  obtain ⟨none, none'⟩ | ⟨l, l', h, h', own, _⟩ := al.link (j := inbox)
  · rw [none, none']
    exact al
  · rw [h, h']
    dsimp only
    rw [own.handler]
    cases l.handler.command? with
    | none => exact al.modifyLink inbox fun _ _ => Link.Alike.read
    | some cmd =>
      have reply : (s'.tell cmd).2 = (s.tell cmd).2 := by
        show (s'.room.step cmd).2.1 = (s.room.step cmd).2.1
        rw [al.room]
      show Alike i ((s.tell cmd).1.modifyLink inbox _) ((s'.tell cmd).1.modifyLink inbox _)
      rw [reply]
      exact (al.tell cmd).modifyLink inbox fun _ _ own => own.resume _

/-- Servers stay alike, whatever happens. -/
lemma Alike.step (al : Alike i s s') (e : ServerEvent) : Alike i (s.step e) (s'.step e) := by
  cases e with
  | arrive => exact al.arrive
  | stray => exact al
  | signal inbox sig => exact al.modifyLink inbox fun _ _ own => own.signal rfl rfl
  | expire inbox =>
    show Alike i (s.expire inbox) (s'.expire inbox)
    unfold Server.expire
    rw [al.idle]
    split
    · exact al.modifyLink inbox fun _ _ => Link.Alike.giveUp
    · exact al
  | turn inbox => exact al.turn inbox
  | shutDown => exact al.tell .shutdown
  | stop =>
    have told := al.tell .shutdown
    exact ⟨told.room, told.next, told.idle, rfl, told.length, told.others, told.own⟩

/-- Servers stay alike along every run. -/
lemma Alike.run (al : Alike i s s') (es : List ServerEvent) : Alike i (s.run es) (s'.run es) := by
  induction es generalizing s s' with
  | nil => exact al
  | cons e es ih => exact ih (al.step e)

/-- A server whose link is changed in two ways that are alike. -/
lemma alike_modifyLink {f g : Link → Link}
    (same : ∀ l, s.links[i]? = some l → (f l).Alike (g l)) :
    Alike i (s.modifyLink i f) (s.modifyLink i g) where
  room := rfl
  next := rfl
  idle := rfl
  isListening := rfl
  length := by
    show (s.links.modify _ _).length = (s.links.modify _ _).length
    rw [List.length_modify, List.length_modify]
  others j other := by
    rw [getElem?_modifyLink, getElem?_modifyLink]
    simp only [Ne.symm other, if_false]
  own k k' hk hk' := by
    rw [getElem?_modifyLink] at hk hk'
    obtain ⟨l, h, rfl⟩ := Option.map_eq_some_iff.1 hk
    obtain ⟨l', h', rfl⟩ := Option.map_eq_some_iff.1 hk'
    obtain rfl := Option.some.inj (h.symm.trans h')
    rw [if_pos rfl, if_pos rfl]
    exact same l h

/-- Signals say the same to a handler that carry the same bytes, and of which both or none end the
connection. -/
lemma alike_signal {sig sig' : Signal} (data : received [sig'] = received [sig])
    (last : sig'.isEnd = sig.isEnd) :
    Alike i (s.step (.signal i sig)) (s.step (.signal i sig')) :=
  alike_modifyLink fun l _ => (Link.Alike.refl l).signal data last

/-- Whatever ends a connection carries no bytes. -/
lemma received_of_isEnd {sig : Signal} (last : sig.isEnd = true) : received [sig] = [] := by
  cases sig with
  | close => rfl
  | abort => rfl
  | fault _ => rfl
  | _ => cases last

/-- A probe says nothing to a handler. -/
lemma alike_probe {sig : Signal} (data : received [sig] = []) (quiet : sig.isEnd = false) :
    Alike i s (s.step (.signal i sig)) := by
  have same : s.modifyLink i id = s := by
    show { s with links := s.links.modify i id } = s
    rw [List.modify_id]
  have al : Alike i (s.modifyLink i id) (s.step (.signal i sig)) := by
    refine alike_modifyLink fun l _ => ⟨rfl, fun _ => ?_⟩
    simp [Socket.signal, received_append, isEnded_append, data, quiet]
  rwa [same] at al

/-- The handler of a silent client hears at once that the client ends the connection. -/
lemma read_of_last {l : Link} (silent : l.isSilent = true) {sig : Signal}
    (last : sig.isEnd = true) :
    Link.handler (Link.read { l with socket := l.socket.signal sig }) = l.handler.giveUp := by
  obtain ⟨reading, none, _⟩ := Link.isSilent_iff.1 silent
  have rc := (l.socket.signal sig).receives
  have ended : isEnded (l.socket.unread ++ [sig]) = true := by
    rw [isEnded_append, isEnded_singleton, last, Bool.or_true]
  have nothing : received (l.socket.unread ++ [sig]) = [] := by
    rw [received_append, none, received_of_isEnd last, ite_self]
    rfl
  unfold Link.read
  rw [reading]
  generalize (l.socket.signal sig).receive = x at rc ⊢
  cases rc with
  | data first _ _ => exact absurd (first.symm.trans nothing) (List.cons_ne_nil _ _)
  | ended fin _ _ _ => exact Handler.hear_of_end fin
  | waits _ still => exact absurd (still.symm.trans ended) Bool.false_ne_true

/-- A client that is silent may as well end the connection as be given up. -/
lemma alike_expire {l : Link} (h : s.links[i]? = some l) (silent : l.isSilent = true)
    (limited : s.idle.isSome = true) {sig : Signal} (last : sig.isEnd = true) :
    Alike i (s.step (.expire i)) (s.run [.signal i sig, .turn i]) := by
  have reading := (Link.isSilent_iff.1 silent).1
  -- the signal and the turn that hears it are one change of the link
  have heard : s.run [.signal i sig, .turn i] =
      s.modifyLink i fun l => Link.read { l with socket := l.socket.signal sig } := by
    have after : (s.step (.signal i sig)).links[i]? =
        some { l with socket := l.socket.signal sig } := by
      show (s.modifyLink i _).links[i]? = _
      rw [getElem?_modifyLink, h, Option.map_some, if_pos rfl]
    show (s.step (.signal i sig)).turn i = _
    unfold Server.turn
    simp only [after, Handler.command?, reading]
    show { s with links := (s.links.modify i _).modify i _ } = _
    rw [List.modify_modify_eq]
    rfl
  have gone : s.step (.expire i) =
      s.modifyLink i fun l => if l.isSilent then { l with handler := l.handler.giveUp } else l :=
    if_pos limited
  rw [heard, gone]
  refine alike_modifyLink fun k hk => ?_
  obtain rfl := Option.some.inj (h.symm.trans hk)
  rw [if_pos silent]
  exact .of_deaf (read_of_last silent last) rfl

/-- The room has been told by the handler of a link, and about its connection by nobody else as long
as numbers last, what the handler has to tell. -/
lemma dialogue_of_link {idle : Option Span} {es : List ServerEvent} {l : Link}
    (h : ((initial idle).run es).links[i]? = some l) :
    ((initial idle).exchanges i es).Sublist
      (Room.initial.dialogue ((initial idle).commands es)) ∧
    (((initial idle).run es).links.length < 2 ^ 64 →
      (Room.initial.dialogue ((initial idle).commands es)).filter
          (·.1.sender? = some l.handler.conn) =
        (initial idle).exchanges i es) := by
  refine ⟨exchanges_sublist idle i es, fun few => ?_⟩
  rw [((numbered_initial idle).run es).conns i l h]
  exact filter_dialogue few (Nat.lt_trans (List.getElem?_eq_some_iff.1 h).1 few)

/-- A handler that waits for a silent client has passed on everything that the client has sent. -/
lemma History.of_isSilent {l : Link} {sigs : List Signal} {hs : List Hearing}
    {xs : List (Command × Reply)} (hist : History i l sigs hs xs) (silent : l.isSilent = true) :
    xs.map Prod.fst =
      .connect l.handler.conn i :: (received sigs).map (.frame l.handler.conn) := by
  obtain ⟨reading, none, _⟩ := Link.isSilent_iff.1 silent
  obtain ⟨all, _⟩ := hist.waits (by rw [Handler.stillReads, reading])
  rw [none, List.append_nil] at all
  have told := hist.told
  rw [reading] at told
  rw [← all]
  cases told
  rw [Handler.filterMap_heardAll, List.map_cons, Handler.map_passedAll]

/-- In every run of a server, whatever comes: the room is an empty one that has been told what
handlers tell and, at a shutdown, that it is over. What the handler of a link has told is among it,
with the replies of the room, and as long as numbers of connections last it is all that the room has
been told about the connection. It is what the handler had to tell of what it has heard, and what it
has heard is what the client has sent, as far as it has been read (`History`). A handler that waits
for a silent client has passed on all that the client has sent. A handler that has nothing more to
do was refused a seat and has told nothing else, or it was seated, has passed on everything that it
has heard, in order and with its bytes, and has reported last that the connection is over. Wherever
a handler is broken off, it and its guard report this once at most and nothing after it; and a
handler that is let settle has nothing more to do or waits for its client. In every server, reached
or not, and whatever comes after: nobody but the client sees whether bytes come as text or not, or
that it probes, or whether it says goodbye, drops the connection or cannot be read any more, or
whether it has been given up as silent instead: the room and all other links are the same. -/
theorem handlers_tell_what_they_hear :
    (∀ (idle : Option Span) (es : List ServerEvent),
      ((initial idle).run es).room = (Room.initial.run ((initial idle).commands es)).1 ∧
      ∀ (i : Inbox) (l : Link), ((initial idle).run es).links[i]? = some l →
        ∃ (sigs : List Signal) (hs : List Hearing) (xs : List (Command × Reply)),
          sigs = (initial idle).signals i es ∧ hs = (initial idle).hearings i es ∧
          xs = (initial idle).exchanges i es ∧
          xs.Sublist (Room.initial.dialogue ((initial idle).commands es)) ∧
          (((initial idle).run es).links.length < 2 ^ 64 →
            (Room.initial.dialogue ((initial idle).commands es)).filter
              (·.1.sender? = some l.handler.conn) = xs) ∧
          History i l sigs hs xs ∧
          (l.isSilent = true → xs.map Prod.fst =
            .connect l.handler.conn i :: (received sigs).map (.frame l.handler.conn)) ∧
          (l.handler.progress = .finished →
            (hs = [] ∧ ∃ e, xs = [(.connect l.handler.conn i, .refused e)]) ∨
            (∃ role, xs.head? = some (.connect l.handler.conn i, .seated role)) ∧
              xs.map Prod.fst = .connect l.handler.conn i ::
                (hs.filterMap Hearing.data?).map (.frame l.handler.conn) ++
                  [.disconnect l.handler.conn]) ∧
          (xs.map Prod.fst ++ l.handler.drop.command?.toList).count
            (.disconnect l.handler.conn) ≤ 1 ∧
          (∀ reply, (l.handler.drop.resume reply).progress = .finished) ∧
          ∃ l', (((initial idle).run es).settle i).links[i]? = some l' ∧ l'.IsAtRest) ∧
    ∀ (s : Server) (i : Inbox) (es : List ServerEvent),
      (∀ f f', f.data = f'.data →
        SameBut i (s.run (.signal i (.frame f) :: es)) (s.run (.signal i (.frame f') :: es))) ∧
      (∀ data, SameBut i (s.run es) (s.run (.signal i (.ping data) :: es)) ∧
        SameBut i (s.run es) (s.run (.signal i (.pong data) :: es))) ∧
      (∀ sig sig', sig.isEnd = true → sig'.isEnd = true →
        SameBut i (s.run (.signal i sig :: es)) (s.run (.signal i sig' :: es))) ∧
      ∀ l sig, s.links[i]? = some l → l.isSilent = true → s.idle.isSome = true →
        sig.isEnd = true →
        SameBut i (s.run (.expire i :: es)) (s.run (.signal i sig :: .turn i :: es)) := by
  refine ⟨fun idle es => ⟨room_eq idle es, fun i l h => ?_⟩, fun s i es => ⟨?_, ?_, ?_, ?_⟩⟩
  · have hist := history_run (s := initial idle) (i := i) rfl h
    obtain ⟨among, all⟩ := dialogue_of_link h
    refine ⟨_, _, _, rfl, rfl, rfl, among, all, hist, hist.of_isSilent, fun done => ?_,
      hist.count_reports_le, l.handler.resume_drop, settle_rest h⟩
    have told := hist.told
    rw [done] at told
    exact told.of_finished
  · intro f f' same
    have data : received [.frame f'] = received [.frame f] :=
      congrArg (fun data => [data]) same.symm
    have al : Alike i (s.step (.signal i (.frame f))) (s.step (.signal i (.frame f'))) :=
      alike_signal data rfl
    exact (al.run es).sameBut
  · intro data
    have ping : Alike i s (s.step (.signal i (.ping data))) := alike_probe rfl rfl
    have pong : Alike i s (s.step (.signal i (.pong data))) := alike_probe rfl rfl
    exact ⟨(ping.run es).sameBut, (pong.run es).sameBut⟩
  · intro sig sig' last last'
    have data : received [sig'] = received [sig] :=
      (received_of_isEnd last').trans (received_of_isEnd last).symm
    have al : Alike i (s.step (.signal i sig)) (s.step (.signal i sig')) :=
      alike_signal data (last'.trans last.symm)
    exact (al.run es).sameBut
  · intro l sig h silent limited last
    exact ((alike_expire h silent limited last).run es).sameBut

/-- Two clients come and are seated. The first one sends bytes that are no request, which are heard,
and a probe. -/
def quietTable : List ServerEvent :=
  [.arrive, .turn 0, .arrive, .turn 1, .signal 0 (.frame (.binary [])), .signal 0 (.ping [1]),
    .turn 0, .turn 0]

/-- The first client is given up, and what the room has been told about it is all that its handler
has told. The second one could not tell if it had dropped the connection. -/
theorem handlers_tell_what_they_hear_quietTable :
    (∃ l, ((initial (some ⟨1, 0⟩)).run (quietTable ++ [.expire 0, .turn 0])).links[0]? = some l ∧
      l.handler.progress = .finished ∧
      ((initial (some ⟨1, 0⟩)).exchanges 0 (quietTable ++ [.expire 0, .turn 0])).map Prod.fst =
        [.connect ⟨1⟩ 0, .frame ⟨1⟩ [], .disconnect ⟨1⟩] ∧
      (Room.initial.dialogue ((initial (some ⟨1, 0⟩)).commands
          (quietTable ++ [.expire 0, .turn 0]))).filter (·.1.sender? = some ⟨1⟩) =
        (initial (some ⟨1, 0⟩)).exchanges 0 (quietTable ++ [.expire 0, .turn 0])) ∧
    ((initial (some ⟨1, 0⟩)).run quietTable).idle.isSome = true ∧
    (∃ l, ((initial (some ⟨1, 0⟩)).run quietTable).links[0]? = some l ∧ l.isSilent = true) ∧
    SameBut 0 (((initial (some ⟨1, 0⟩)).run quietTable).run (.expire 0 :: [.turn 0]))
      (((initial (some ⟨1, 0⟩)).run quietTable).run
        (.signal 0 .abort :: .turn 0 :: [.turn 0])) := by
  obtain ⟨tells, parts⟩ := handlers_tell_what_they_hear
  have limited : ((initial (some ⟨1, 0⟩)).run quietTable).idle.isSome = true := by decide +kernel
  have there : (((initial (some ⟨1, 0⟩)).run quietTable).links[0]?.map Link.isSilent) =
      some true := by
    decide +kernel
  obtain ⟨l, h, silent⟩ := Option.map_eq_some_iff.1 there
  have last : (((initial (some ⟨1, 0⟩)).run (quietTable ++ [.expire 0, .turn 0])).links[0]?.map
      Link.handler) = some ⟨⟨1⟩, 0, .finished, none⟩ := by
    decide +kernel
  obtain ⟨k, hk, handler⟩ := Option.map_eq_some_iff.1 last
  have heard : (initial (some ⟨1, 0⟩)).hearings 0 (quietTable ++ [.expire 0, .turn 0]) =
      [.heard (.data []), .silent] := by
    decide +kernel
  obtain ⟨_, _, _, rfl, rfl, rfl, _, all, _, _, done, _⟩ := (tells _ _).2 0 k hk
  rw [handler] at all
  rw [handler, heard] at done
  obtain ⟨none, _⟩ | ⟨_, told⟩ := done rfl
  · cases none
  · have partings := (parts ((initial (some ⟨1, 0⟩)).run quietTable) 0 [.turn 0]).2.2.2
    exact ⟨⟨k, hk, by rw [handler], told, all (by decide +kernel)⟩, limited, ⟨l, h, silent⟩,
      partings l .abort h silent limited rfl⟩

end Server

end ParityDuel
