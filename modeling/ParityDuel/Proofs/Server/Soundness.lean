import ParityDuel.Proofs.Room.Lifetimes
import ParityDuel.Proofs.Server.Handlers

/-!
# Server soundness

The invariant of a server whose room is not shut down. The room is sound, and it has registered the
connections whose handlers have been given a seat and have not reported yet that the connection is
over, and no others; and every handler keeps its guard as it should, so that it reports only once.
Every event but a shutdown keeps it (`Sound.step`).
-/

namespace ParityDuel

/-- Whether a handler has been given a seat and has not reported yet that the connection is over. -/
def Handler.isAdmitted (h : Handler) : Bool :=
  match h.progress with
  | .seating => false
  | .reading => true
  | .forwarding _ => true
  | .leaving => true
  | .finished => false

namespace Handler

/-- Whatever brings an inbox to the room is a handler that asks for a seat. -/
lemma eq_of_inbox? {h : Handler} {cmd : Command} {inbox : Inbox}
    (told : h.command? = some cmd) (brings : cmd.inbox? = some inbox) :
    h.inbox = inbox ∧ cmd = .connect h.conn inbox := by
  cases tells_of_command? told with
  | asks _ =>
    obtain rfl := Option.some.inj brings
    exact ⟨rfl, rfl⟩
  | passesOn _ => cases brings
  | reports _ => cases brings

end Handler

namespace Link

/-- A link that goes on with the same connection and the same inbox, as welcome as before, and with
its guard kept. -/
structure GoesOn (l l' : Link) : Prop where
  conn : l'.handler.conn = l.handler.conn
  inbox : l'.handler.inbox = l.handler.inbox
  isAdmitted : l'.handler.isAdmitted = l.handler.isAdmitted
  guarded : l.handler.IsGuarded → l'.handler.IsGuarded

/-- A link goes on as it is. -/
lemma GoesOn.refl (l : Link) : l.GoesOn l := ⟨rfl, rfl, rfl, id⟩

/-- A link goes on when its client does something. -/
lemma goesOn_signal (l : Link) (sig : Signal) :
    l.GoesOn { l with socket := l.socket.signal sig } :=
  ⟨rfl, rfl, rfl, id⟩

/-- A link goes on when its client is given up. -/
lemma goesOn_giveUp {l : Link} (silent : l.isSilent = true) :
    l.GoesOn { l with handler := l.handler.giveUp } := by
  have reading := (isSilent_iff.1 silent).1
  refine ⟨rfl, rfl, ?_, fun guarded => Handler.isGuarded_leave ?_⟩
  · simp [Handler.isAdmitted, Handler.giveUp, Handler.leave, reading]
  · rw [guarded, reading]

/-- A link goes on when its handler reads. -/
lemma goesOn_read (l : Link) : l.GoesOn l.read := by
  by_cases reading : l.handler.progress = .reading
  · unfold read
    rw [reading]
    cases l.socket.receive with
    | none => exact .refl l
    | some x =>
      obtain ⟨r, socket⟩ := x
      refine ⟨?_, ?_, ?_, fun guarded => guarded.hear reading r⟩
      · cases r <;> rfl
      · cases r <;> rfl
      · rw [Handler.isAdmitted, Handler.isAdmitted, reading]
        cases r <;> rfl
  · rw [read_of_busy reading]
    exact .refl l

end Link

namespace Room

variable {r : Room} {c : Conn} {inbox : Inbox}

/-- Whoever gets a seat is registered, and whoever is refused changes nothing. -/
lemma members_connect (isOpen : r.isClosed = false) (c : Conn) (inbox : Inbox) :
    (∃ e, (r.step (.connect c inbox)).2.1 = .refused e ∧
      (r.step (.connect c inbox)).1.members = r.members) ∨
    ∃ role, (r.step (.connect c inbox)).2.1 = .seated role ∧
      (r.step (.connect c inbox)).1.members = r.members ++ [⟨c, inbox⟩] := by
  cases known : r.isRegistered c with
  | true => exact .inl ⟨_, by rw [step_connect_of_known inbox isOpen known]; exact ⟨rfl, rfl⟩⟩
  | false =>
    cases hc : r.session.connect c with
    | error e =>
      exact .inl ⟨e, by rw [step_connect_of_error inbox isOpen known hc]; exact ⟨rfl, rfl⟩⟩
    | ok t =>
      obtain ⟨role, s, ls⟩ := t
      exact .inr ⟨role, by rw [step_connect_of_ok inbox isOpen known hc]; exact ⟨rfl, rfl⟩⟩

/-- A frame leaves the members as they are. -/
lemma members_frame (isOpen : r.isClosed = false) (c : Conn) (data : Bytes) :
    (r.step (.frame c data)).1.members = r.members := by
  obtain ⟨ls, st⟩ := @step_inv r (.frame c data) isOpen nofun
  generalize (r.step (.frame c data)).1 = r' at st ⊢
  generalize (r.step (.frame c data)).2.2 = ds at st
  cases st <;> rfl

/-- The end of a connection takes its member out. -/
lemma members_disconnect (isOpen : r.isClosed = false) (c : Conn) :
    (r.step (.disconnect c)).1.members = r.members.filter (·.conn ≠ c) := by
  obtain ⟨ls, st⟩ := @step_inv r (.disconnect c) isOpen nofun
  generalize (r.step (.disconnect c)).1 = r' at st ⊢
  generalize (r.step (.disconnect c)).2.2 = ds at st
  cases st with
  | absent unregistered => exact (congrArg Room.members (without_of_unregistered unregistered)).symm
  | left _ _ => rfl

end Room

namespace Server

/-- What holds of a server between events as long as its room is not shut down. -/
structure Sound (s : Server) : Prop where
  /-- The room is sound. -/
  room : s.room.Sound
  /-- Every handler has brought the inbox of its link. -/
  inboxes : ∀ (i : Inbox) (l : Link), s.links[i]? = some l → l.handler.inbox = i
  /-- Whoever is registered has a handler that has been given a seat, and conversely. -/
  members : ∀ c i, (⟨c, i⟩ : Member) ∈ s.room.members ↔
    ∃ l, s.links[i]? = some l ∧ l.handler.conn = c ∧ l.handler.isAdmitted = true
  /-- Every handler keeps its guard as it should. -/
  guarded : s.AreGuarded

variable {s : Server} {i j : Inbox} {l k : Link}

/-- A server is sound as it begins. -/
lemma sound_initial (idle : Option Span) : (initial idle).Sound where
  room := Room.sound_initial
  inboxes i l h := by cases h
  members c i := by
    constructor
    · intro h
      cases h
    · rintro ⟨_, h, _⟩
      cases h
  guarded i l h := by cases h

/-- No two members of a sound server share an inbox. -/
lemma Sound.inboxes_nodup (sd : s.Sound) : (s.room.members.map Member.inbox).Nodup := by
  refine List.Nodup.map_on ?_ (List.Nodup.of_map _ sd.room.connsNodup)
  rintro ⟨c, i⟩ hc ⟨d, _⟩ hd rfl
  obtain ⟨l, h, rfl, _⟩ := (sd.members _ _).1 hc
  obtain ⟨l', h', rfl, _⟩ := (sd.members _ _).1 hd
  obtain rfl := Option.some.inj (h.symm.trans h')
  rfl

/-- A change of a link that goes on keeps soundness. -/
lemma Sound.modifyLink (sd : s.Sound) {f : Link → Link} (hf : ∀ l : Link, l.GoesOn (f l)) :
    (s.modifyLink i f).Sound := by
  have goes : ∀ (j : Inbox) (k' : Link), (s.modifyLink i f).links[j]? = some k' →
      ∃ k : Link, s.links[j]? = some k ∧ k.GoesOn k' := by
    intro j k' h'
    rw [getElem?_modifyLink] at h'
    obtain ⟨k, h, rfl⟩ := Option.map_eq_some_iff.1 h'
    refine ⟨k, h, ?_⟩
    split
    · exact hf k
    · exact .refl k
  refine ⟨sd.room, ?_, ?_, ?_⟩
  · intro j k' h'
    obtain ⟨k, h, on⟩ := goes j k' h'
    exact on.inbox.trans (sd.inboxes j k h)
  · intro c j
    refine (sd.members c j).trans ⟨?_, ?_⟩
    · rintro ⟨k, h, rfl, admitted⟩
      have h' : (s.modifyLink i f).links[j]? = some (if i = j then f k else k) := by
        rw [getElem?_modifyLink, h]
        rfl
      obtain ⟨k₀, h₀, on⟩ := goes j _ h'
      obtain rfl := Option.some.inj (h.symm.trans h₀)
      exact ⟨_, h', on.conn, on.isAdmitted.trans admitted⟩
    · rintro ⟨k', h', rfl, admitted⟩
      obtain ⟨k, h, on⟩ := goes j k' h'
      exact ⟨k, h, on.conn.symm, on.isAdmitted.symm.trans admitted⟩
  · intro j k' h'
    obtain ⟨k, h, on⟩ := goes j k' h'
    exact on.guarded (sd.guarded j k h)

/-- An arrival keeps soundness. -/
lemma Sound.arrive (sd : s.Sound) : (s.step .arrive).Sound := by
  have came : ∀ (j : Inbox) (k' : Link), (s.step .arrive).links[j]? = some k' →
      s.links[j]? = some k' ∨ s.links[j]? = none ∧ k' = Link.fresh ⟨s.next⟩ j := by
    intro j k' h'
    cases h : s.links[j]? with
    | some k =>
      have same := getElem?_step_of_aside (e := .arrive) h nofun
      exact .inl (same.symm.trans h')
    | none =>
      obtain gone | ⟨_, _, _, fresh⟩ := getElem?_step_of_none (e := .arrive) h
      · rw [gone] at h'
        cases h'
      · exact .inr ⟨rfl, Option.some.inj (h'.symm.trans fresh)⟩
  have room : (s.step .arrive).room = s.room := room_step s .arrive
  refine ⟨room ▸ sd.room, ?_, ?_, ?_⟩
  · intro j k' h'
    obtain h | ⟨_, rfl⟩ := came j k' h'
    · exact sd.inboxes j k' h
    · rfl
  · intro c j
    rw [room]
    refine (sd.members c j).trans ⟨?_, ?_⟩
    · rintro ⟨k, h, there⟩
      exact ⟨k, getElem?_step_of_aside (e := .arrive) h nofun, there⟩
    · rintro ⟨k', h', there⟩
      obtain h | ⟨_, rfl⟩ := came j k' h'
      · exact ⟨k', h, there⟩
      · cases there.2
  · intro j k' h'
    obtain h | ⟨_, rfl⟩ := came j k' h'
    · exact sd.guarded j k' h
    · rfl

section Commands

variable {cmd : Command}

/-- No handler tells the room to shut down. -/
lemma ne_shutdown (told : l.handler.command? = some cmd) : cmd ≠ .shutdown := by
  rintro rfl
  cases Handler.tells_of_command? told

variable (h : s.links[i]? = some l) (told : l.handler.command? = some cmd)

include h told

/-- What a handler tells changes who is registered as it changes the handler, and nobody else. -/
lemma Sound.members_turn (sd : s.Sound) (c : Conn) (j : Inbox) :
    (⟨c, j⟩ : Member) ∈ (s.room.step cmd).1.members ↔
      if i = j then
        l.handler.conn = c ∧ (l.handler.resume (s.room.step cmd).2.1).isAdmitted = true
      else (⟨c, j⟩ : Member) ∈ s.room.members := by
  have own : ∀ d, (⟨d, i⟩ : Member) ∈ s.room.members ↔
      l.handler.conn = d ∧ l.handler.isAdmitted = true := by
    intro d
    rw [sd.members, h]
    simp
  cases Handler.tells_of_command? told with
  | asks progress =>
    obtain ⟨e, reply, members⟩ | ⟨role, reply, members⟩ :=
      Room.members_connect sd.room.isOpen l.handler.conn l.handler.inbox
    · rw [reply, members]
      split
      · next e =>
        subst e
        rw [own]
        simp [Handler.resume, Handler.isAdmitted, Handler.isTaken, progress]
      · rfl
    · rw [reply, members, sd.inboxes i l h, List.mem_append, List.mem_singleton,
        Member.mk.injEq]
      split
      · next e =>
        subst e
        rw [own]
        simp [Handler.resume, Handler.isAdmitted, Handler.isTaken, progress, eq_comm]
      · next ne => simp [Ne.symm ne]
  | @passesOn data progress =>
    rw [Room.members_frame sd.room.isOpen]
    split
    · next e =>
      subst e
      rw [own]
      cases taken : Handler.isTaken (s.room.step (.frame l.handler.conn data)).2.1 <;>
        simp [Handler.resume, Handler.leave, Handler.isAdmitted, taken, progress]
    · rfl
  | reports progress =>
    rw [Room.members_disconnect sd.room.isOpen, List.mem_filter]
    split
    · next e =>
      subst e
      rw [own]
      -- the guard is disarmed, so the handler has nothing more to do
      have disarmed : l.handler.guard = some .disarmed := by
        rw [sd.guarded i l h, progress]
      refine iff_of_false (fun hm => of_decide_eq_true hm.2 hm.1.1.symm) ?_
      simp [Handler.resume, Handler.drop, Handler.isAdmitted, progress, disarmed]
    · next ne =>
      refine and_iff_left_of_imp fun hm => decide_eq_true ?_
      -- nobody else has the connection
      rintro rfl
      have here := (own _).2 ⟨rfl, by rw [Handler.isAdmitted, progress]⟩
      have same := List.inj_on_of_nodup_map sd.room.connsNodup here hm rfl
      rw [Member.mk.injEq] at same
      exact ne same.2

/-- After a handler has told the room something, those are registered whose handlers have been given
a seat. -/
lemma Sound.members_turned (sd : s.Sound) (c : Conn) (j : Inbox) :
    (⟨c, j⟩ : Member) ∈ (s.room.step cmd).1.members ↔
      ∃ k, (s.turn i).links[j]? = some k ∧ k.handler.conn = c ∧ k.handler.isAdmitted = true := by
  rw [sd.members_turn h told, getElem?_turn_of_some h told]
  split
  · next e =>
    subst e
    rw [h, Option.map_some]
    obtain ⟨conn, _⟩ := l.handler.resume_same (s.room.step cmd).2.1
    constructor
    · rintro ⟨rfl, admitted⟩
      exact ⟨_, rfl, conn, admitted⟩
    · rintro ⟨l', h', rfl, admitted⟩
      obtain rfl := Option.some.inj h'
      exact ⟨conn.symm, admitted⟩
  · next ne =>
    rw [sd.members]
    constructor
    · rintro ⟨k, hk, rfl, admitted⟩
      refine ⟨_, by rw [hk]; rfl, ?_⟩
      dsimp only
      rw [Link.putAll_handler]
      exact ⟨rfl, admitted⟩
    · rintro ⟨k', h', there⟩
      obtain ⟨k, hk, rfl⟩ := Option.map_eq_some_iff.1 h'
      rw [Link.putAll_handler] at there
      exact ⟨k, hk, there⟩

/-- What a handler tells keeps soundness. -/
lemma Sound.turn_of_some (sd : s.Sound) : (s.step (.turn i)).Sound := by
  have room : (s.step (.turn i)).room = (s.room.step cmd).1 := by
    rw [room_step]
    simp [command?, h, told]
  refine ⟨room ▸ sd.room.step (ne_shutdown told), ?_, ?_, ?_⟩
  · intro j k' h'
    obtain ⟨k, hk, rfl⟩ := Option.map_eq_some_iff.1 ((getElem?_turn_of_some h told j).symm.trans h')
    split
    · exact (Handler.resume_same k.handler _).2.trans (sd.inboxes j k hk)
    · rw [Link.putAll_handler]
      exact sd.inboxes j k hk
  · intro c j
    rw [room]
    exact sd.members_turned h told c j
  · intro j k' h'
    obtain ⟨k, hk, rfl⟩ := Option.map_eq_some_iff.1 ((getElem?_turn_of_some h told j).symm.trans h')
    split
    · exact (sd.guarded j k hk).resume _
    · rw [Link.putAll_handler]
      exact sd.guarded j k hk

end Commands

/-- Every event but a shutdown keeps soundness. -/
lemma Sound.step {e : ServerEvent} (sd : s.Sound) (running : e ≠ .shutDown ∧ e ≠ .stop) :
    (s.step e).Sound := by
  cases e with
  | arrive => exact sd.arrive
  | stray => exact sd
  | signal inbox sig => exact sd.modifyLink fun l => l.goesOn_signal sig
  | expire inbox =>
    show (s.expire inbox).Sound
    unfold expire
    split
    · refine sd.modifyLink fun l => ?_
      split
      · next silent => exact Link.goesOn_giveUp silent
      · exact .refl l
    · exact sd
  | turn inbox =>
    cases h : s.links[inbox]? with
    | none =>
      show (s.turn inbox).Sound
      simp only [turn, h]
      exact sd
    | some l =>
      cases told : l.handler.command? with
      | some cmd => exact sd.turn_of_some h told
      | none =>
        show (s.turn inbox).Sound
        simp only [turn, h, told]
        exact sd.modifyLink Link.goesOn_read
  | shutDown => exact absurd rfl running.1
  | stop => exact absurd rfl running.2

lemma running_cons {e : ServerEvent} {es : List ServerEvent}
    (running : .shutDown ∉ e :: es ∧ .stop ∉ e :: es) :
    (e ≠ .shutDown ∧ e ≠ .stop) ∧ .shutDown ∉ es ∧ .stop ∉ es := by
  rw [List.mem_cons, not_or, List.mem_cons, not_or] at running
  obtain ⟨⟨down, downs⟩, stop, stops⟩ := running
  exact ⟨⟨Ne.symm down, Ne.symm stop⟩, downs, stops⟩

/-- Every run without a shutdown keeps soundness. -/
lemma Sound.run {es : List ServerEvent} (sd : s.Sound) (running : .shutDown ∉ es ∧ .stop ∉ es) :
    (s.run es).Sound := by
  induction es generalizing s with
  | nil => exact sd
  | cons e es ih =>
    obtain ⟨first, rest⟩ := running_cons running
    exact ih (sd.step first) rest

end Server

end ParityDuel
