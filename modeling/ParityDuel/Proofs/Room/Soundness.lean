import Mathlib.Data.List.Nodup
import ParityDuel.Proofs.Room.Inversion
import ParityDuel.Proofs.Session.Soundness

/-!
# Room soundness

The invariant of an open room: its session is sound, whoever is seated is registered, and no
connection is registered twice. Every command but a shutdown keeps it, so it holds after every run.
`reachable_states_sound` puts this together with the soundness of sessions.
-/

namespace ParityDuel

namespace Room

/-- What holds of an open room between commands. -/
structure Sound (r : Room) : Prop where
  /-- The session is sound. -/
  session : r.session.Sound
  /-- Every seated connection is registered. -/
  seatedRegistered : ∀ c, r.session.seats.isSeated c = true → r.isRegistered c = true
  /-- Every connection is registered at most once. -/
  connsNodup : (r.members.map Member.conn).Nodup
  /-- The room takes commands. -/
  isOpen : r.isClosed = false

/-- A room with nobody in it is sound. -/
lemma sound_initial : initial.Sound where
  session := Session.sound_initial
  seatedRegistered c h := by simp [initial] at h
  connsNodup := .nil
  isOpen := rfl

/-- Among sound members a connection has one inbox. -/
lemma Sound.inboxOf?_eq_some_iff {r : Room} (sd : r.Sound) {c : Conn} {inbox : Inbox} :
    r.inboxOf? c = some inbox ↔ (⟨c, inbox⟩ : Member) ∈ r.members := by
  constructor
  · exact mem_of_inboxOf?
  · intro hm
    cases hi : r.inboxOf? c with
    | none =>
      rw [inboxOf?_eq_none_iff, ← Bool.not_eq_true, isRegistered_iff] at hi
      exact absurd ⟨inbox, hm⟩ hi
    | some j =>
      have e := List.inj_on_of_nodup_map sd.connsNodup (mem_of_inboxOf? hi) hm rfl
      rw [Member.mk.injEq] at e
      rw [e.2]

/-- Whoever is not registered is not seated. -/
lemma Sound.isSeated_eq_false {r : Room} {c : Conn} (sd : r.Sound)
    (h : r.isRegistered c = false) : r.session.seats.isSeated c = false := by
  rw [← Bool.not_eq_true] at h ⊢
  exact mt (sd.seatedRegistered c) h

/-- A new member beside the old ones is registered, and so are they. -/
lemma isRegistered_append {r : Room} {s : Session} {c d : Conn} {inbox : Inbox} {b : Bool} :
    isRegistered ⟨s, r.members ++ [⟨c, inbox⟩], b⟩ d = true ↔ d = c ∨ r.isRegistered d = true := by
  rw [isRegistered_iff, isRegistered_iff]
  constructor
  · rintro ⟨i, hm⟩
    obtain hm | hm := List.mem_append.1 hm
    · exact .inr ⟨i, hm⟩
    · rw [List.mem_singleton, Member.mk.injEq] at hm
      exact .inl hm.1
  · rintro (rfl | ⟨i, hm⟩)
    · exact ⟨inbox, List.mem_append_right _ (List.mem_singleton_self _)⟩
    · exact ⟨i, List.mem_append_left _ hm⟩

/-- Whoever is not taken out stays registered. -/
lemma isRegistered_filter {r : Room} {s : Session} {c d : Conn} {b : Bool} (ne : d ≠ c) :
    isRegistered ⟨s, r.members.filter (·.conn ≠ c), b⟩ d = r.isRegistered d := by
  rw [Bool.eq_iff_iff, isRegistered_iff, isRegistered_iff]
  simp [List.mem_filter, ne]

/-- What a command does keeps soundness. -/
lemma Sound.of_step {r r' : Room} {cmd : Command} {ls : List Letter} {ds : List Delivery}
    (sd : r.Sound) (st : r.Step cmd r' ls ds) : r'.Sound := by
  cases st with
  | known _ => exact sd
  | turnedAway _ _ => exact sd
  | @joined c inbox role s ls new hc =>
    refine ⟨sd.session.connect hc, ?_, ?_, sd.isOpen⟩
    · obtain ⟨seats, assigned, rfl, -⟩ := Session.connect_inv hc
      intro d hd
      rw [isRegistered_append]
      exact (assigned.eq_or_isSeated hd).imp_right (sd.seatedRegistered d)
    · have fresh : c ∉ r.members.map Member.conn := by
        intro hm
        obtain ⟨⟨d, i⟩, mem, rfl⟩ := List.mem_map.1 hm
        rw [isRegistered_iff.2 ⟨i, mem⟩] at new
        cases new
      simpa [List.nodup_append, sd.connsNodup] using fresh
  | passedOver _ => exact sd
  | unread _ _ => exact sd
  | refused _ _ _ => exact sd
  | granted _ _ hs =>
    have sv := Session.serve_inv hs
    refine ⟨sd.session.served sv, ?_, sd.connsNodup, sd.isOpen⟩
    intro d hd
    exact sd.seatedRegistered d (sv.isSeated_eq ▸ hd)
  | absent _ => exact sd
  | @left c inbox s ls _ hl =>
    refine ⟨sd.session.leave hl, ?_, ?_, sd.isOpen⟩
    · intro d hd
      -- either nobody is seated any more, or the seats are as before and `c` had none
      obtain ⟨_, rfl, _⟩ | ⟨unseated, rfl, _⟩ := sd.session.leave_inv hl
      · simp at hd
      · have ne : d ≠ c := by
          rintro rfl
          simp [hd] at unseated
        rw [isRegistered_filter ne]
        exact sd.seatedRegistered d hd
    · exact sd.connsNodup.sublist (List.filter_sublist.map _)
  | looked => exact sd

/-- Every command but a shutdown keeps soundness. -/
lemma Sound.step {r : Room} {cmd : Command} (sd : r.Sound) (h : cmd ≠ .shutdown) :
    (r.step cmd).1.Sound := by
  obtain ⟨_, st⟩ := step_inv sd.isOpen h
  exact sd.of_step st

/-- Every run without a shutdown keeps soundness. -/
lemma Sound.run {r : Room} {cs : List Command} (sd : r.Sound) (h : .shutdown ∉ cs) :
    (r.run cs).1.Sound := by
  induction cs generalizing r with
  | nil => exact sd
  | cons cmd cs ih =>
    rw [List.mem_cons, not_or] at h
    exact ih (sd.step (Ne.symm h.1)) h.2

end Room

/-- Every session that operations lead to and every open room that commands lead to is sound, and
none of them is left with the votes of both players. -/
theorem reachable_states_sound :
    (∀ ops : List Session.Op, (Session.initial.after ops).Sound ∧
      (Session.initial.after ops).ballot.stage ≠ .bothVoted) ∧
    ∀ cs : List Command, .shutdown ∉ cs → (Room.initial.run cs).1.Sound ∧
      (Room.initial.run cs).1.session.ballot.stage ≠ .bothVoted := by
  refine ⟨fun ops => ?_, fun cs h => ?_⟩
  · have sd := Session.sound_initial.after ops
    exact ⟨sd, sd.stage_ne_bothVoted⟩
  · have sd := Room.sound_initial.run h
    exact ⟨sd, sd.session.stage_ne_bothVoted⟩

/-- A player leaves in the middle of a vote, with a third connection turned away. -/
theorem reachable_states_sound_departure :
    .shutdown ∉ [Command.connect ⟨1⟩ 0, .connect ⟨2⟩ 1, .frame ⟨1⟩ (Request.frame .rematch),
      .connect ⟨3⟩ 2, .disconnect ⟨1⟩, .snapshot] ∧
    (Room.initial.run [.connect ⟨1⟩ 0, .connect ⟨2⟩ 1, .frame ⟨1⟩ (Request.frame .rematch),
      .connect ⟨3⟩ 2, .disconnect ⟨1⟩, .snapshot]).1.Sound :=
  ⟨by decide, (reachable_states_sound.2 _ (by decide)).1⟩

end ParityDuel
