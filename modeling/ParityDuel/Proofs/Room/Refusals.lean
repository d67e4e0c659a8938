import ParityDuel.Proofs.Room.Delivery
import ParityDuel.Proofs.Session.Refusals

/-!
# Refusals in a room

What is turned down leaves no trace but the words to whoever asked (`Room.TurnsDown`). A frame can
be turned down because it does not read as a request, or because the session refuses the request; an
attempt to connect can be turned down because the connection is there already, or because the game
is full. `refusals_change_nothing` lists all of this for every room that commands lead to.
-/

namespace ParityDuel

/-- An attempt to connect with an inbox of its own may follow orderly commands. -/
lemma Orderly.connect {cs : List Command} {inbox : Inbox} (h : Orderly cs) (c : Conn)
    (new : inbox ∉ inboxesOf cs) : Orderly (cs ++ [.connect c inbox]) where
  noShutdown := by simpa using h.noShutdown
  inboxesNodup := by
    have brought : inboxesOf (cs ++ [.connect c inbox]) = inboxesOf cs ++ [inbox] :=
      List.filterMap_append
    rw [brought]
    exact h.inboxesNodup.append (List.nodup_singleton inbox) (List.disjoint_singleton.2 new)

namespace Room

/-- A command leaves the room as it was, and all that is delivered is one notice to one connection,
with the words of a refusal. -/
def TurnsDown (r : Room) (cmd : Command) (c : Conn) (words : String) : Prop :=
  ∃ inbox, r.inboxOf? c = some inbox ∧
    r.step cmd = (r, .done, [⟨inbox, .notice (.refused words)⟩])

/-- A command does what the session grants: the room has the new session, and the letters of the
session are delivered. -/
def Grants (r : Room) (cmd : Command) (s : Session) (ls : List Letter) : Prop :=
  r.step cmd = (⟨s, r.members, r.isClosed⟩, .done, dispatch ⟨s, r.members, r.isClosed⟩ ls)

section Frames

variable {r : Room} {c : Conn} {data : Bytes}

/-- A frame of a connection that is not registered does nothing. -/
lemma step_frame_of_unregistered (isOpen : r.isClosed = false) (h : r.isRegistered c = false) :
    r.step (.frame c data) = (r, .done, []) := by
  simp [step, isOpen, frame, h]

/-- A refusal is one notice for a registered connection. -/
lemma exists_refuse_eq (h : r.isRegistered c = true) :
    ∃ inbox, r.inboxOf? c = some inbox ∧
      ∀ words, r.refuse c words = [⟨inbox, .notice (.refused words)⟩] := by
  cases hi : r.inboxOf? c with
  | none =>
    rw [inboxOf?_eq_none_iff.1 hi] at h
    cases h
  | some inbox => exact ⟨inbox, rfl, fun words => by simp [refuse, toOne, hi]⟩

/-- A frame that does not read as a request is turned down. -/
lemma turnsDown_of_unread {e : WireError} (isOpen : r.isClosed = false)
    (h : r.isRegistered c = true) (unread : Request.ofFrame data = .error e) :
    r.TurnsDown (.frame c data) c e.message := by
  obtain ⟨inbox, hi, words⟩ := exists_refuse_eq h
  refine ⟨inbox, hi, ?_⟩
  simp [step, isOpen, frame, h, unread, words]

/-- A request that the session refuses is turned down. -/
lemma turnsDown_of_refused {request : Request} {e : Refusal} (isOpen : r.isClosed = false)
    (h : r.isRegistered c = true) (read : Request.ofFrame data = .ok request)
    (refused : r.session.serve c request = .error e) :
    r.TurnsDown (.frame c data) c e.message := by
  obtain ⟨inbox, hi, words⟩ := exists_refuse_eq h
  refine ⟨inbox, hi, ?_⟩
  simp [step_frame read, asked, isOpen, h, refused, words]

/-- A request that the session grants is done. -/
lemma grants_of_served {request : Request} {s : Session} {ls : List Letter}
    (isOpen : r.isClosed = false) (h : r.isRegistered c = true)
    (read : Request.ofFrame data = .ok request)
    (served : r.session.serve c request = .ok (s, ls)) : r.Grants (.frame c data) s ls := by
  rw [Grants, step_frame read, asked, isOpen, h, served]
  rfl

end Frames

/-- An attempt to connect that is refused changes nothing and tells nobody but whoever made it. -/
lemma step_connect_of_refused {r : Room} {c : Conn} {inbox : Inbox} {e : Refusal}
    (isOpen : r.isClosed = false) (h : (r.step (.connect c inbox)).2.1 = .refused e) :
    (e = .full ∨ e = .alreadyConnected c) ∧ (r.step (.connect c inbox)).1 = r ∧
      ∀ j, inbox ≠ j → itemsFor j (r.step (.connect c inbox)).2.2 = [] := by
  simp only [step, isOpen, connect] at h ⊢
  cases known : r.isRegistered c with
  | true =>
    simp only [known] at h ⊢
    cases h
    exact ⟨.inr rfl, rfl, fun j ne => itemsFor_cons_of_ne ne _ _⟩
  | false =>
    simp only [known] at h ⊢
    cases hc : r.session.connect c with
    | ok t => simp [hc] at h
    | error e' =>
      simp only [hc] at h ⊢
      cases h
      refine ⟨.inl (Session.connect_eq_error_iff.1 hc).1, rfl, fun j ne => ?_⟩
      rw [if_neg Bool.false_ne_true, if_neg Bool.false_ne_true, itemsFor_cons_of_ne ne,
        itemsFor_cons_of_ne ne, itemsFor_cons_of_ne ne, itemsFor_nil]

/-- In every room that an orderly run leads to: a frame of a connection that is not registered does
nothing; a frame of one that is registered is either a request that the session grants, or changes
nothing and is answered with one notice, which has the words of why it was not read or why it was
refused; a move is granted to a player of a running duel on a square of the board, a vote to a
player of a duel, and everything else is refused for the first condition that is not met; and an
attempt to connect that is refused changes nothing, and nothing of it reaches a member. -/
theorem refusals_change_nothing {before : List Command} {r : Room} (h : Orderly before)
    (reached : (initial.run before).1 = r) (c : Conn) :
    (r.isRegistered c = false → ∀ data, r.step (.frame c data) = (r, .done, [])) ∧
    (r.isRegistered c = true → ∀ data,
      (∃ request s ls, Request.ofFrame data = .ok request ∧
        r.session.serve c request = .ok (s, ls) ∧ r.Grants (.frame c data) s ls) ∨
      (∃ e, Request.ofFrame data = .error e ∧ r.TurnsDown (.frame c data) c e.message) ∨
      ∃ request e, Request.ofFrame data = .ok request ∧ r.session.serve c request = .error e ∧
        r.TurnsDown (.frame c data) c e.message) ∧
    (∀ n, (∃ t, r.session.serve c (.increment n) = .ok t) ↔
      r.session.seats.areFilled = true ∧ r.session.seats.isSeated c = true ∧
        r.session.isOver = false ∧ 0 ≤ n ∧ n < 25) ∧
    ((∃ t, r.session.serve c .rematch = .ok t) ↔
      r.session.seats.areFilled = true ∧ r.session.seats.isSeated c = true) ∧
    (∀ request e, r.session.serve c request = .error e ↔
      r.session.objection? c request = some e) ∧
    ∀ inbox e, inbox ∉ inboxesOf before → (r.step (.connect c inbox)).2.1 = .refused e →
      (e = .full ∨ e = .alreadyConnected c) ∧ (r.step (.connect c inbox)).1 = r ∧
        ∀ m ∈ r.members, itemsFor m.inbox (r.step (.connect c inbox)).2.2 = [] := by
  subst reached
  have sd := sound_initial.run h.noShutdown
  refine ⟨fun hr data => step_frame_of_unregistered sd.isOpen hr, fun hr data => ?_,
    fun n => ?_, ?_, fun request e => Session.serve_eq_error_iff, fun inbox e new refused => ?_⟩
  · cases read : Request.ofFrame data with
    | error e => exact .inr (.inl ⟨e, rfl, turnsDown_of_unread sd.isOpen hr read⟩)
    | ok request =>
      cases served : (initial.run before).1.session.serve c request with
      | error e =>
        exact .inr (.inr ⟨request, e, rfl, served, turnsDown_of_refused sd.isOpen hr read served⟩)
      | ok t =>
        exact .inl ⟨request, t.1, t.2, rfl, served, grants_of_served sd.isOpen hr read served⟩
  · rw [Session.exists_serve_eq_ok_iff]
    simp [Session.conditions]
  · rw [Session.exists_serve_eq_ok_iff]
    simp [Session.conditions]
  · obtain ⟨reason, same, silent⟩ := step_connect_of_refused sd.isOpen refused
    refine ⟨reason, same, fun m hm => silent m.inbox ?_⟩
    have own := (ownInboxes_of_orderly (h.connect c new)).run sound_initial h.noShutdown
    exact own.not_mem hm

/-- The leftover of a first game is told that it is not in the second one, and is not let in again.
-/
theorem refusals_change_nothing_leftover :
    Orderly leftoverRun ∧ (initial.run leftoverRun).1.isRegistered ⟨2⟩ = true ∧
    (initial.run leftoverRun).1.TurnsDown (.frame ⟨2⟩ (Request.frame (.increment 12))) ⟨2⟩
      "you are not in this game" ∧
    4 ∉ inboxesOf leftoverRun ∧
    ((initial.run leftoverRun).1.step (.connect ⟨2⟩ 4)).2.1 = .refused (.alreadyConnected ⟨2⟩) ∧
    ((initial.run leftoverRun).1.step (.connect ⟨2⟩ 4)).1 = (initial.run leftoverRun).1 ∧
    ∀ m ∈ (initial.run leftoverRun).1.members,
      itemsFor m.inbox ((initial.run leftoverRun).1.step (.connect ⟨2⟩ 4)).2.2 = [] := by
  have orderly : Orderly leftoverRun := ⟨by decide, by decide⟩
  have known : (initial.run leftoverRun).1.isRegistered ⟨2⟩ = true := by decide +kernel
  have again : ((initial.run leftoverRun).1.step (.connect ⟨2⟩ 4)).2.1 =
      .refused (.alreadyConnected ⟨2⟩) := by decide +kernel
  obtain ⟨_, frames, _, _, reasons, connects⟩ := refusals_change_nothing orderly rfl ⟨2⟩
  have objection : (initial.run leftoverRun).1.session.serve ⟨2⟩ (.increment 12) =
      .error .notAPlayer := (reasons _ _).2 (by decide +kernel)
  refine ⟨orderly, known, ?_, by decide, again, (connects 4 _ (by decide) again).2⟩
  obtain ⟨request, s, ls, read, served, _⟩ | ⟨e, unread, _⟩ | ⟨request, e, read, refused, words⟩ :=
    frames known (Request.frame (.increment 12))
  · rw [ofFrame_middle] at read
    cases read
    rw [objection] at served
    cases served
  · rw [ofFrame_middle] at unread
    cases unread
  · rw [ofFrame_middle] at read
    cases read
    rw [objection] at refused
    cases refused
    exact words

end Room

end ParityDuel
