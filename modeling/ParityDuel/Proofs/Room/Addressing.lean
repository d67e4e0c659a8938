import ParityDuel.Proofs.Room.Shutdown

/-!
# Whom letters are addressed to

A session addresses letters to those it has seated; the room looks up their inboxes among those it
has registered, and would drop a letter without a word if there were none. `Room.letters` are the
letters that a command makes a room send. Each is for everyone or for one connection, as its kind
tells (`Letter.IsFitting`), and whoever it is for is registered when it is delivered, for everyone
seated is, before and after every command (`Step.letters_fit`). So no letter is dropped
(`every_letter_arrives`).
-/

namespace ParityDuel

namespace Notice

/-- The kinds of notices that everyone is told. -/
def publicKinds : List String := ["UPDATE", "GAME_OVER", "OPPONENT_DISCONNECTED"]

/-- The kinds of notices that one connection is told. -/
def privateKinds : List String := ["PLAYER_ASSIGNED", "WAITING", "WAITING_FOR_REMATCH", "ERROR"]

/-- Whether a notice is of those that everyone is told. -/
def isPublic : Notice → Bool
  | update .. | gameOver .. | opponentLeft .. => true
  | assigned .. | waiting .. | rematchVotes .. | refused .. => false

lemma isPublic_eq_true_iff (n : Notice) : n.isPublic = true ↔ n.kind ∈ publicKinds := by
  cases n <;> simp [isPublic, kind, publicKinds]

lemma isPublic_eq_false_iff (n : Notice) : n.isPublic = false ↔ n.kind ∈ privateKinds := by
  cases n <;> simp [isPublic, kind, privateKinds]

end Notice

namespace Letter

/-- A letter is for everyone or for one of certain connections, as its kind tells. -/
def IsFitting (l : Letter) (known : Conn → Prop) : Prop :=
  match l.recipient with
  | .all => l.notice.isPublic = true
  | .one c => known c ∧ l.notice.isPublic = false

variable {l : Letter} {known known' : Conn → Prop}

/-- A letter goes on to fit when more are known. -/
lemma IsFitting.imp (fit : l.IsFitting known) (h : ∀ c, known c → known' c) :
    l.IsFitting known' := by
  obtain ⟨recipient, n⟩ := l
  cases recipient with
  | all => exact fit
  | one c => exact ⟨h c fit.1, fit.2⟩

/-- The kind of a letter tells whether it is for everyone. -/
lemma IsFitting.recipient_eq_all_iff (fit : l.IsFitting known) :
    l.recipient = .all ↔ l.notice.isPublic = true := by
  obtain ⟨recipient, n⟩ := l
  cases recipient with
  | all => exact iff_of_true rfl fit
  | one c => exact iff_of_false nofun (Bool.eq_false_iff.1 fit.2)

end Letter

namespace Session

variable {s s' : Session} {c : Conn} {ls : List Letter}

/-- A seating is told to those who are seated. -/
lemma connect_fits {role : Role} (h : s.connect c = .ok (role, s', ls)) :
    ∀ l ∈ ls, l.IsFitting (s'.seats.isSeated · = true) := by
  obtain ⟨seats, assigned, rfl, rfl⟩ := connect_inv h
  have seated : seats.isSeated c = true := by
    cases assigned with
    | kept hr => simp [Seats.isSeated, hr]
    | odd _ _ => exact Seats.isSeated_iff.2 (.inl rfl)
    | even _ _ _ => exact Seats.isSeated_iff.2 (.inr rfl)
  intro l hl
  obtain rfl | hl := List.mem_cons.1 hl
  · exact ⟨seated, rfl⟩
  · unfold greeting at hl
    split at hl
    case h_1 a b pair =>
      have both : seats = ⟨some a, some b⟩ := Seats.pair_eq_some_iff.1 pair
      obtain rfl | hl := List.mem_cons.1 hl
      · exact ⟨Seats.isSeated_iff.2 (.inl (by rw [both])), rfl⟩
      · rw [List.mem_singleton.1 hl]
        exact ⟨Seats.isSeated_iff.2 (.inr (by rw [both])), rfl⟩
    case h_2 =>
      rw [List.mem_singleton.1 hl]
      exact ⟨seated, rfl⟩

/-- A move is told to everyone, a vote or an agreement to the two players. -/
lemma Served.fits {request : Request} (sv : s.Served c request s' ls) :
    ∀ l ∈ ls, l.IsFitting (s'.seats.isSeated · = true) := by
  intro l hl
  cases sv with
  | moved _ _ _ _ =>
    obtain rfl | hl := List.mem_cons.1 hl
    · exact rfl
    · obtain ⟨w, _, rfl⟩ := List.mem_map.1 hl
      exact rfl
  | @proposed a b other seats players _ =>
    have both : s.seats.isSeated c = true ∧ s.seats.isSeated other = true := by
      rw [Seats.isSeated_iff, Seats.isSeated_iff, seats]
      obtain ⟨rfl, rfl⟩ | ⟨rfl, rfl⟩ := players
      · exact ⟨.inl rfl, .inr rfl⟩
      · exact ⟨.inr rfl, .inl rfl⟩
    obtain rfl | hl := List.mem_cons.1 hl
    · exact ⟨both.1, rfl⟩
    · rw [List.mem_singleton.1 hl]
      exact ⟨both.2, rfl⟩
  | agreed _ _ _ =>
    obtain rfl | hl := List.mem_cons.1 hl
    · exact ⟨Seats.isSeated_iff.2 (.inr rfl), rfl⟩
    · rw [List.mem_singleton.1 hl]
      exact ⟨Seats.isSeated_iff.2 (.inl rfl), rfl⟩

/-- That a player has left is told to everyone. -/
lemma Sound.leave_fits (sd : s.Sound) (h : s.leave c = (s', ls)) :
    ∀ l ∈ ls, l.IsFitting (s'.seats.isSeated · = true) := by
  intro l hl
  obtain ⟨_, _, rfl⟩ | ⟨_, _, rfl⟩ := sd.leave_inv h
  · rw [List.mem_singleton.1 hl]
    exact rfl
  · cases hl

end Session

namespace Room

variable {r r' : Room} {cmd : Command} {ls : List Letter} {ds : List Delivery} {l : Letter}

/-- The letters that a command makes a room send. -/
def letters (r : Room) (cmd : Command) : List Letter :=
  if r.isClosed then []
  else
    match cmd with
    | .connect c _ =>
      if r.isRegistered c then []
      else
        match r.session.connect c with
        | .error _ => []
        | .ok (_, _, ls) => ls
    | .frame c data =>
      if r.isRegistered c then
        match Request.ofFrame data with
        | .error e => [⟨.one c, .refused e.message⟩]
        | .ok request =>
          match r.session.serve c request with
          | .error e => [⟨.one c, .refused e.message⟩]
          | .ok (_, ls) => ls
      else []
    | .disconnect c => if r.isRegistered c then (r.session.leave c).2 else []
    | .snapshot => []
    | .shutdown => []

/-- The letters of a command are those that it sends. -/
lemma Step.letters_eq (st : r.Step cmd r' ls ds) (isOpen : r.isClosed = false) :
    r.letters cmd = ls := by
  unfold letters
  rw [isOpen]
  cases st with
  | known hr => simp [hr]
  | turnedAway hr hc => simp [hr, hc]
  | joined hr hc => simp [hr, hc]
  | passedOver hr => simp [hr]
  | unread hr hf => simp [hr, hf]
  | refused hr hf hs => simp [hr, hf, hs]
  | granted hr hf hs => simp [hr, hf, hs]
  | absent hr => simp [hr]
  | @left c inbox _ _ hi hl =>
    have hr : r.isRegistered c = true := isRegistered_iff.2 ⟨inbox, mem_of_inboxOf? hi⟩
    simp [hr, hl]
  | looked => rfl

/-- What a command sends is for those who are registered afterwards. -/
lemma Step.letters_fit (st : r.Step cmd r' ls ds) (sd : r.Sound) :
    ∀ l ∈ ls, l.IsFitting (r'.isRegistered · = true) := by
  have registered := (sd.of_step st).seatedRegistered
  have refusal {c : Conn} {words : String} (hr : r.isRegistered c = true) :
      ∀ l ∈ [(⟨.one c, .refused words⟩ : Letter)], l.IsFitting (r.isRegistered · = true) := by
    intro l hl
    rw [List.mem_singleton.1 hl]
    exact ⟨hr, rfl⟩
  cases st with
  | known _ => exact nofun
  | turnedAway _ _ => exact nofun
  | joined _ hc => exact fun l hl => (Session.connect_fits hc l hl).imp registered
  | passedOver _ => exact nofun
  | unread hr _ => exact refusal hr
  | refused hr _ _ => exact refusal hr
  | granted _ _ hs => exact fun l hl => ((Session.serve_inv hs).fits l hl).imp registered
  | absent _ => exact nofun
  | left _ hl' => exact fun l hl => (sd.session.leave_fits hl' l hl).imp registered
  | looked => exact nofun

/-- What is delivered are the letters, as the room afterwards delivers them; and besides, directly
to the inbox of whoever joins or leaves, its end, which only a connection that is turned away is
told the reason of. -/
lemma Step.deliveries_eq (st : r.Step cmd r' ls ds) : ∃ direct, ds = direct ++ r'.dispatch ls ∧
    ∀ d ∈ direct, ∀ n, d.item = .notice n → ∃ c e, cmd = .connect c d.inbox ∧
      r.session.connect c = .error e ∧ n = .refused e.message := by
  cases st with
  | known _ => exact ⟨_, (List.append_nil _).symm, by simp⟩
  | turnedAway _ hc => exact ⟨_, (List.append_nil _).symm, by simp [hc, eq_comm]⟩
  | joined _ _ => exact ⟨[], rfl, nofun⟩
  | passedOver _ => exact ⟨[], rfl, nofun⟩
  | unread _ _ => exact ⟨[], refuse_eq_dispatch r _ _, nofun⟩
  | refused _ _ _ => exact ⟨[], refuse_eq_dispatch r _ _, nofun⟩
  | granted _ _ _ => exact ⟨[], rfl, nofun⟩
  | absent _ => exact ⟨[], rfl, nofun⟩
  | left _ _ => exact ⟨[_], rfl, by simp⟩
  | looked => exact ⟨[], rfl, nofun⟩

/-- A letter to somebody who is registered is delivered. -/
lemma deliver_of_isRegistered {c : Conn} (hl : l.recipient = .one c)
    (hr : r.isRegistered c = true) :
    ∃ inbox, (⟨c, inbox⟩ : Member) ∈ r.members ∧ r.deliver l = [⟨inbox, .notice l.notice⟩] := by
  cases hi : r.inboxOf? c with
  | none =>
    rw [inboxOf?_eq_none_iff, hr] at hi
    cases hi
  | some inbox => exact ⟨inbox, mem_of_inboxOf? hi, by simp [deliver, hl, toOne, hi]⟩

/-- In every room that a run of commands leads to, and for every further command: the notices that
are delivered are those of the letters of the command, delivered among the members that the room has
then, but for the refusal of a connection that is turned away, which goes to the inbox that it
brings; a letter to one connection is an assignment, a waiting notice, a vote for a rematch or a
refusal, its recipient is registered and so it is delivered, to an inbox that the room keeps for the
recipient; and moves, wins and departures are what is addressed to everyone, and nothing else is. -/
theorem every_letter_arrives (cs : List Command) (cmd : Command) :
    (∃ direct, ((initial.run cs).1.step cmd).2.2 =
        direct ++ ((initial.run cs).1.step cmd).1.dispatch ((initial.run cs).1.letters cmd) ∧
      ∀ d ∈ direct, ∀ n, d.item = .notice n → ∃ c e, cmd = .connect c d.inbox ∧
        (initial.run cs).1.session.connect c = .error e ∧ n = .refused e.message) ∧
    ∀ l ∈ (initial.run cs).1.letters cmd,
      (∀ c, l.recipient = .one c → l.notice.kind ∈ Notice.privateKinds ∧
        ((initial.run cs).1.step cmd).1.isRegistered c = true ∧
        ∃ inbox, (⟨c, inbox⟩ : Member) ∈ ((initial.run cs).1.step cmd).1.members ∧
          ((initial.run cs).1.step cmd).1.deliver l = [⟨inbox, .notice l.notice⟩]) ∧
      (l.recipient = .all ↔ l.notice.kind ∈ Notice.publicKinds) := by
  generalize reached : (initial.run cs).1 = r
  obtain closed | sd := reached ▸ isClosed_or_sound cs
  · -- a closed room sends no letters, and only ends the inboxes that are brought
    have none : r.letters cmd = [] := by simp [letters, closed]
    rw [none, step_of_closed closed]
    exact ⟨⟨_, (List.append_nil _).symm, by simp⟩, nofun⟩
  by_cases down : cmd = .shutdown
  · subst down
    have none : r.letters .shutdown = [] := by simp [letters]
    rw [none, step_shutdown sd.isOpen]
    refine ⟨⟨_, (List.append_nil _).symm, fun d hd n hn => ?_⟩, nofun⟩
    obtain hd | hd := List.mem_append.1 hd
    · obtain ⟨m, _, rfl⟩ := List.mem_map.1 hd
      cases hn
    · obtain ⟨m, _, rfl⟩ := List.mem_map.1 hd
      cases hn
  · obtain ⟨ls, st⟩ := step_inv sd.isOpen down
    rw [st.letters_eq sd.isOpen]
    refine ⟨st.deliveries_eq, fun l hl => ?_⟩
    have fit := st.letters_fit sd l hl
    refine ⟨fun c one => ?_, ?_⟩
    · rw [Letter.IsFitting, one] at fit
      exact ⟨l.notice.isPublic_eq_false_iff.1 fit.2, fit.1, deliver_of_isRegistered one fit.1⟩
    · rw [fit.recipient_eq_all_iff, l.notice.isPublic_eq_true_iff]

/-- In a second game, with a connection of the first one left over, a vote makes two letters. The
one to the opponent is delivered to the inbox of the opponent. -/
theorem every_letter_arrives_leftover :
    (initial.run leftoverRun).1.letters (.frame ⟨4⟩ (Request.frame .rematch)) =
      [⟨.one ⟨4⟩, Session.voteNotice "Waiting for opponent to accept rematch..." 1⟩,
        ⟨.one ⟨5⟩,
          Session.voteNotice "Opponent wants a rematch. Click Play Again to accept." 1⟩] ∧
    ∃ inbox, (⟨⟨5⟩, inbox⟩ : Member) ∈ ((initial.run leftoverRun).1.step
        (.frame ⟨4⟩ (Request.frame .rematch))).1.members ∧
      ((initial.run leftoverRun).1.step (.frame ⟨4⟩ (Request.frame .rematch))).1.deliver
        ⟨.one ⟨5⟩, Session.voteNotice "Opponent wants a rematch. Click Play Again to accept." 1⟩ =
          [⟨inbox, .notice
            (Session.voteNotice "Opponent wants a rematch. Click Play Again to accept." 1)⟩] := by
  have sent : (initial.run leftoverRun).1.letters (.frame ⟨4⟩ (Request.frame .rematch)) =
      [⟨.one ⟨4⟩, Session.voteNotice "Waiting for opponent to accept rematch..." 1⟩,
        ⟨.one ⟨5⟩,
          Session.voteNotice "Opponent wants a rematch. Click Play Again to accept." 1⟩] := by
    simp only [letters, ofFrame_rematch]
    decide +kernel
  obtain ⟨_, arrives⟩ := every_letter_arrives leftoverRun (.frame ⟨4⟩ (Request.frame .rematch))
  rw [sent] at arrives
  exact ⟨sent, ((arrives _ (List.mem_cons_of_mem _ List.mem_cons_self)).1 ⟨5⟩ rfl).2.2⟩

end Room

end ParityDuel
