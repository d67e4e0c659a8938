import ParityDuel.Proofs.Session.Inversion

/-!
# Session soundness

The invariant of a session. Seats fill from the odd one and never hold one connection twice; votes
come from seated players, and a second vote is never left standing; the session is over exactly when
its board shows a win; and until both seats are filled nothing has been played or voted. Every
operation keeps it, whoever asks and whatever square is named, hence so does every sequence of
operations (`Session.after`).
-/

namespace ParityDuel

namespace Session

/-- What holds of a session between operations. -/
structure Sound (s : Session) : Prop where
  /-- No connection holds both seats. -/
  distinct : ∀ c, s.seats.odd = some c → s.seats.even ≠ some c
  /-- The even seat is filled only after the odd one. -/
  oddFirst : s.seats.even ≠ none → s.seats.odd ≠ none
  /-- Only seated connections have voted. -/
  votersSeated : ∀ c ∈ s.ballot.voters, s.seats.isSeated c = true
  /-- At most one vote stands. -/
  oneVote : s.ballot.count ≤ 1
  /-- The session is over exactly when the board shows a win. -/
  overIffWin : s.isOver = s.board.win?.isSome
  /-- Before both seats are filled nothing has happened. -/
  untilFilled : s.seats.areFilled = false → s.board = .empty ∧ s.isOver = false ∧ s.ballot = .empty

lemma win?_empty : Board.empty.win? = none := by
  decide

/-- A session with an unfilled seat is as at the beginning but for its seats. -/
lemma Sound.eq_of_unfilled {s : Session} (sd : s.Sound) (h : s.seats.areFilled = false) :
    s = ⟨.empty, s.seats, .empty, false⟩ := by
  obtain ⟨board, running, ballot⟩ := sd.untilFilled h
  obtain ⟨_, _, _, _⟩ := s
  simp_all

/-- With a free odd seat nobody is seated. -/
lemma Sound.eq_initial {s : Session} (sd : s.Sound) (h : s.seats.odd = none) : s = initial := by
  have even : s.seats.even = none := Decidable.of_not_not fun taken => sd.oddFirst taken h
  have seats : s.seats = .empty := by
    rw [show s.seats = ⟨s.seats.odd, s.seats.even⟩ from rfl, h, even]
    rfl
  have unfilled : s.seats.areFilled = false := by
    rw [seats]
    rfl
  rw [sd.eq_of_unfilled unfilled, seats]
  rfl

/-- A stage with both votes is never left standing. -/
lemma Sound.stage_ne_bothVoted {s : Session} (sd : s.Sound) : s.ballot.stage ≠ .bothVoted := by
  obtain none | one := Nat.le_one_iff_eq_zero_or_eq_one.1 sd.oneVote
  · simp [Ballot.stage, none]
  · simp [Ballot.stage, one]

/-- A session in which somebody waits for an opponent, or nobody does, is sound. -/
lemma sound_of_waiting {seats : Seats} (h : seats.even = none) :
    Sound ⟨.empty, seats, .empty, false⟩ where
  distinct c _ e := by simp [h] at e
  oddFirst taken := absurd h taken
  votersSeated c hc := by simp [Ballot.empty] at hc
  oneVote := by simp [Ballot.empty, Ballot.count]
  overIffWin := by rw [win?_empty]; rfl
  untilFilled _ := ⟨rfl, rfl, rfl⟩

/-- A duel of two players with at most the vote of one of them is sound. -/
lemma sound_of_duel {board : Board} {a b : Conn} {ballot : Ballot} {isOver : Bool} (ne : a ≠ b)
    (voters : ∀ c ∈ ballot.voters, c = a ∨ c = b) (few : ballot.count ≤ 1)
    (latch : isOver = board.win?.isSome) : Sound ⟨board, ⟨some a, some b⟩, ballot, isOver⟩ where
  distinct c ha hb := ne ((Option.some.inj ha).trans (Option.some.inj hb).symm)
  oddFirst _ := by simp
  votersSeated c hc := by
    obtain rfl | rfl := voters c hc
    · exact Seats.isSeated_iff.2 (.inl rfl)
    · exact Seats.isSeated_iff.2 (.inr rfl)
  oneVote := few
  overIffWin := latch
  untilFilled h := by simp [Seats.areFilled, Seats.pair] at h

/-- The players of a sound session are two. -/
lemma Sound.ne {s : Session} {a b : Conn} (sd : s.Sound) (h : s.seats = ⟨some a, some b⟩) :
    a ≠ b := by
  rintro rfl
  exact sd.distinct a (by rw [h]) (by rw [h])

/-- Whoever is seated in a duel is one of the two players. -/
lemma eq_or_eq_of_isSeated {seats : Seats} {a b c : Conn} (h : seats = ⟨some a, some b⟩)
    (hc : seats.isSeated c = true) : c = a ∨ c = b := by
  rw [Seats.isSeated_iff, h] at hc
  exact hc.imp (fun e => (Option.some.inj e).symm) (fun e => (Option.some.inj e).symm)

/-- The beginning is sound. -/
lemma sound_initial : initial.Sound :=
  sound_of_waiting rfl

/-- Seating a connection keeps soundness. -/
lemma Sound.connect {s s' : Session} {c : Conn} {role : Role} {ls : List Letter} (sd : s.Sound)
    (h : s.connect c = .ok (role, s', ls)) : s'.Sound := by
  obtain ⟨seats, assigned, rfl, -⟩ := connect_inv h
  cases assigned with
  | kept _ => exact sd
  | odd _ free =>
    -- the even seat is free as well, for it is filled last
    obtain rfl := sd.eq_initial free
    exact sound_of_waiting rfl
  | @even a new taken free =>
    have unfilled : s.seats.areFilled = false := by
      simp [Seats.areFilled, Seats.pair, taken, free]
    have ne : a ≠ c := by
      rintro rfl
      simp [Seats.isSeated_iff.2 (.inl taken)] at new
    rw [sd.eq_of_unfilled unfilled, taken]
    exact sound_of_duel ne (by simp [Ballot.empty]) (by simp [Ballot.empty, Ballot.count])
      (by rw [win?_empty]; rfl)

/-- A granted request keeps soundness. -/
lemma Sound.served {s s' : Session} {c : Conn} {request : Request} {ls : List Letter}
    (sd : s.Sound) (sv : s.Served c request s' ls) : s'.Sound := by
  cases sv with
  | moved filled _ _ _ =>
    exact { sd with
      overIffWin := rfl
      untilFilled := fun unfilled => by simp [filled] at unfilled }
  | proposed seats players _ =>
    obtain ⟨_, _, _, _⟩ := s
    subst seats
    apply sound_of_duel (sd.ne rfl) _ (by simp [Ballot.count]) sd.overIffWin
    intro d hd
    rw [List.mem_singleton.1 hd]
    exact players.imp And.left And.left
  | agreed seats _ _ =>
    exact sound_of_duel (sd.ne seats).symm (by simp [Ballot.empty])
      (by simp [Ballot.empty, Ballot.count]) (by rw [win?_empty]; rfl)

/-- A connection without a seat leaves a sound session as it was, without a word. -/
lemma Sound.leave_unseated {s : Session} {c : Conn} (sd : s.Sound)
    (h : s.seats.isSeated c = false) : s.leave c = (s, []) := by
  have novote : c ∉ s.ballot.voters := by
    intro hc
    simp [sd.votersSeated c hc] at h
  rw [Session.leave_unseated h, Ballot.withdraw_of_not_mem novote]

/-- Inversion for `leave`. -/
lemma Sound.leave_inv {s s' : Session} {c : Conn} {ls : List Letter} (sd : s.Sound)
    (h : s.leave c = (s', ls)) :
    s.seats.isSeated c = true ∧ s' = initial ∧
      ls = [⟨.all, .opponentLeft "Opponent disconnected. Game over."⟩] ∨
    s.seats.isSeated c = false ∧ s' = s ∧ ls = [] := by
  cases seated : s.seats.isSeated c with
  | true =>
    rw [leave_seated seated] at h
    cases h
    exact .inl ⟨rfl, rfl, rfl⟩
  | false =>
    rw [sd.leave_unseated seated] at h
    cases h
    exact .inr ⟨rfl, rfl, rfl⟩

/-- A connection that leaves keeps soundness. -/
lemma Sound.leave {s s' : Session} {c : Conn} {ls : List Letter} (sd : s.Sound)
    (h : s.leave c = (s', ls)) : s'.Sound := by
  obtain ⟨_, rfl, _⟩ | ⟨_, rfl, _⟩ := sd.leave_inv h
  · exact sound_initial
  · exact sd

/-- What can be asked of a session. -/
inductive Op where
  | connect (conn : Conn)
  | increment (conn : Conn) (square : Int64)
  | vote (conn : Conn)
  | leave (conn : Conn)
  | reset
deriving DecidableEq, Repr

/-- The session after an operation with the letters it sends, or the refusal. -/
def perform (s : Session) : Op → Except Refusal (Session × List Letter)
  | .connect c => (s.connect c).map Prod.snd
  | .increment c square => s.increment c square
  | .vote c => s.vote c
  | .leave c => .ok (s.leave c)
  | .reset => .ok (s.reset, [])

/-- The session after a sequence of operations; a refused one leaves it as it was. -/
def after (s : Session) : List Op → Session
  | [] => s
  | op :: ops =>
    match s.perform op with
    | .ok (s', _) => s'.after ops
    | .error _ => s.after ops

/-- Every operation that is not refused keeps soundness. -/
lemma Sound.perform {s s' : Session} {op : Op} {ls : List Letter} (sd : s.Sound)
    (h : s.perform op = .ok (s', ls)) : s'.Sound := by
  cases op with
  | connect c =>
    unfold Session.perform at h
    cases hc : s.connect c with
    | error e => simp [hc, Except.map] at h
    | ok r =>
      obtain ⟨role, t, ms⟩ := r
      simp only [hc, Except.map, Except.ok.injEq, Prod.mk.injEq] at h
      obtain ⟨rfl, rfl⟩ := h
      exact sd.connect hc
  | increment c square => exact sd.served (increment_inv h)
  | vote c => exact sd.served (vote_inv h)
  | leave c => exact sd.leave (Except.ok.inj h)
  | reset =>
    cases h
    exact sound_initial

/-- Every sequence of operations keeps soundness. -/
lemma Sound.after {s : Session} (sd : s.Sound) (ops : List Op) : (s.after ops).Sound := by
  induction ops generalizing s with
  | nil => exact sd
  | cons op ops ih =>
    unfold Session.after
    split
    case h_1 s' ls h => exact ih (sd.perform h)
    case h_2 => exact ih sd

end Session

end ParityDuel
