import ParityDuel.Proofs.Session.Winning

/-!
# Phases

The phase of a session is read off its seats and its latch, so nothing keeps it on its diagram but
what the operations do. `Session.Arrow` draws the diagram: the second seat is filled, a line is
completed, a rematch is agreed after a win, a player leaves or the session is reset. Every change of
phase is one of these arrows (`Turn.phase_eq_or_arrow`), and every arrow changes the phase as it is
drawn (`Arrow.phases`).
-/

namespace ParityDuel

namespace Session

variable {s s' : Session} {op : Op} {ls : List Letter} {p p' : Phase}

/-- One waits while a seat is free. -/
lemma phase_eq_waiting_iff : s.phase = .waiting ↔ s.seats.areFilled = false := by
  unfold phase
  cases s.seats.areFilled <;> cases s.isOver <;> simp

/-- One plays while both seats are held and the game is not over. -/
lemma phase_eq_playing_iff :
    s.phase = .playing ↔ s.seats.areFilled = true ∧ s.isOver = false := by
  unfold phase
  cases s.seats.areFilled <;> cases s.isOver <;> simp

/-- Without a player in either seat, no game is over. -/
lemma phase_eq_gameOver_iff :
    s.phase = .gameOver ↔ s.seats.areFilled = true ∧ s.isOver = true := by
  unfold phase
  cases s.seats.areFilled <;> cases s.isOver <;> simp

/-- The phase changes only with the seats and the latch. -/
lemma phase_congr (seats : s'.seats = s.seats) (latch : s'.isOver = s.isOver) :
    s'.phase = s.phase := by
  rw [phase, phase, seats, latch]

/-- A game that is being played takes the moves of its players on the squares of the board, and
nothing else is taken as a move. -/
lemma exists_increment_iff {c : Conn} {n : Int64} : (∃ t, s.increment c n = .ok t) ↔
    s.phase = .playing ∧ s.seats.isSeated c = true ∧ 0 ≤ n ∧ n < 25 := by
  have granted : (∃ t, s.serve c (.increment n) = .ok t) ↔ _ := exists_serve_eq_ok_iff
  rw [phase_eq_playing_iff, and_assoc, and_left_comm (a := s.isOver = false)]
  simpa [serve, conditions] using granted

/-- The arrows of the diagram: an operation that leads from one session to another, with the phases
it leads from and to. -/
inductive Arrow (s s' : Session) : Op → Phase → Phase → Prop where
  | filled {a c} :
    s.seats = ⟨some a, none⟩ →
    s'.seats = ⟨some a, some c⟩ →
    Arrow s s' (.connect c) .waiting .playing
  | completed {c n l r} :
    (∃ t, s.increment c n = .ok t) →
    (∀ m ∈ Line.inOrder, ∀ r, ¬ m.OwnedBy s.board r) →
    l ∈ Line.inOrder →
    l.OwnedBy s'.board r →
    Arrow s s' (.increment c n) .playing .gameOver
  | agreed {c} :
    s.isOver = true →
    s.agrees (.vote c) = true →
    Arrow s s' (.vote c) .gameOver .playing
  | left {c} :
    s.seats.areFilled = true →
    s.seats.isSeated c = true →
    Arrow s s' (.leave c) s.phase .waiting
  | reset :
    s.seats.areFilled = true →
    Arrow s s' .reset s.phase .waiting

/-- Agreement on a rematch clears everything but the seats, which it swaps. -/
lemma Turn.of_agrees (tn : s.Turn op s' ls) (agrees : s.agrees op = true) :
    ∃ a b, s.seats = ⟨some a, some b⟩ ∧ s' = ⟨.empty, ⟨some b, some a⟩, .empty, false⟩ := by
  cases tn with
  | voted sv =>
    cases sv with
    | proposed _ _ few => exact absurd (agrees_vote_iff.1 agrees).2.2 (Nat.not_le_of_lt few)
    | agreed seats _ _ => exact ⟨_, _, seats, rfl⟩
  | unvoted h =>
    rw [agrees_of_refused h] at agrees
    cases agrees
  | joined _ => cases agrees
  | turnedAway _ => cases agrees
  | moved _ => cases agrees
  | unmoved _ => cases agrees
  | left _ => cases agrees
  | reset => cases agrees

/-- Filling the second seat of a sound session starts the game on a board that nobody has touched.
-/
lemma Sound.filled_of_connect {c : Conn} {role : Role} (sd : s.Sound)
    (h : s.connect c = .ok (role, s', ls)) :
    s'.seats = s.seats ∨ s = initial ∧ s'.seats = ⟨some c, none⟩ ∨
      ∃ a, s.seats = ⟨some a, none⟩ ∧ s' = ⟨.empty, ⟨some a, some c⟩, .empty, false⟩ := by
  obtain ⟨seats, assigned, rfl, -⟩ := connect_inv h
  cases assigned with
  | kept _ => exact .inl rfl
  | odd _ free =>
    obtain rfl := sd.eq_initial free
    exact .inr (.inl ⟨rfl, rfl⟩)
  | @even a _ taken free =>
    have seats : s.seats = ⟨some a, none⟩ := by
      rw [← taken, ← free]
    have unfilled : s.seats.areFilled = false := by
      rw [seats]
      rfl
    refine .inr (.inr ⟨a, seats, ?_⟩)
    rw [sd.eq_of_unfilled unfilled, seats]

/-- The second seat is filled by a connection that joins. -/
lemma Turn.of_filled {a c : Conn} (tn : s.Turn (.connect c) s' ls) (sd : s.Sound)
    (seats : s.seats = ⟨some a, none⟩) (seats' : s'.seats = ⟨some a, some c⟩) :
    s' = ⟨.empty, ⟨some a, some c⟩, .empty, false⟩ := by
  cases tn with
  | joined hc =>
    obtain same | ⟨rfl, _⟩ | ⟨_, _, rfl⟩ := sd.filled_of_connect hc
    · rw [seats, seats'] at same
      cases same
    · cases seats
    · cases seats'
      rfl
  | turnedAway _ =>
    rw [seats] at seats'
    cases seats'

/-- One operation leaves the phase as it was or goes along an arrow. -/
lemma Turn.phase_eq_or_arrow (tn : s.Turn op s' ls) (sd : s.Sound) :
    s'.phase = s.phase ∨ s.Arrow s' op s.phase s'.phase := by
  cases tn with
  | @joined c role s' ls hc =>
    obtain same | ⟨rfl, seats⟩ | ⟨a, seats, rfl⟩ := sd.filled_of_connect hc
    · exact .inl (phase_congr same (connect_quiet hc).2.1)
    · have waiting : s'.phase = .waiting := phase_eq_waiting_iff.2 (by rw [seats]; rfl)
      exact .inl waiting
    · have waiting : s.phase = .waiting := phase_eq_waiting_iff.2 (by rw [seats]; rfl)
      rw [waiting]
      exact .inr (.filled seats rfl)
  | turnedAway _ => exact .inl rfl
  | @moved c n s' ls sv =>
    cases sv with
    | @moved _ q filled seated running hq =>
      have playing : s.phase = .playing := phase_eq_playing_iff.2 ⟨filled, running⟩
      have accepted :=
        exists_increment_iff.2 ⟨playing, seated, Square.exists_ofNumber_iff.1 ⟨q, hq⟩⟩
      cases hw : (s.board.bump q).win? with
      | none => exact .inl (phase_congr rfl running.symm)
      | some w =>
        obtain ⟨hl, owned⟩ := Board.win?_eq_some hw
        have won : phase ⟨s.board.bump q, s.seats, s.ballot, (some w).isSome⟩ = .gameOver :=
          phase_eq_gameOver_iff.2 ⟨filled, rfl⟩
        rw [playing, won]
        exact .inr (.completed accepted (sd.no_line_of_running running) hl owned)
  | unmoved _ => exact .inl rfl
  | voted sv =>
    cases sv with
    | proposed _ _ _ => exact .inl rfl
    | @agreed a b seats seated enough =>
      have filled : s.seats.areFilled = true := by
        rw [seats]
        rfl
      cases latch : s.isOver with
      | false => exact .inl (phase_eq_playing_iff.2 ⟨filled, latch⟩).symm
      | true =>
        rw [phase_eq_gameOver_iff.2 ⟨filled, latch⟩]
        exact .inr (.agreed latch (agrees_of_enough seats seated enough))
  | unvoted _ => exact .inl rfl
  | @left c s' ls hl =>
    obtain ⟨seated, rfl, _⟩ | ⟨_, rfl, _⟩ := sd.leave_inv hl
    · cases filled : s.seats.areFilled with
      | false => exact .inl (phase_eq_waiting_iff.2 filled).symm
      | true => exact .inr (.left filled seated)
    · exact .inl rfl
  | reset =>
    cases filled : s.seats.areFilled with
    | false => exact .inl (phase_eq_waiting_iff.2 filled).symm
    | true => exact .inr (.reset filled)

/-- An arrow leads between the phases that it is drawn between. -/
lemma Arrow.phases (ar : s.Arrow s' op p p') (tn : s.Turn op s' ls) (sd : s.Sound) :
    s.phase = p ∧ s'.phase = p' ∧ p ≠ p' := by
  have started (filled : s.seats.areFilled = true) : s.phase ≠ .waiting := by
    rw [Ne, phase_eq_waiting_iff, filled]
    exact Bool.noConfusion
  cases ar with
  | @filled a c seats seats' =>
    obtain rfl := tn.of_filled sd seats seats'
    exact ⟨phase_eq_waiting_iff.2 (by rw [seats]; rfl), rfl, nofun⟩
  | @completed c n l r accepted _ hl owned =>
    obtain ⟨playing, _⟩ := exists_increment_iff.1 accepted
    refine ⟨playing, ?_, nofun⟩
    cases tn with
    | moved sv =>
      cases sv with
      | @moved _ q filled _ _ _ =>
        refine phase_eq_gameOver_iff.2 ⟨filled, ?_⟩
        rw [Option.isSome_iff_ne_none]
        exact fun none => Board.win?_eq_none_iff.1 none l hl r owned
    | unmoved refused =>
      obtain ⟨t, ht⟩ := accepted
      rw [refused] at ht
      cases ht
  | agreed latch agrees =>
    obtain ⟨a, b, seats, rfl⟩ := tn.of_agrees agrees
    exact ⟨phase_eq_gameOver_iff.2 ⟨by rw [seats]; rfl, latch⟩, rfl, nofun⟩
  | left filled seated =>
    cases tn with
    | left hl =>
      obtain ⟨_, rfl, _⟩ | ⟨unseated, _⟩ := sd.leave_inv hl
      · exact ⟨rfl, rfl, started filled⟩
      · rw [seated] at unseated
        cases unseated
  | reset filled =>
    cases tn with
    | reset => exact ⟨rfl, rfl, started filled⟩

/-- A game that has just been started, for the first time or by agreement, is untouched. -/
lemma Turn.fresh (tn : s.Turn op s' ls) (sd : s.Sound)
    (started : s.phase ≠ .playing ∧ s'.phase = .playing ∨ s.agrees op = true) :
    s'.phase = .playing ∧ s'.board = .empty ∧ s'.isOver = false ∧ s'.ballot = .empty := by
  obtain ⟨a, b, rfl⟩ : ∃ a b, s' = ⟨.empty, ⟨some a, some b⟩, .empty, false⟩ := by
    obtain ⟨elsewhere, playing⟩ | agrees := started
    · obtain same | ar := tn.phase_eq_or_arrow sd
      · exact absurd (same.symm.trans playing) elsewhere
      rw [playing] at ar
      generalize s.phase = p at ar
      cases ar with
      | filled seats seats' => exact ⟨_, _, tn.of_filled sd seats seats'⟩
      | agreed _ agrees =>
        obtain ⟨a, b, _, new⟩ := tn.of_agrees agrees
        exact ⟨b, a, new⟩
    · obtain ⟨a, b, _, new⟩ := tn.of_agrees agrees
      exact ⟨b, a, new⟩
  exact ⟨rfl, rfl, rfl, rfl⟩

/-- In every session that a run leads to, an operation changes the phase exactly where an arrow of
the diagram is drawn, and as it is drawn. A game that is entered, and one that is agreed on while
another goes on, starts with nothing played, nothing won and nothing voted. And while a game is
played, every move of a player on a square of the board is accepted, however full the board is. -/
theorem phase_follows_the_diagram {ops : List Op} {s : Session} (reached : initial.after ops = s) :
    (∀ op p p', s.phase = p ∧ (s.turn op).1.phase = p' ∧ p ≠ p' ↔ s.Arrow (s.turn op).1 op p p') ∧
    (∀ op, s.phase ≠ .playing ∧ (s.turn op).1.phase = .playing ∨ s.agrees op = true →
      (s.turn op).1.phase = .playing ∧ (s.turn op).1.board = .empty ∧
        (s.turn op).1.isOver = false ∧ (s.turn op).1.ballot = .empty) ∧
    (s.phase = .playing → ∀ c n, s.seats.isSeated c = true → 0 ≤ n → n < 25 →
      ∃ s' ls, s.increment c n = .ok (s', ls)) := by
  subst reached
  have sd := sound_initial.after ops
  refine ⟨fun op p p' => ⟨?_, fun ar => ar.phases (turn_inv _ op) sd⟩,
    fun op started => (turn_inv _ op).fresh sd started, fun playing c n seated low high => ?_⟩
  · rintro ⟨rfl, rfl, change⟩
    exact ((turn_inv _ op).phase_eq_or_arrow sd).resolve_left change.symm
  · obtain ⟨⟨s', ls⟩, accepted⟩ := exists_increment_iff.2 ⟨playing, seated, low, high⟩
    exact ⟨s', ls, accepted⟩

/-- The row is completed, and its loser asks for a rematch. -/
def wonRun : List Op := rowRun ++ [.increment ⟨2⟩ 4, .vote ⟨2⟩]

/-- The last move on the row ends the game, the second vote starts another one on an empty board,
and the last square is open for a move. -/
theorem phase_follows_the_diagram_rematch :
    ((initial.after rowRun).turn (.increment ⟨2⟩ 4)).1.phase = .gameOver ∧
    (initial.after rowRun).Arrow ((initial.after rowRun).turn (.increment ⟨2⟩ 4)).1
      (.increment ⟨2⟩ 4) .playing .gameOver ∧
    (initial.after wonRun).agrees (.vote ⟨1⟩) = true ∧
    ((initial.after wonRun).turn (.vote ⟨1⟩)).1.board = .empty ∧
    (initial.after rowRun).phase = .playing ∧
    (initial.after rowRun).seats.isSeated ⟨1⟩ = true ∧
    ∃ s' ls, (initial.after rowRun).increment ⟨1⟩ 24 = .ok (s', ls) := by
  obtain ⟨arrows, _, moves⟩ := phase_follows_the_diagram (s := initial.after rowRun) rfl
  obtain ⟨_, starts, _⟩ := phase_follows_the_diagram (s := initial.after wonRun) rfl
  have playing : (initial.after rowRun).phase = .playing := by decide +kernel
  have won : ((initial.after rowRun).turn (.increment ⟨2⟩ 4)).1.phase = .gameOver := by
    decide +kernel
  have agrees : (initial.after wonRun).agrees (.vote ⟨1⟩) = true := by decide +kernel
  have seated : (initial.after rowRun).seats.isSeated ⟨1⟩ = true := by decide +kernel
  exact ⟨won, (arrows _ _ _).1 ⟨playing, won, nofun⟩, agrees, (starts _ (.inr agrees)).2.1,
    playing, seated, moves playing ⟨1⟩ 24 seated (by decide) (by decide)⟩

end Session

end ParityDuel
