import ParityDuel.Proofs.Board.Moves
import ParityDuel.Proofs.Session.Winning

/-!
# The order of simultaneous requests

Players act at the same time, and their requests reach the session in some order. As long as every
move is accepted and no vote completes an agreement (`Session.Proceeds`), the order does not matter.
What a run makes of the session follows from the moves and the voters alone: the board is the one
with the moves made on it, the ballot has the voters of the run on it, and the latch is read off the
board, for the session is sound. The same goes for what is told: the counters of a square count on,
and a win is told when the latch is gained, by the line that the final board shows.
-/

namespace ParityDuel

namespace Session

variable {s s' : Session} {op : Op} {ops : List Op} {ls : List Letter}

/-- Whether an operation is a move that is accepted or a vote that leaves the rematch pending. -/
def isTaken (s : Session) : Op → Bool
  | .increment c n => (s.increment c n).isOk
  | .vote c => (s.vote c).isOk && !s.agrees (.vote c)
  | _ => false

/-- Every operation of the list is a move that is accepted or a vote that leaves the rematch
pending. -/
def Proceeds (s : Session) : List Op → Prop
  | [] => True
  | op :: ops => s.isTaken op = true ∧ (s.turn op).1.Proceeds ops

/-- The square that an operation moves on. -/
def Op.square? : Op → Option Square
  | .increment _ n => (Square.ofNumber n).toOption
  | _ => none

/-- The counters of a square that everyone is told, in their order. -/
def countersTold (q : Square) (ls : List Letter) : List UInt64 :=
  ls.filterMap fun l => match l with
    | ⟨.all, .update n v⟩ => if n = q.number then some v else none
    | _ => none

/-- The letters that tell of a win. -/
def winsTold (ls : List Letter) : List Letter := ls.filter (·.notice.isGameOver)

/-- What an operation does that is a move or a pending vote: a move is made on the board and told to
everyone, with the win if there is one; a vote is put on the ballot. -/
inductive Taken (s : Session) : Op → Session → List Letter → Prop where
  | moved {c n q} :
    s.isOver = false →
    Square.ofNumber n = .ok q →
    Taken s (.increment c n)
      { s with board := s.board.bump q, isOver := (s.board.bump q).win?.isSome }
      (moveLetters (s.board.bump q) q)
  | proposed {c ls} :
    (∀ l ∈ ls, l.notice.isUpdate = false ∧ l.notice.isGameOver = false) →
    Taken s (.vote c) { s with ballot := s.ballot.add c } ls

/-- Inversion for `isTaken`. -/
lemma Turn.taken (tn : s.Turn op s' ls) (h : s.isTaken op = true) : s.Taken op s' ls := by
  cases tn with
  | moved sv =>
    cases sv with
    | moved _ _ running hq => exact .moved running hq
  | unmoved refused =>
    rw [isTaken, refused] at h
    cases h
  | voted sv =>
    cases sv with
    | proposed _ _ few =>
      rw [← Ballot.add_of_count_lt few]
      apply Taken.proposed
      simp [voteNotice, Notice.isUpdate, Notice.isGameOver]
    | agreed seats seated enough =>
      rw [isTaken, agrees_of_enough seats seated enough, Bool.not_true, Bool.and_false] at h
      cases h
  | unvoted refused =>
    rw [isTaken, refused] at h
    cases h
  | joined _ => cases h
  | turnedAway _ => cases h
  | left _ => cases h
  | reset => cases h

/-- A move or a vote that is taken ends no game. -/
lemma endsGame_of_isTaken (h : s.isTaken op = true) : s.endsGame op = false := by
  cases op with
  | vote c =>
    rw [isTaken, Bool.and_eq_true, Bool.not_eq_true'] at h
    exact h.2
  | increment c n => rfl
  | connect c => cases h
  | leave c => cases h
  | reset => cases h

/-- Moves and votes that proceed do not end the game. -/
lemma Proceeds.goesOn (pr : s.Proceeds ops) : s.GoesOn ops := by
  induction ops generalizing s with
  | nil => trivial
  | cons op ops ih => exact ⟨endsGame_of_isTaken pr.1, ih pr.2⟩

/-- A run makes its moves on the board, leaves the seats alone, and puts its voters on the ballot.
-/
lemma Proceeds.after (pr : s.Proceeds ops) :
    (s.after ops).board = s.board.bumpAll (ops.filterMap Op.square?) ∧
    (s.after ops).seats = s.seats ∧
    ∀ c, c ∈ (s.after ops).ballot.voters ↔ c ∈ s.ballot.voters ∨ .vote c ∈ ops := by
  induction ops generalizing s with
  | nil => exact ⟨rfl, rfl, fun c => by simp⟩
  | cons op ops ih =>
    obtain ⟨board, seats, voters⟩ := ih pr.2
    rw [after_cons, board, seats]
    have tk := (turn_inv s op).taken pr.1
    generalize s.turn op = t at tk voters ⊢
    obtain ⟨s', ls⟩ := t
    cases tk with
    | @moved c n q _ hq =>
      have square : (Op.increment c n).square? = some q := by
        rw [Op.square?, hq]
        rfl
      rw [List.filterMap_cons_some square]
      refine ⟨rfl, rfl, fun d => (voters d).trans ?_⟩
      simp
    | @proposed c ls _ =>
      rw [List.filterMap_cons_none rfl]
      refine ⟨rfl, rfl, fun d => (voters d).trans ?_⟩
      rw [Ballot.mem_voters_add, List.mem_cons, Op.vote.injEq, or_assoc]

/-- Two ballots with one vote at most are the same if the same connections have voted. -/
lemma eq_of_count_le_one {b b' : Ballot} (few : b.count ≤ 1) (few' : b'.count ≤ 1)
    (same : ∀ c, c ∈ b.voters ↔ c ∈ b'.voters) : b = b' := by
  obtain ⟨voters⟩ := b
  obtain ⟨voters'⟩ := b'
  congr 1
  have short {c : Conn} {cs : List Conn} (h : cs.length ≤ 1) (hc : c ∈ cs) : cs = [c] := by
    obtain ⟨d, rfl⟩ := List.length_eq_one_iff.1 (Nat.le_antisymm h (List.length_pos_of_mem hc))
    rw [List.mem_singleton.1 hc]
  cases voters with
  | nil => exact (List.eq_nil_iff_forall_not_mem.2 fun c hc => nomatch (same c).2 hc).symm
  | cons c rest =>
    have one : c :: rest = [c] := short few List.mem_cons_self
    exact one.trans (short few' ((same c).1 List.mem_cons_self)).symm

/-- Squares differ by their numbers. -/
lemma number_inj {p q : Square} : p.number = q.number ↔ p = q := by
  refine ⟨fun h => ?_, congrArg _⟩
  have e := congrArg UInt64.toNat h
  simp only [Square.number, Nat.toUInt64, UInt64.toNat_ofNat'] at e
  have hp := p.isLt
  have hq := q.isLt
  apply Fin.ext
  omega

lemma countersTold_append (q : Square) (ls ls' : List Letter) :
    countersTold q (ls ++ ls') = countersTold q ls ++ countersTold q ls' :=
  List.filterMap_append

/-- Without an update no counter is told. -/
lemma countersTold_of_quiet {q : Square} (quiet : ∀ l ∈ ls, l.notice.isUpdate = false) :
    countersTold q ls = [] := by
  rw [countersTold, List.filterMap_eq_nil_iff]
  intro l hl
  have h := quiet l hl
  split
  case h_1 => cases h
  case h_2 => rfl

/-- A move tells the counter of its square. -/
lemma countersTold_moveLetters (q p : Square) (board : Board) :
    countersTold q (moveLetters board p) = if p = q then [board.get p] else [] := by
  have rest : countersTold q (board.win?.toList.map fun w => ⟨.all, Notice.ofWin w⟩) = [] := by
    apply countersTold_of_quiet
    intro l hl
    obtain ⟨w, _, rfl⟩ := List.mem_map.1 hl
    rfl
  unfold countersTold at rest ⊢
  rw [moveLetters, List.filterMap_cons, rest]
  by_cases e : p = q
  · simp [e]
  · simp [number_inj, e]

/-- A run tells the counters that its moves lead to. -/
lemma countersTold_letters (pr : s.Proceeds ops) (q : Square) :
    countersTold q (s.letters ops) =
      ((s.board.counters (ops.filterMap Op.square?)).filter (·.1 = q)).map Prod.snd := by
  induction ops generalizing s with
  | nil => rfl
  | cons op ops ih =>
    rw [letters, countersTold_append, ih pr.2]
    have tk := (turn_inv s op).taken pr.1
    generalize (s.turn op).1 = s', (s.turn op).2 = ls at tk ⊢
    cases tk with
    | @moved c n p _ hq =>
      have square : (Op.increment c n).square? = some p := by
        rw [Op.square?, hq]
        rfl
      rw [List.filterMap_cons_some square, countersTold_moveLetters, Board.counters]
      by_cases e : p = q
      · simp [e]
      · simp [e]
    | proposed quiet =>
      rw [List.filterMap_cons_none rfl, countersTold_of_quiet fun l hl => (quiet l hl).1]
      rfl

/-- The letters that tell of a win, if there is one. -/
def winLetters (w : Option Win) : List Letter := w.toList.map fun w => ⟨.all, .ofWin w⟩

lemma winsTold_append (ls ls' : List Letter) : winsTold (ls ++ ls') = winsTold ls ++ winsTold ls' :=
  List.filter_append ..

/-- Without the end of a game no win is told. -/
lemma winsTold_of_quiet (quiet : ∀ l ∈ ls, l.notice.isGameOver = false) : winsTold ls = [] := by
  rw [winsTold, List.filter_eq_nil_iff]
  intro l hl
  rw [quiet l hl]
  exact Bool.false_ne_true

/-- A move tells of the line that it fills, if it fills one. -/
lemma winsTold_moveLetters (q : Square) (board : Board) :
    winsTold (moveLetters board q) = winLetters board.win? := by
  rw [moveLetters, winsTold, List.filter_cons_of_neg Bool.false_ne_true]
  apply List.filter_eq_self.2
  intro l hl
  obtain ⟨w, _, rfl⟩ := List.mem_map.1 hl
  rfl

/-- A run of a game that is not over tells the win that the final board shows, and a run of one that
is over tells none. -/
lemma winsTold_letters (pr : s.Proceeds ops) (sd : s.Sound) :
    winsTold (s.letters ops) = if s.isOver then [] else winLetters (s.after ops).board.win? := by
  induction ops generalizing s with
  | nil =>
    -- the board of a game that is not over shows no win
    have shown := sd.overIffWin
    rw [after_nil, shown]
    cases s.board.win? <;> rfl
  | cons op ops ih =>
    have sd' := sd.turn op
    have rest := ih pr.2 sd'
    rw [letters, winsTold_append, rest, after_cons]
    have tk := (turn_inv s op).taken pr.1
    have later := pr.2
    generalize (s.turn op).1 = s', (s.turn op).2 = ls at tk sd' later ⊢
    cases tk with
    | @moved c n q running _ =>
      rw [winsTold_moveLetters, running, if_neg Bool.false_ne_true]
      cases hw : (s.board.bump q).win? with
      | none => rfl
      | some w =>
        -- the move wins, and the board stays as it is from here on
        obtain ⟨still, _, _⟩ := still_of_over sd' later.goesOn (by rw [hw]; rfl)
        rw [hw] at still
        rw [still, hw]
        rfl
    | proposed quiet =>
      rw [winsTold_of_quiet fun l hl => (quiet l hl).2, List.nil_append]

/-- Two sound sessions are the same with the same board, the same seats and the same voters. -/
lemma Sound.eq_of_parts {t : Session} (sd : s.Sound) (sd' : t.Sound) (board : s.board = t.board)
    (seats : s.seats = t.seats) (voters : ∀ c, c ∈ s.ballot.voters ↔ c ∈ t.ballot.voters) :
    s = t := by
  -- the latch is read off the board
  have latch : s.isOver = t.isOver := by
    rw [sd.overIffWin, sd'.overIffWin, board]
  have ballot := eq_of_count_le_one sd.oneVote sd'.oneVote voters
  obtain ⟨_, _, _, _⟩ := s
  obtain ⟨_, _, _, _⟩ := t
  subst board seats latch ballot
  rfl

/-- In every session that a run leads to: take moves and votes in two orders, such that either way
every move is accepted and every vote leaves the rematch pending. Then both orders lead to the same
session, tell the same counters of each square in the same order, and tell either of no win or once
of the same one. -/
theorem reordering_changes_nothing {before ops ops' : List Op} {s : Session}
    (reached : initial.after before = s) (same : ops.Perm ops') (pr : s.Proceeds ops)
    (pr' : s.Proceeds ops') :
    s.after ops = s.after ops' ∧
    (∀ q, countersTold q (s.letters ops) = countersTold q (s.letters ops')) ∧
    (winsTold (s.letters ops) = [] ∧ winsTold (s.letters ops') = [] ∨
      ∃ w : Win,
        winsTold (s.letters ops) = [⟨.all, .gameOver w.winner (w.line.map Square.number)⟩] ∧
        winsTold (s.letters ops') = [⟨.all, .gameOver w.winner (w.line.map Square.number)⟩]) := by
  subst reached
  have sd := sound_initial.after before
  have moves := same.filterMap Op.square?
  obtain ⟨board, seats, voters⟩ := pr.after
  obtain ⟨board', seats', voters'⟩ := pr'.after
  have sameSession : (initial.after before).after ops = (initial.after before).after ops' := by
    apply (sd.after ops).eq_of_parts (sd.after ops')
    · rw [board, board', Board.bumpAll_perm moves]
    · rw [seats, seats']
    · intro c
      rw [voters, voters', same.mem_iff]
  refine ⟨sameSession, fun q => ?_, ?_⟩
  · rw [countersTold_letters pr, countersTold_letters pr', Board.counters_at, Board.counters_at,
      moves.count_eq]
  · rw [winsTold_letters pr sd, winsTold_letters pr' sd, sameSession]
    cases (initial.after before).isOver with
    | true => exact .inl ⟨rfl, rfl⟩
    | false =>
      cases ((initial.after before).after ops').board.win? with
      | none => exact .inl ⟨rfl, rfl⟩
      | some w => exact .inr ⟨w, rfl, rfl⟩

/-- Two players share three squares of the first row. -/
def sharedRun : List Op :=
  [.connect ⟨1⟩, .connect ⟨2⟩, .increment ⟨1⟩ 0, .increment ⟨2⟩ 1, .increment ⟨1⟩ 2]

/-- The players finish the row, and one of them votes. -/
def finish : List Op :=
  [.increment ⟨1⟩ 12, .increment ⟨1⟩ 3, .vote ⟨2⟩, .increment ⟨2⟩ 12, .increment ⟨2⟩ 4]

/-- The same in another order, in which another square is the last of the row. -/
def otherFinish : List Op :=
  [.increment ⟨2⟩ 4, .increment ⟨2⟩ 12, .increment ⟨1⟩ 12, .increment ⟨1⟩ 3, .vote ⟨2⟩]

/-- Either way the odd player wins by the row, and both moves on the square in the middle count. -/
theorem reordering_changes_nothing_row :
    finish.Perm otherFinish ∧ (initial.after sharedRun).Proceeds finish ∧
    (initial.after sharedRun).Proceeds otherFinish ∧
    (initial.after sharedRun).after finish = (initial.after sharedRun).after otherFinish ∧
    countersTold 12 ((initial.after sharedRun).letters finish) = [1, 2] ∧
    countersTold 12 ((initial.after sharedRun).letters otherFinish) = [1, 2] ∧
    winsTold ((initial.after sharedRun).letters finish) =
      [⟨.all, .gameOver .odd #v[0, 1, 2, 3, 4]⟩] ∧
    winsTold ((initial.after sharedRun).letters otherFinish) =
      [⟨.all, .gameOver .odd #v[0, 1, 2, 3, 4]⟩] := by
  have same : finish.Perm otherFinish := by decide
  have proceeds : (initial.after sharedRun).Proceeds finish := by
    simp only [finish, Proceeds]
    decide +kernel
  have proceeds' : (initial.after sharedRun).Proceeds otherFinish := by
    simp only [otherFinish, Proceeds]
    decide +kernel
  have counters : countersTold 12 ((initial.after sharedRun).letters finish) = [1, 2] := by
    decide +kernel
  have win : winsTold ((initial.after sharedRun).letters finish) =
      [⟨.all, .gameOver .odd #v[0, 1, 2, 3, 4]⟩] := by decide +kernel
  obtain ⟨session, told, wins⟩ := reordering_changes_nothing rfl same proceeds proceeds'
  refine ⟨same, proceeds, proceeds', session, counters, (told 12).symm.trans counters, win, ?_⟩
  obtain ⟨none, _⟩ | ⟨w, one, one'⟩ := wins
  · rw [win] at none
    cases none
  · rw [one', ← one, win]

end Session

end ParityDuel
