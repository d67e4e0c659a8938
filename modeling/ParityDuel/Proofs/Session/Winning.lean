import ParityDuel.Proofs.Board.Lines
import ParityDuel.Proofs.Session.Rematch

/-!
# Winning

A game that goes on has no complete line, so a line that a move completes passes through the square
of the move and belongs to the role that owns its new counter. From then on the game stands still
until it ends: `Turn.still_of_over` is one operation and `still_of_over` a run. That a win is
announced once follows from counting: the announcements of one operation are what its latch gains
(`Turn.countP_gameOver`), and a latch can only be set once.
-/

namespace ParityDuel

namespace Session

/-- Nobody hears of a move or of a win but by an accepted move, and nothing else changes the board
or the latch while a game goes on. -/
lemma Turn.moved_or_quiet {s s' : Session} {op : Op} {ls : List Letter} (tn : s.Turn op s' ls)
    (sd : s.Sound) (goes : s.endsGame op = false) :
    (∃ c n, op = .increment c n ∧ s.Served c (.increment n) s' ls) ∨
    s'.board = s.board ∧ s'.isOver = s.isOver ∧
      ∀ l ∈ ls, l.notice.isUpdate = false ∧ l.notice.isGameOver = false := by
  cases tn with
  | joined hc => exact .inr (connect_quiet hc)
  | turnedAway _ => exact .inr ⟨rfl, rfl, nofun⟩
  | moved sv => exact .inl ⟨_, _, rfl, sv⟩
  | unmoved _ => exact .inr ⟨rfl, rfl, nofun⟩
  | voted sv =>
    cases sv with
    | proposed _ _ _ =>
      refine .inr ⟨rfl, rfl, ?_⟩
      simp [voteNotice, Notice.isUpdate, Notice.isGameOver]
    | @agreed a b seats seated enough =>
      have ends : s.endsGame (.vote _) = true := agrees_of_enough seats seated enough
      rw [ends] at goes
      cases goes
  | unvoted _ => exact .inr ⟨rfl, rfl, nofun⟩
  | left hl =>
    obtain ⟨seated, _⟩ | ⟨_, rfl, rfl⟩ := sd.leave_inv hl
    · rw [endsGame, seated] at goes
      cases goes
    · exact .inr ⟨rfl, rfl, nofun⟩
  | reset => cases goes

/-- A game that is over stands still. -/
lemma Turn.still_of_over {s s' : Session} {op : Op} {ls : List Letter} (tn : s.Turn op s' ls)
    (sd : s.Sound) (goes : s.endsGame op = false) (done : s.isOver = true) :
    s'.board = s.board ∧ s'.isOver = true ∧
      ∀ l ∈ ls, l.notice.isUpdate = false ∧ l.notice.isGameOver = false := by
  obtain ⟨c, n, rfl, sv⟩ | ⟨board, latch, quiet⟩ := tn.moved_or_quiet sd goes
  · cases sv with
    | moved _ _ running _ =>
      rw [done] at running
      cases running
  · exact ⟨board, latch.trans done, quiet⟩

/-- A game that is over stands still for as long as it is not ended. -/
lemma still_of_over {s : Session} {ops : List Op} (sd : s.Sound) (goes : s.GoesOn ops)
    (done : s.isOver = true) :
    (s.after ops).board = s.board ∧ (s.after ops).isOver = true ∧
      ∀ l ∈ s.letters ops, l.notice.isUpdate = false ∧ l.notice.isGameOver = false := by
  induction ops generalizing s with
  | nil => exact ⟨rfl, done, nofun⟩
  | cons op ops ih =>
    obtain ⟨board, latch, quiet⟩ := (turn_inv s op).still_of_over sd goes.1 done
    obtain ⟨board', latch', quiet'⟩ := ih (sd.turn op) goes.2 latch
    rw [after_cons]
    refine ⟨board'.trans board, latch', fun l hl => ?_⟩
    obtain hl | hl := List.mem_append.1 hl
    · exact quiet l hl
    · exact quiet' l hl

/-- The wins that one operation announces are what the latch gains. -/
lemma Turn.countP_gameOver {s s' : Session} {op : Op} {ls : List Letter} (tn : s.Turn op s' ls)
    (sd : s.Sound) (goes : s.endsGame op = false) :
    ls.countP (·.notice.isGameOver) + s.isOver.toNat = s'.isOver.toNat := by
  obtain ⟨c, n, rfl, sv⟩ | ⟨_, latch, quiet⟩ := tn.moved_or_quiet sd goes
  · cases sv with
    | @moved _ q _ _ running _ =>
      cases hw : (s.board.bump q).win? with
      | none => simp [moveLetters, hw, running, Notice.isGameOver]
      | some w => simp [moveLetters, hw, running, Notice.isGameOver, Notice.ofWin]
  · rw [latch, List.countP_eq_zero.2, Nat.zero_add]
    intro l hl
    simp [(quiet l hl).2]

/-- The wins that a run announces while a game goes on are what the latch gains. -/
lemma countP_gameOver {s : Session} {ops : List Op} (sd : s.Sound) (goes : s.GoesOn ops) :
    (s.letters ops).countP (·.notice.isGameOver) + s.isOver.toNat = (s.after ops).isOver.toNat := by
  induction ops generalizing s with
  | nil => exact Nat.zero_add _
  | cons op ops ih =>
    have first := (turn_inv s op).countP_gameOver sd goes.1
    have rest := ih (sd.turn op) goes.2
    rw [letters, List.countP_append, after_cons, ← rest, ← first]
    omega

/-- While a game goes on no line is complete. -/
lemma Sound.no_line_of_running {s : Session} (sd : s.Sound) (running : s.isOver = false) :
    ∀ l ∈ Line.inOrder, ∀ r, ¬ l.OwnedBy s.board r := by
  rw [← Board.win?_eq_none_iff, ← Option.not_isSome_iff_eq_none, ← sd.overIffWin, running]
  exact Bool.false_ne_true

/-- A line that is complete after an accepted move passes through the square of the move and belongs
to the owner of its new counter. -/
lemma Sound.completed_by_move {s : Session} {q : Square} (sd : s.Sound) (running : s.isOver = false)
    {l : Line} {r : Role} (hl : l ∈ Line.inOrder) (owned : l.OwnedBy (s.board.bump q) r) :
    q ∈ l ∧ Role.owning ((s.board.bump q).get q) = some r := by
  have through : q ∈ l := by
    by_contra apart
    exact sd.no_line_of_running running l hl r (owned.of_bump apart)
  exact ⟨through, owned q through⟩

/-- A game that is over takes no move. -/
lemma increment_refused_of_over {s : Session} (done : s.isOver = true) (c : Conn) (n : Int64) :
    ∃ e, s.increment c n = .error e := by
  cases h : s.increment c n with
  | error e => exact ⟨e, rfl⟩
  | ok t =>
    obtain ⟨s', ls⟩ := t
    cases increment_inv h with
    | moved _ _ running _ =>
      rw [done] at running
      cases running

/-- In every session that a run leads to: an accepted move on a square tells everyone the new
counter, and directly after it the winner and the line if a line is complete now, and nothing else;
every line that is complete now passes through the square and belongs to the owner of the new
counter; and if there is one, then until a rematch is agreed, a player leaves or the session is
reset, the board stays as it is, every move is refused, and nobody hears of a further move or win.
So while a game goes on a win is announced at most once. -/
theorem win_sound_and_final {ops : List Op} {s : Session} (reached : initial.after ops = s) :
    (∀ c n s' ls, s.increment c n = .ok (s', ls) → ∃ q, Square.ofNumber n = .ok q ∧
      s'.board = s.board.bump q ∧
      ((∀ l ∈ Line.inOrder, ∀ r, ¬ l.OwnedBy s'.board r) ∧
          ls = [⟨.all, .update q.number (s'.board.get q)⟩] ∨
        ∃ l ∈ Line.inOrder, ∃ r, l.OwnedBy s'.board r ∧
          ls = [⟨.all, .update q.number (s'.board.get q)⟩,
            ⟨.all, .gameOver r (l.map Square.number)⟩]) ∧
      (∀ l ∈ Line.inOrder, ∀ r, l.OwnedBy s'.board r →
        q ∈ l ∧ Role.owning (s'.board.get q) = some r) ∧
      ((∃ l ∈ Line.inOrder, ∃ r, l.OwnedBy s'.board r) → ∀ later, s'.GoesOn later →
        (s'.after later).board = s'.board ∧
        (∀ d m, ∃ e, (s'.after later).increment d m = .error e) ∧
        ∀ l ∈ s'.letters later, l.notice.isUpdate = false ∧ l.notice.isGameOver = false)) ∧
    ∀ stretch, s.GoesOn stretch → (s.letters stretch).countP (·.notice.isGameOver) ≤ 1 := by
  subst reached
  have sd := sound_initial.after ops
  refine ⟨fun c n s' ls accepted => ?_, fun stretch goes => ?_⟩
  · have sv := increment_inv accepted
    have sd' := sd.served sv
    cases sv with
    | @moved _ q _ _ running hq =>
      refine ⟨q, hq, rfl, ?_, fun l hl r owned => sd.completed_by_move running hl owned, ?_⟩
      · cases hw : ((initial.after ops).board.bump q).win? with
        | none => exact .inl ⟨Board.win?_eq_none_iff.1 hw, by simp [moveLetters, hw]⟩
        | some w =>
          obtain ⟨hl, owned⟩ := Board.win?_eq_some hw
          exact .inr ⟨w.line, hl, w.winner, owned, by simp [moveLetters, hw, Notice.ofWin]⟩
      · rintro ⟨l, hl, r, owned⟩ later goes
        have done : ((initial.after ops).board.bump q).win?.isSome = true := by
          rw [Option.isSome_iff_ne_none]
          exact fun none => Board.win?_eq_none_iff.1 none l hl r owned
        obtain ⟨board, latch, quiet⟩ := still_of_over sd' goes done
        exact ⟨board, fun d m => increment_refused_of_over latch d m, quiet⟩
  · have counted := countP_gameOver sd goes
    have latch := Bool.toNat_le ((initial.after ops).after stretch).isOver
    omega

/-- Two players share the first row but for its last square. -/
def rowRun : List Op :=
  [.connect ⟨1⟩, .connect ⟨2⟩, .increment ⟨1⟩ 0, .increment ⟨2⟩ 1, .increment ⟨1⟩ 2,
    .increment ⟨2⟩ 3]

/-- A vote, a newcomer and a move that comes too late. -/
def lateRun : List Op := [.vote ⟨1⟩, .connect ⟨3⟩, .increment ⟨2⟩ 7]

/-- The move on the last square wins the row for the odd player, and the board stays as it is. -/
theorem win_sound_and_final_row :
    (initial.after rowRun).increment ⟨2⟩ 4 = .ok (initial.after (rowRun ++ [.increment ⟨2⟩ 4]),
      [⟨.all, .update 4 1⟩, ⟨.all, .gameOver .odd #v[0, 1, 2, 3, 4]⟩]) ∧
    (initial.after (rowRun ++ [.increment ⟨2⟩ 4])).GoesOn lateRun ∧
    ((initial.after (rowRun ++ [.increment ⟨2⟩ 4])).after lateRun).board =
      (initial.after (rowRun ++ [.increment ⟨2⟩ 4])).board ∧
    (initial.after rowRun).GoesOn (.increment ⟨2⟩ 4 :: lateRun) ∧
    ((initial.after rowRun).letters (.increment ⟨2⟩ 4 :: lateRun)).countP
      (·.notice.isGameOver) ≤ 1 := by
  have accepted : (initial.after rowRun).increment ⟨2⟩ 4 =
      .ok (initial.after (rowRun ++ [.increment ⟨2⟩ 4]),
        [⟨.all, .update 4 1⟩, ⟨.all, .gameOver .odd #v[0, 1, 2, 3, 4]⟩]) := by
    decide +kernel
  have goes : (initial.after (rowRun ++ [.increment ⟨2⟩ 4])).GoesOn lateRun := by
    simp only [lateRun, GoesOn]
    decide +kernel
  have goesOn : (initial.after rowRun).GoesOn (.increment ⟨2⟩ 4 :: lateRun) := by
    simp only [lateRun, GoesOn]
    decide +kernel
  have complete : ∃ l ∈ Line.inOrder, ∃ r,
      l.OwnedBy (initial.after (rowRun ++ [.increment ⟨2⟩ 4])).board r :=
    ⟨Line.row 0, by decide, .odd, Line.owner_eq_some_iff.1 (by decide +kernel)⟩
  obtain ⟨moves, once⟩ := win_sound_and_final (s := initial.after rowRun) rfl
  obtain ⟨_, _, _, _, _, still⟩ := moves _ _ _ _ accepted
  exact ⟨accepted, goes, (still complete lateRun goes).1, goesOn, once _ goesOn⟩

end Session

end ParityDuel
