import ParityDuel.Proofs.Board.Wins
import ParityDuel.Proofs.Session.Phases

/-!
# There are no draws

A game that is being played can be finished by either player alone, however full the board is. A
move makes a counter that is not odd an odd one, so a player who goes along the gaps of a line, the
squares whose counters are not odd, has fewer of them before it with each move (`gaps_bump_lt`) and
would complete the line with the last. Another line may be complete before that, which ends the game
as well. A line has five squares, so five moves are enough (`no_draw`).
-/

namespace ParityDuel

section Gaps

variable {b : Board} {l : Line} {q : Square}

/-- A counter that is not odd becomes odd, whether or not it has been touched. -/
lemma Role.owning_add_one {v : UInt64} (h : owning v ≠ some .odd) : owning (v + 1) = some .odd := by
  have even : v.toNat % 2 = 0 := by
    rw [← Nat.even_iff, ← Nat.not_odd_iff_even]
    intro odd
    refine h (owning_eq_some_iff.2 ⟨?_, odd⟩)
    rintro rfl
    exact absurd odd (by decide)
  have successor : (v + 1).toNat = v.toNat + 1 := by
    -- an even word is not the last one
    have := v.toNat_lt
    rw [UInt64.toNat_add]
    exact Nat.mod_eq_of_lt (by show v.toNat + 1 < 2 ^ 64; omega)
  refine owning_eq_some_iff.2 ⟨?_, ?_⟩
  · intro zero
    rw [zero] at successor
    cases successor
  · show Odd (v + 1).toNat
    rw [successor, Nat.odd_iff]
    omega

/-- The squares of a line whose counters are not odd. -/
def Line.gaps (l : Line) (b : Board) : List Square :=
  l.toList.filter fun q => Role.owning (b.get q) ≠ some .odd

lemma Line.mem_gaps_iff : q ∈ l.gaps b ↔ q ∈ l ∧ Role.owning (b.get q) ≠ some .odd := by
  simp [gaps]

/-- A line has five squares, so it has no more gaps. -/
lemma Line.length_gaps_le : (l.gaps b).length ≤ 5 := by
  have squares : l.toList.length = 5 := Vector.length_toList
  rw [← squares]
  exact List.length_filter_le _ _

/-- A line without gaps belongs to the odd player. -/
lemma Line.ownedBy_of_gaps_eq_nil (h : l.gaps b = []) : l.OwnedBy b .odd := by
  intro q hq
  by_contra other
  have gap : q ∈ l.gaps b := mem_gaps_iff.2 ⟨hq, other⟩
  rw [h] at gap
  cases gap

/-- A move on a gap fills it and leaves the others. -/
lemma Line.gaps_bump (h : q ∈ l.gaps b) : l.gaps (b.bump q) = (l.gaps b).filter (· ≠ q) := by
  rw [gaps, gaps, List.filter_filter]
  apply List.filter_congr
  intro p _
  by_cases e : q = p
  · subst e
    simp [Role.owning_add_one (mem_gaps_iff.1 h).2]
  · simp [Board.get_bump_of_ne b e, Ne.symm e]

/-- After a move on a gap there are fewer. -/
lemma Line.gaps_bump_lt (h : q ∈ l.gaps b) : (l.gaps (b.bump q)).length < (l.gaps b).length := by
  rw [gaps_bump h, List.length_filter_lt_length_iff_exists]
  exact ⟨q, h, by simp⟩

end Gaps

/-- A square is named by its number. -/
lemma Square.ofNumber_val : ∀ q : Square, Square.ofNumber (Int64.ofNat q.val) = .ok q := by
  decide

namespace Session

/-- A player makes moves, one after the other, and each of them is accepted. -/
inductive Alone (c : Conn) : Session → List Int64 → Session → Prop where
  | nil {s} :
    Alone c s [] s
  | cons {s s' s'' n ns ls} :
    s.increment c n = .ok (s', ls) →
    Alone c s' ns s'' →
    Alone c s (n :: ns) s''

variable {s s' : Session} {c : Conn} {l : Line}

/-- Accepted moves lead to the session that the operations lead to. -/
lemma Alone.eq_after {ns : List Int64} (al : Alone c s ns s') :
    s' = s.after (ns.map (.increment c)) := by
  induction al with
  | nil => rfl
  | @cons s s' s'' n ns ls accepted _ ih =>
    have turn : s.turn (.increment c n) = (s', ls) := turn_of_ok accepted
    rw [List.map_cons, after_cons, turn]
    exact ih

/-- While a game is played, a player's move on a square is accepted. -/
lemma exists_move (playing : s.phase = .playing) (seated : s.seats.isSeated c = true)
    (q : Square) : ∃ ls, s.increment c (Int64.ofNat q.val) = .ok
      ({ s with board := s.board.bump q, isOver := (s.board.bump q).win?.isSome }, ls) := by
  obtain ⟨low, high⟩ := Square.exists_ofNumber_iff.1 ⟨q, Square.ofNumber_val q⟩
  obtain ⟨⟨s', ls⟩, accepted⟩ := exists_increment_iff.2 ⟨playing, seated, low, high⟩
  cases increment_inv accepted with
  | moved _ _ _ named =>
    rw [Square.ofNumber_val] at named
    cases named
    exact ⟨_, accepted⟩

/-- A player finishes the game alone, with no more moves than a line has gaps. -/
lemma Sound.finish (sd : s.Sound) (playing : s.phase = .playing)
    (seated : s.seats.isSeated c = true) (hl : l ∈ Line.inOrder) :
    ∃ ns s', Alone c s ns s' ∧ 0 < ns.length ∧ ns.length ≤ (l.gaps s.board).length ∧
      s'.phase = .gameOver := by
  induction gaps : (l.gaps s.board).length using Nat.strong_induction_on generalizing s with
  | _ n ih =>
    obtain ⟨filled, running⟩ := phase_eq_playing_iff.1 playing
    cases first : l.gaps s.board with
    | nil =>
      exact absurd (Line.ownedBy_of_gaps_eq_nil first) (sd.no_line_of_running running l hl _)
    | cons q qs =>
      have gap : q ∈ l.gaps s.board := by
        rw [first]
        exact List.mem_cons_self
      have fewer := Line.gaps_bump_lt gap
      obtain ⟨ls, accepted⟩ := exists_move playing seated q
      cases won : (s.board.bump q).win?.isSome with
      | true =>
        rw [won] at accepted
        have bound : 1 ≤ n := gaps ▸ Nat.lt_of_le_of_lt (Nat.zero_le _) fewer
        exact ⟨_, _, .cons accepted .nil, Nat.one_pos, bound,
          phase_eq_gameOver_iff.2 ⟨filled, rfl⟩⟩
      | false =>
        have sd' := sd.served (increment_inv accepted)
        rw [won] at accepted sd'
        obtain ⟨ns, s', al, _, few, ended⟩ := ih _ (gaps ▸ fewer) sd'
          (phase_eq_playing_iff.2 ⟨filled, rfl⟩) seated rfl
        have bound : ns.length + 1 ≤ n := gaps ▸ Nat.lt_of_le_of_lt few fewer
        exact ⟨_, _, .cons accepted al, Nat.succ_pos _, bound, ended⟩

/-- In every session that a run leads to and in which a game is played, whatever its board, either
player can make one to five moves alone, each of them accepted, after which the game is over. -/
theorem no_draw {ops : List Op} {s : Session} (reached : initial.after ops = s)
    (playing : s.phase = .playing) {c : Conn} (seated : s.seats.isSeated c = true) :
    ∃ ns, 1 ≤ ns.length ∧ ns.length ≤ 5 ∧ Alone c s ns (s.after (ns.map (.increment c))) ∧
      (s.after (ns.map (.increment c))).phase = .gameOver := by
  subst reached
  have sd := sound_initial.after ops
  have row : Line.row 0 ∈ Line.inOrder := by decide
  obtain ⟨ns, s', al, some, few, ended⟩ := sd.finish playing seated row
  obtain rfl := al.eq_after
  exact ⟨ns, some, Nat.le_trans few Line.length_gaps_le, al, ended⟩

/-- One or two moves on every square, so that no line is of one parity: the squares of a chessboard,
with two corners changed. -/
def chessboardRun : List Op :=
  [.connect ⟨1⟩, .connect ⟨2⟩] ++ (List.finRange 25).flatMap fun q =>
    List.replicate (if q.val % 2 = 0 ∧ q ≠ 0 ∧ q ≠ 4 then 1 else 2)
      (.increment ⟨1⟩ (Int64.ofNat q.val))

/-- A board without an untouched square is still played on, and the even player can finish it. -/
theorem no_draw_chessboard :
    (∀ q, (initial.after chessboardRun).board.get q ≠ 0) ∧
    (initial.after chessboardRun).phase = .playing ∧
    (initial.after chessboardRun).seats.roleOf ⟨2⟩ = some .even ∧
    ∃ ns, 1 ≤ ns.length ∧ ns.length ≤ 5 ∧
      Alone ⟨2⟩ (initial.after chessboardRun) ns
        ((initial.after chessboardRun).after (ns.map (.increment ⟨2⟩))) ∧
      ((initial.after chessboardRun).after (ns.map (.increment ⟨2⟩))).phase = .gameOver := by
  have playing : (initial.after chessboardRun).phase = .playing := by decide +kernel
  have even : (initial.after chessboardRun).seats.roleOf ⟨2⟩ = some .even := by decide +kernel
  exact ⟨by decide +kernel, playing, even, no_draw rfl playing (by rw [Seats.isSeated, even]; rfl)⟩

end Session

end ParityDuel
