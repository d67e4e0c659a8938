import Mathlib.Data.List.Induction
import ParityDuel.Proofs.Session.Refusals
import ParityDuel.Proofs.Session.Runs

/-!
# Agreement on a rematch

A rematch is agreed exactly when both players want it. A ballot only counts votes, but what it
counts is always this: `b` is on it while `a` and `b` play if and only if `b` has voted in the
present round (`Session.VotedInRound`), that is, since the two have been seated together and since
they last agreed. `Turn.mem_voters_iff` is the step of this invariant and
`mem_voters_iff_votedInRound` the run.
-/

namespace ParityDuel

namespace Session

/-- A vote agrees on a rematch when it comes from a player of a duel and is not the only one. -/
lemma agrees_vote_iff {s : Session} {c : Conn} :
    s.agrees (.vote c) = true ↔ s.seats.areFilled = true ∧ s.seats.isSeated c = true ∧
      totalPlayers ≤ (s.ballot.add c).count := by
  unfold agrees Ballot.vote Seats.areFilled Seats.isSeated
  cases s.seats.pair with
  | none => simp
  | some p =>
    cases hr : s.seats.roleOf c with
    | none => simp [hr]
    | some r =>
      by_cases few : (s.ballot.add c).count < totalPlayers
      · simp [hr, few]
      · simp [hr, few, Nat.le_of_not_lt few]

/-- A vote is accepted from the players of a duel. -/
lemma exists_vote_iff {s : Session} {c : Conn} :
    (∃ t, s.vote c = .ok t) ↔ s.seats.areFilled = true ∧ s.seats.isSeated c = true := by
  have granted : (∃ t, s.serve c .rematch = .ok t) ↔ _ := exists_serve_eq_ok_iff
  simpa [serve, conditions] using granted

/-- Seats that two players hold are filled. -/
lemma areFilled_of_areOf {s : Session} {a b : Conn} (held : s.seats.AreOf a b) :
    s.seats.areFilled = true := by
  obtain e | e := held
  · rw [e]
    rfl
  · rw [e]
    rfl

/-- The beginning is not the duel of anyone. -/
lemma not_areOf_initial (a b : Conn) : ¬ initial.seats.AreOf a b := by
  rintro (e | e) <;> cases e

/-- A vote is accepted from both players of a duel. -/
lemma exists_vote_of_areOf {s : Session} {a b : Conn} (held : s.seats.AreOf a b) :
    ∃ t, s.vote a = .ok t :=
  exists_vote_iff.2 ⟨areFilled_of_areOf held, held.isSeated_iff.2 (.inl rfl)⟩

/-- A refused vote agrees on nothing. -/
lemma agrees_of_refused {s : Session} {c : Conn} {e : Refusal} (h : s.vote c = .error e) :
    s.agrees (.vote c) = false := by
  rw [← Bool.not_eq_true, agrees_vote_iff]
  rintro ⟨filled, seated, _⟩
  obtain ⟨t, ht⟩ := exists_vote_iff.2 ⟨filled, seated⟩
  rw [h] at ht
  cases ht

/-- A second vote agrees. -/
lemma agrees_of_enough {s : Session} {a b c : Conn} (seats : s.seats = ⟨some a, some b⟩)
    (seated : s.seats.isSeated c = true) (enough : totalPlayers ≤ (s.ballot.add c).count) :
    s.agrees (.vote c) = true :=
  agrees_vote_iff.2 ⟨areFilled_of_areOf (.inl seats), seated, enough⟩

/-- All through a run of operations two connections hold the seats, and no operation agrees on a
rematch. -/
def SameRound (s : Session) (a b : Conn) : List Op → Prop
  | [] => s.seats.AreOf a b
  | op :: ops => s.seats.AreOf a b ∧ s.agrees op = false ∧ (s.turn op).1.SameRound a b ops

/-- In a run of operations `voter` has cast an accepted vote, and from this vote on `voter` and
`other` have held the seats and nothing has been agreed. -/
def VotedInRound (s : Session) (ops : List Op) (voter other : Conn) : Prop :=
  ∃ before later, ops = before ++ .vote voter :: later ∧
    (∃ t, (s.after before).vote voter = .ok t) ∧
    (s.after before).SameRound voter other (.vote voter :: later)

/-- A round begins with both in their seats. -/
lemma SameRound.areOf {s : Session} {a b : Conn} {ops : List Op} (same : s.SameRound a b ops) :
    s.seats.AreOf a b := by
  cases ops with
  | nil => exact same
  | cons _ _ => exact same.1

/-- A round goes on when its players stay and do not agree. -/
lemma sameRound_append_singleton {s : Session} {a b : Conn} {ops : List Op} {op : Op} :
    s.SameRound a b (ops ++ [op]) ↔ s.SameRound a b ops ∧ (s.after ops).agrees op = false ∧
      ((s.after ops).turn op).1.seats.AreOf a b := by
  induction ops generalizing s with
  | nil => rfl
  | cons op' ops ih =>
    rw [List.cons_append, SameRound, SameRound, ih, after_cons]
    simp only [and_assoc]

/-- It goes on with both in their seats. -/
lemma SameRound.areOf_after {s : Session} {a b : Conn} {ops : List Op}
    (same : s.SameRound a b ops) : (s.after ops).seats.AreOf a b := by
  induction ops generalizing s with
  | nil => exact same
  | cons op ops ih =>
    rw [after_cons]
    exact ih same.2.2

/-- Whoever has voted in the present round does so now, or has done so before, and the round goes
on. -/
lemma votedInRound_append_singleton {s : Session} {voter other : Conn} {ops : List Op} {op : Op}
    (held : ((s.after ops).turn op).1.seats.AreOf voter other) :
    s.VotedInRound (ops ++ [op]) voter other ↔ (s.after ops).seats.AreOf voter other ∧
      (s.after ops).agrees op = false ∧ (op = .vote voter ∨ s.VotedInRound ops voter other) := by
  constructor
  · rintro ⟨before, later, split, accepted, same⟩
    obtain rfl | ⟨last, op', rfl⟩ := List.eq_nil_or_concat later
    · obtain ⟨rfl, e⟩ := List.append_inj' split rfl
      cases e
      exact ⟨same.areOf, same.2.1, .inl rfl⟩
    · rw [List.concat_eq_append] at split same
      rw [← List.cons_append, ← List.append_assoc] at split
      obtain ⟨rfl, e⟩ := List.append_inj' split rfl
      cases e
      rw [← List.cons_append, sameRound_append_singleton] at same
      rw [after_append]
      exact ⟨same.1.areOf_after, same.2.1, .inr ⟨before, last, rfl, accepted, same.1⟩⟩
  · rintro ⟨heldBefore, quiet, rfl | ⟨before, later, rfl, accepted, same⟩⟩
    · exact ⟨ops, [], rfl, exists_vote_of_areOf heldBefore, heldBefore, quiet, held⟩
    · refine ⟨before, later ++ [op], by simp, accepted, ?_⟩
      rw [← List.cons_append, sameRound_append_singleton, ← after_append]
      exact ⟨same, quiet, held⟩

/-- One operation keeps the ballot true: after it a player is on the ballot if the round goes on and
the player has just voted or was on the ballot before. -/
lemma Turn.mem_voters_iff {s s' : Session} {op : Op} {ls : List Letter} {voter other : Conn}
    (tn : s.Turn op s' ls) (sd : s.Sound) (held : s'.seats.AreOf voter other) :
    voter ∈ s'.ballot.voters ↔ s.seats.AreOf voter other ∧ s.agrees op = false ∧
      (op = .vote voter ∨ voter ∈ s.ballot.voters) := by
  cases tn with
  | @joined c role s' ls hc =>
    obtain ⟨seats, assigned, rfl, -⟩ := connect_inv hc
    cases assigned with
    | kept _ => simp [held, agrees]
    | odd _ free =>
      -- a single player is no pair
      obtain rfl := sd.eq_initial free
      obtain e | e := held <;> cases e
    | even _ taken free =>
      -- the pair is new, and nobody could vote before
      have unfilled : s.seats.areFilled = false := by
        simp [Seats.areFilled, Seats.pair, taken, free]
      have none : s.ballot.voters = [] := by rw [(sd.untilFilled unfilled).2.2]; rfl
      simp [none]
  | turnedAway _ => simp [held, agrees]
  | moved sv =>
    cases sv with
    | moved _ _ _ _ => simp [held, agrees]
  | unmoved _ => simp [held, agrees]
  | @voted c s' ls sv =>
    cases sv with
    | @proposed a b o seats players few =>
      have quiet : s.agrees (.vote c) = false := by
        rw [← Bool.not_eq_true, agrees_vote_iff]
        exact fun h => absurd few (Nat.not_lt_of_le h.2.2)
      rw [List.mem_singleton]
      refine ⟨fun e => ⟨held, quiet, .inl (e ▸ rfl)⟩, ?_⟩
      rintro ⟨_, _, e | before⟩
      · cases e
        rfl
      · -- whoever was on the ballot still is, and there is room for one vote only
        have still := (Ballot.mem_voters_add (c := c)).2 (.inl before)
        rw [Ballot.add_of_count_lt few] at still
        exact List.mem_singleton.1 still
    | agreed seats seated enough => simp [agrees_of_enough seats seated enough, Ballot.empty]
  | unvoted refused =>
    simp only [held, agrees_of_refused refused, true_and]
    refine ⟨.inr, ?_⟩
    rintro (e | before)
    · cases e
      obtain ⟨t, ht⟩ := exists_vote_of_areOf held
      rw [refused] at ht
      cases ht
    · exact before
  | left hl =>
    obtain ⟨_, rfl, _⟩ | ⟨_, rfl, _⟩ := sd.leave_inv hl
    · exact absurd held (not_areOf_initial voter other)
    · simp [held, agrees]
  | reset => exact absurd held (not_areOf_initial voter other)

/-- After every run, of two who play against each other exactly those are on the ballot who have
voted in the present round. -/
lemma mem_voters_iff_votedInRound {ops : List Op} {voter other : Conn}
    (held : (initial.after ops).seats.AreOf voter other) :
    voter ∈ (initial.after ops).ballot.voters ↔ initial.VotedInRound ops voter other := by
  induction ops using List.reverseRecOn with
  | nil => exact absurd held (not_areOf_initial voter other)
  | append_singleton ops op ih =>
    rw [after_append, after_cons, after_nil] at held ⊢
    have step := (turn_inv (initial.after ops) op).mem_voters_iff (sound_initial.after ops) held
    refine step.trans (.trans ?_ (votedInRound_append_singleton held).symm)
    constructor
    · rintro ⟨before, quiet, vote⟩
      exact ⟨before, quiet, vote.imp_right (ih before).1⟩
    · rintro ⟨before, quiet, vote⟩
      exact ⟨before, quiet, vote.imp_right (ih before).2⟩

/-- A vote agrees on a rematch when the opponent is on the ballot. -/
lemma Sound.agrees_vote_iff_mem {s : Session} {c o : Conn} (sd : s.Sound)
    (held : s.seats.AreOf c o) : s.agrees (.vote c) = true ↔ o ∈ s.ballot.voters := by
  have ne : c ≠ o := by
    obtain e | e := held
    · exact sd.ne e
    · exact (sd.ne e).symm
  have players : ∀ d ∈ s.ballot.voters, d = c ∨ d = o :=
    fun d hd => held.isSeated_iff.1 (sd.votersSeated d hd)
  rw [agrees_vote_iff, and_iff_right (areFilled_of_areOf held),
    and_iff_right (held.isSeated_iff.2 (.inl rfl))]
  unfold Ballot.add Ballot.count totalPlayers
  constructor
  · intro enough
    by_cases hc : c ∈ s.ballot.voters
    · -- one vote stands at most, and with that of `c` alone there is no agreement
      simp only [hc, if_true] at enough
      exact absurd sd.oneVote (Nat.not_le_of_lt enough)
    · simp only [hc, if_false, List.length_append, List.length_singleton] at enough
      obtain ⟨d, hd⟩ := List.exists_mem_of_length_pos (Nat.le_of_succ_le_succ enough)
      obtain rfl | rfl := players d hd
      · exact absurd hd hc
      · exact hd
  · intro ho
    have hc : c ∉ s.ballot.voters := by
      intro hc
      obtain ⟨d, hd⟩ := List.length_eq_one_iff.1
        (Nat.le_antisymm sd.oneVote (List.length_pos_of_mem ho))
      rw [hd, List.mem_singleton] at hc ho
      exact ne (hc.trans ho.symm)
    simp only [hc, if_false, List.length_append, List.length_singleton]
    exact Nat.succ_le_succ (List.length_pos_of_mem ho)

/-- Whoever plays a role against the holder of the other seat holds the seats together with it. -/
lemma areOf_of_roleOf {seats : Seats} {c o : Conn} {role : Role}
    (plays : seats.roleOf c = some role) (opponent : seats.holder role.opposite = some o) :
    seats.AreOf c o := by
  obtain ⟨odd, even⟩ := seats
  cases role with
  | odd =>
    obtain rfl : odd = some c := Seats.roleOf_eq_odd_iff.1 plays
    obtain rfl : even = some o := opponent
    exact .inl rfl
  | even =>
    obtain rfl : even = some c := (Seats.roleOf_eq_even_iff.1 plays).2
    obtain rfl : odd = some o := opponent
    exact .inr rfl

/-- After every run, the vote of a player `c` against an opponent `o` completes an agreement exactly
when `o` has cast an accepted vote since the two are seated together and since they last agreed. If
it does not, it is the only vote, `c` and then `o` are told so, and nothing else changes. If it
does, the players change seats, the board is empty, the game is not over, no vote is left, and the
former odd player and then the former even player are told the new role and the empty board. -/
theorem rematch_iff_opponent_voted {ops : List Op} {s : Session} {c o : Conn} {role : Role}
    (reached : initial.after ops = s) (plays : s.seats.roleOf c = some role)
    (opponent : s.seats.holder role.opposite = some o) :
    (s.agrees (.vote c) = true ↔ initial.VotedInRound ops o c) ∧
    (s.agrees (.vote c) = false →
      s.vote c = .ok ({ s with ballot := ⟨[c]⟩ },
        [⟨.one c, .rematchVotes "Waiting for opponent to accept rematch..." 1 2⟩,
         ⟨.one o, .rematchVotes "Opponent wants a rematch. Click Play Again to accept." 1 2⟩])) ∧
    (s.agrees (.vote c) = true → ∃ a b, s.seats = ⟨some a, some b⟩ ∧
      s.vote c = .ok (⟨.empty, ⟨some b, some a⟩, .empty, false⟩,
        [⟨.one a, .assigned .even .empty⟩, ⟨.one b, .assigned .odd .empty⟩])) := by
  subst reached
  have sd := sound_initial.after ops
  have held := areOf_of_roleOf plays opponent
  obtain ⟨⟨s', ls⟩, ht⟩ := exists_vote_of_areOf held
  have counted := sd.agrees_vote_iff_mem held
  refine ⟨counted.trans (mem_voters_iff_votedInRound held.symm), fun quiet => ?_, fun loud => ?_⟩
  · cases vote_inv ht with
    | @proposed a b other seats players _ =>
      have e : other = o := held.eq_opponent seats players (sd.ne seats)
      rw [ht, e]
      rfl
    | agreed seats seated enough =>
      rw [agrees_of_enough seats seated enough] at quiet
      cases quiet
  · cases vote_inv ht with
    | proposed _ _ few => exact absurd few (Nat.not_lt_of_le (agrees_vote_iff.1 loud).2.2)
    | @agreed a b seats _ _ => exact ⟨a, b, seats, ht⟩

/-- An agreement, then a vote of the new odd player that is repeated among other things. -/
def voteRun : List Op :=
  [.connect ⟨1⟩, .vote ⟨1⟩, .connect ⟨2⟩, .vote ⟨1⟩, .vote ⟨2⟩, .vote ⟨2⟩, .increment ⟨1⟩ 12,
    .connect ⟨3⟩, .vote ⟨2⟩, .increment ⟨2⟩ 99, .leave ⟨3⟩]

/-- The vote of the first player then agrees on a second rematch. -/
theorem rematch_iff_opponent_voted_again :
    (initial.after voteRun).seats.roleOf ⟨1⟩ = some .even ∧
    (initial.after voteRun).seats.holder Role.even.opposite = some ⟨2⟩ ∧
    initial.VotedInRound voteRun ⟨2⟩ ⟨1⟩ ∧
    ∃ a b, (initial.after voteRun).seats = ⟨some a, some b⟩ ∧
      (initial.after voteRun).vote ⟨1⟩ = .ok (⟨.empty, ⟨some b, some a⟩, .empty, false⟩,
        [⟨.one a, .assigned .even .empty⟩, ⟨.one b, .assigned .odd .empty⟩]) := by
  have plays : (initial.after voteRun).seats.roleOf ⟨1⟩ = some .even := by decide +kernel
  have opponent : (initial.after voteRun).seats.holder Role.even.opposite = some ⟨2⟩ := by
    decide +kernel
  have loud : (initial.after voteRun).agrees (.vote ⟨1⟩) = true := by decide +kernel
  obtain ⟨voted, _, agreement⟩ := rematch_iff_opponent_voted rfl plays opponent
  exact ⟨plays, opponent, voted.1 loud, agreement loud⟩

end Session

end ParityDuel
