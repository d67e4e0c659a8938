import Mathlib.Data.List.Induction
import ParityDuel.Poll
import ParityDuel.Proofs.Session.Inversion

/-!
# Rounds of votes

A vote on the ballot has been cast in the present round (`mem_voters_run`), and there is never more
than one (`count_run`), so that an agreement comes of the votes of two connections. Whether these
are the two that hold the seats is another matter. The votes stay within the seats exactly as long
as nobody whose vote stands loses a seat (`within_run_iff`), and while they do, an agreement is one
of the two players.
-/

namespace ParityDuel

namespace Ballot

/-- A second vote needs a first one, of another connection. -/
lemma exists_other_of_enough {b : Ballot} {c : Conn} (few : b.count < totalPlayers)
    (enough : totalPlayers ≤ (b.add c).count) : ∃ d ∈ b.voters, d ≠ c := by
  unfold add at enough
  split at enough
  case isTrue => exact absurd few (Nat.not_lt_of_le enough)
  case isFalse new =>
    have some : 0 < b.voters.length := by
      simp only [count, totalPlayers, List.length_append, List.length_singleton] at enough
      omega
    obtain ⟨d, hd⟩ := List.exists_mem_of_length_pos some
    exact ⟨d, hd, fun e => new (e ▸ hd)⟩

end Ballot

namespace Poll

/-- No operation of the list ends the round. -/
def GoesOn (p : Poll) : List Op → Prop
  | [] => True
  | op :: ops => p.endsRound op = false ∧ (p.step op).GoesOn ops

/-- In a run of operations a connection has cast a vote that counted, and since then nothing has
been agreed and not all votes have been struck. -/
def HasVoted (p : Poll) (ops : List Op) (c : Conn) : Prop :=
  ∃ before later, ops = before ++ .vote c :: later ∧
    (∃ t, (p.run before).ballot.vote (p.run before).seats c = .ok t) ∧
    (p.run before).GoesOn (.vote c :: later)

/-- Only connections that hold a seat are on the ballot. -/
def Within (p : Poll) : Prop := ∀ c ∈ p.ballot.voters, p.seats.isSeated c = true

/-- An operation takes the seat from somebody whose vote stands. -/
def Unseats (p : Poll) (op : Op) : Prop :=
  ∃ c ∈ p.ballot.voters, p.seats.isSeated c = true ∧ (p.step op).seats.isSeated c = false

instance (p : Poll) (op : Op) : Decidable (p.Unseats op) :=
  inferInstanceAs (Decidable (∃ c ∈ p.ballot.voters, _))

/-- No operation of the list takes the seat from somebody whose vote stands. -/
def KeepsVoters (p : Poll) : List Op → Prop
  | [] => True
  | op :: ops => ¬ p.Unseats op ∧ (p.step op).KeepsVoters ops

instance decidableKeepsVoters (p : Poll) : (ops : List Op) → Decidable (p.KeepsVoters ops)
  | [] => .isTrue trivial
  | op :: ops => @instDecidableAnd _ _ _ (decidableKeepsVoters (p.step op) ops)

/-- What an operation does. -/
inductive Step (p : Poll) : Op → Poll → Prop where
  | seated {op seats} :
    p.endsRound op = false →
    Step p op { p with seats }
  | refused {op} :
    p.endsRound op = false →
    Step p op p
  | counted {c o ballot} :
    p.ballot.vote p.seats c = .ok (o, ballot) →
    Step p (.vote c) { p with ballot }
  | withdrawn {c} :
    Step p (.withdraw c) { p with ballot := (p.ballot.withdraw c).2 }
  | cleared :
    Step p .clear { p with ballot := .empty }

section Steps

variable {p p' : Poll} {op : Op} {c : Conn}

/-- Inversion for `step`. -/
lemma step_inv (p : Poll) (op : Op) : p.Step op (p.step op) := by
  cases op with
  | assign c =>
    dsimp only [step]
    split
    case h_1 => exact .seated rfl
    case h_2 => exact .refused rfl
  | put c r => exact .seated rfl
  | remove c => exact .seated rfl
  | vacate => exact .seated rfl
  | vote c =>
    dsimp only [step]
    split
    case h_1 h => exact .counted h
    case h_2 h => exact .refused (by simp [endsRound, agrees, h])
  | withdraw c => exact .withdrawn
  | clear => exact .cleared

/-- Whoever is on the ballot after an operation has been on it before, or has just voted, and the
round goes on. -/
lemma Step.mem_voters (st : p.Step op p') (h : c ∈ p'.ballot.voters) : p.endsRound op = false ∧
    (c ∈ p.ballot.voters ∨ op = .vote c ∧ ∃ t, p.ballot.vote p.seats c = .ok t) := by
  cases st with
  | seated goesOn => exact ⟨goesOn, .inl h⟩
  | refused goesOn => exact ⟨goesOn, .inl h⟩
  | @counted voter o ballot counted =>
    cases Ballot.vote_inv counted with
    | pending _ _ _ =>
      refine ⟨by simp [endsRound, agrees, counted], ?_⟩
      obtain h | rfl := Ballot.mem_voters_add.1 h
      · exact .inl h
      · exact .inr ⟨rfl, _, counted⟩
    | agreed _ _ _ => cases h
  | withdrawn => exact ⟨rfl, .inl (List.mem_filter.1 h).1⟩
  | cleared => cases h

/-- The ballot stays as it is, or the seats do. -/
lemma Step.ballot_or_seats (st : p.Step op p') : p'.ballot = p.ballot ∨ p'.seats = p.seats := by
  cases st with
  | seated _ => exact .inl rfl
  | refused _ => exact .inl rfl
  | counted _ => exact .inr rfl
  | withdrawn => exact .inr rfl
  | cleared => exact .inr rfl

/-- There is never more than one vote on the ballot. -/
lemma Step.count_lt (st : p.Step op p') (few : p.ballot.count < totalPlayers) :
    p'.ballot.count < totalPlayers := by
  cases st with
  | seated _ => exact few
  | refused _ => exact few
  | counted counted =>
    cases Ballot.vote_inv counted with
    | pending _ _ few => exact few
    | agreed _ _ _ => exact Nat.zero_lt_two
  | withdrawn => exact Nat.lt_of_le_of_lt (List.length_filter_le ..) few
  | cleared => exact Nat.zero_lt_two

/-- The votes stay within the seats unless somebody whose vote stands loses a seat. -/
lemma Within.step_iff (within : p.Within) : (p.step op).Within ↔ ¬ p.Unseats op := by
  constructor
  · rintro after ⟨c, hc, seated, unseated⟩
    obtain ballot | seats := (step_inv p op).ballot_or_seats
    · rw [after c (ballot ▸ hc)] at unseated
      cases unseated
    · rw [seats, seated] at unseated
      cases unseated
  · intro kept c hc
    have still (h : c ∈ p.ballot.voters) : (p.step op).seats.isSeated c = true := by
      by_contra unseated
      exact kept ⟨c, h, within c h, Bool.not_eq_true _ ▸ unseated⟩
    obtain ⟨_, h | ⟨rfl, ⟨o, ballot⟩, counted⟩⟩ := (step_inv p op).mem_voters hc
    · exact still h
    · have seated := (Ballot.vote_inv counted).isSeated
      simpa only [step, counted] using seated

end Steps

section Runs

variable {p : Poll} {ops : List Op} {op : Op} {c : Conn}

lemma run_append_singleton (p : Poll) (ops : List Op) (op : Op) :
    p.run (ops ++ [op]) = (p.run ops).step op := by
  rw [run, List.foldl_append]
  rfl

lemma goesOn_append_singleton : p.GoesOn (ops ++ [op]) ↔
    p.GoesOn ops ∧ (p.run ops).endsRound op = false := by
  induction ops generalizing p with
  | nil => exact and_comm
  | cons op' ops ih =>
    rw [List.cons_append, GoesOn, GoesOn, ih, and_assoc]
    rfl

/-- A vote that counts is a vote in the round if it does not end it. -/
lemma hasVoted_of_vote {t : Outcome × Ballot}
    (h : (p.run ops).ballot.vote (p.run ops).seats c = .ok t)
    (goesOn : (p.run ops).endsRound (.vote c) = false) : p.HasVoted (ops ++ [.vote c]) c :=
  ⟨ops, [], rfl, ⟨t, h⟩, goesOn, trivial⟩

/-- Whoever has voted in the round has still done so after an operation that does not end it. -/
lemma HasVoted.step (h : p.HasVoted ops c) (goesOn : (p.run ops).endsRound op = false) :
    p.HasVoted (ops ++ [op]) c := by
  obtain ⟨before, later, rfl, counted, since⟩ := h
  refine ⟨before, later ++ [op], by simp, counted, ?_⟩
  rw [← List.cons_append, goesOn_append_singleton]
  rw [run, List.foldl_append] at goesOn
  exact ⟨since, goesOn⟩

/-- Whoever is on the ballot has voted in the present round. -/
lemma mem_voters_run (ops : List Op) (h : c ∈ (empty.run ops).ballot.voters) :
    empty.HasVoted ops c := by
  induction ops using List.reverseRecOn with
  | nil => cases h
  | append_singleton ops op ih =>
    rw [run_append_singleton] at h
    obtain ⟨goesOn, before | ⟨rfl, _, counted⟩⟩ := (step_inv _ op).mem_voters h
    · exact (ih before).step goesOn
    · exact hasVoted_of_vote counted goesOn

/-- There is never more than one vote on the ballot. -/
lemma count_run (ops : List Op) : (empty.run ops).ballot.count < totalPlayers := by
  induction ops using List.reverseRecOn with
  | nil => decide
  | append_singleton ops op ih =>
    rw [run_append_singleton]
    exact (step_inv _ op).count_lt ih

/-- The votes stay within the seats all the time exactly if nobody whose vote stands loses a seat.
-/
lemma within_run_iff (within : p.Within) :
    (∀ before, before <+: ops → (p.run before).Within) ↔ p.KeepsVoters ops := by
  induction ops generalizing p with
  | nil =>
    refine iff_of_true ?_ trivial
    intro before h
    rw [List.prefix_nil.1 h]
    exact within
  | cons op ops ih =>
    rw [KeepsVoters]
    constructor
    · intro always
      have after : (p.step op).Within := always [op] (by simp)
      refine ⟨within.step_iff.1 after, (ih after).1 ?_⟩
      intro before h
      exact always (op :: before) (List.cons_prefix_cons.2 ⟨rfl, h⟩)
    · rintro ⟨kept, later⟩ before h
      obtain rfl | ⟨rest, rfl, hr⟩ := List.prefix_cons_iff.1 h
      · exact within
      · exact (ih (within.step_iff.2 kept)).2 later rest hr

/-- While the votes are within the seats, an agreement is one of the two players. -/
lemma Within.agreed {odd even : Conn} {ballot : Ballot} (within : p.Within)
    (few : p.ballot.count < totalPlayers)
    (h : p.ballot.vote p.seats c = .ok (.agreed odd even, ballot)) :
    ∀ d, d = odd ∨ d = even → d = c ∨ d ∈ p.ballot.voters := by
  cases Ballot.vote_inv h with
  | agreed seats seated enough =>
    obtain ⟨other, voted, ne⟩ := Ballot.exists_other_of_enough few enough
    have held : p.seats.AreOf odd even := .inl seats
    -- the voter and the other one hold the two seats, so they are the two players
    have voter := held.isSeated_iff.1 seated
    have first := held.isSeated_iff.1 (within other voted)
    intro d player
    by_cases e : d = c
    · exact .inl e
    · have same : d = other := by
        obtain rfl | rfl := voter
        · exact (player.resolve_left e).trans (first.resolve_left ne).symm
        · exact (player.resolve_right e).trans (first.resolve_right ne).symm
      exact .inr (same ▸ voted)

end Runs

/-- What an agreement takes, whatever is done to the seats and the ballot. The votes on the ballot
have been cast in the present round, and there is never more than one, so an agreement takes the
vote of a player and that of another connection. The votes stay within the seats exactly as long as
nobody whose vote stands loses a seat, and until then an agreement takes the votes of both players.
-/
theorem agreement_takes_two_votes (ops : List Op) :
    (empty.run ops).ballot.count < totalPlayers ∧
    (∀ c ∈ (empty.run ops).ballot.voters, empty.HasVoted ops c) ∧
    (∀ c odd even ballot, (empty.run ops).ballot.vote (empty.run ops).seats c =
        .ok (.agreed odd even, ballot) →
      (c = odd ∨ c = even) ∧ ∃ d, d ≠ c ∧ empty.HasVoted ops d) ∧
    ((∀ before, before <+: ops → (empty.run before).Within) ↔ empty.KeepsVoters ops) ∧
    (empty.KeepsVoters ops → ∀ c odd even ballot,
      (empty.run ops).ballot.vote (empty.run ops).seats c = .ok (.agreed odd even, ballot) →
      ∀ d, d = odd ∨ d = even → d = c ∨ empty.HasVoted ops d) := by
  have within : empty.Within := nofun
  refine ⟨count_run ops, fun c h => mem_voters_run ops h, ?_, within_run_iff within, ?_⟩
  · intro c odd even ballot h
    cases Ballot.vote_inv h with
    | agreed seats seated enough =>
      obtain ⟨d, voted, ne⟩ := Ballot.exists_other_of_enough (count_run ops) enough
      have held : (empty.run ops).seats.AreOf odd even := .inl seats
      exact ⟨held.isSeated_iff.1 seated, d, ne, mem_voters_run ops voted⟩
  · intro kept c odd even ballot h d player
    have now := (within_run_iff within).2 kept ops List.prefix_rfl
    obtain e | voted := now.agreed (count_run ops) h d player
    · exact .inl e
    · exact .inr (mem_voters_run ops voted)

/-- Two players of whom one has voted. -/
def oneVoted : List Op := [.assign ⟨1⟩, .assign ⟨2⟩, .vote ⟨1⟩]

/-- When the other player agrees, the vote of the first one has been counted in the same round. -/
theorem agreement_takes_two_votes_duel : empty.HasVoted oneVoted ⟨1⟩ := by
  have kept : empty.KeepsVoters oneVoted := by decide
  have agreed : (empty.run oneVoted).ballot.vote (empty.run oneVoted).seats ⟨2⟩ =
      .ok (.agreed ⟨1⟩ ⟨2⟩, .empty) := by decide
  obtain ⟨_, _, _, _, both⟩ := agreement_takes_two_votes oneVoted
  exact (both kept ⟨2⟩ ⟨1⟩ ⟨2⟩ .empty agreed ⟨1⟩ (.inl rfl)).resolve_left (by decide)

/-- A player votes and leaves, and somebody else sits down and votes: the vote that was left behind
stands for the other player, who has not voted. -/
def leftBehind : List Op := oneVoted ++ [.remove ⟨1⟩, .assign ⟨3⟩]

/-- The vote of somebody who has left still counts, so that the second seat agrees without a vote of
its holder. -/
theorem vote_left_behind_agrees :
    (¬ ∀ c ∈ (empty.run leftBehind).ballot.voters, (empty.run leftBehind).seats.isSeated c = true) ∧
      (empty.run leftBehind).ballot.vote (empty.run leftBehind).seats ⟨3⟩ =
        .ok (.agreed ⟨3⟩ ⟨2⟩, .empty) ∧
      ¬ empty.HasVoted leftBehind ⟨2⟩ := by
  refine ⟨by decide, by decide, ?_⟩
  rintro ⟨before, later, split, _⟩
  have voted : Op.vote ⟨2⟩ ∈ leftBehind := by simp [split]
  exact absurd voted (by decide)

end Poll

end ParityDuel
