import ParityDuel.Proofs.Session.Inversion

/-!
# Refused requests

A session checks a request against a few conditions, one after the other (`Session.conditions`), and
the first one that is not met decides what is answered (`Session.objection?`). `serve_eq_error_iff`
says that a request is refused for this reason and for no other, and `exists_serve_eq_ok_iff` that
it is granted when there is none.
-/

namespace ParityDuel

/-- The numbers of squares are those from 0 to 24. -/
lemma Square.exists_ofNumber_iff {n : Int64} :
    (∃ q, Square.ofNumber n = .ok q) ↔ 0 ≤ n ∧ n < 25 := by
  have low : 0 ≤ n ↔ 0 ≤ n.toInt := Int64.le_iff_toInt_le
  have high : n < 25 ↔ n.toInt < 25 := Int64.lt_iff_toInt_lt
  unfold Square.ofNumber
  split
  case isTrue small =>
    split
    case isTrue pos =>
      refine ⟨fun _ => ⟨pos, high.2 ?_⟩, fun _ => ⟨_, rfl⟩⟩
      have := low.1 pos
      omega
    case isFalse neg => simp [neg]
  case isFalse big =>
    refine ⟨nofun, fun ⟨pos, below⟩ => absurd ?_ big⟩
    have := low.1 pos
    have := high.1 below
    omega

/-- A number that is no square is named in the refusal. -/
lemma Square.ofNumber_eq_error {n : Int64} {e : Refusal} (h : Square.ofNumber n = .error e) :
    e = .outOfRange n := by
  unfold Square.ofNumber at h
  split at h
  case isTrue =>
    split at h
    case isTrue => cases h
    case isFalse => exact (Except.error.inj h).symm
  case isFalse => exact (Except.error.inj h).symm

namespace Session

/-- What must be so for a request to be granted, in the order in which it is checked, each with the
refusal if it is not so. -/
def conditions (s : Session) (c : Conn) : Request → List (Bool × Refusal)
  | .increment n =>
    [(s.seats.areFilled, .notReady), (s.seats.isSeated c, .notAPlayer),
      (!s.isOver, .alreadyOver), (decide (0 ≤ n ∧ n < 25), .outOfRange n)]
  | .rematch => [(s.seats.areFilled, .notBothConnected), (s.seats.isSeated c, .notAPlayer)]

/-- The refusal of the first condition that is not met. -/
def objection? (s : Session) (c : Conn) (request : Request) : Option Refusal :=
  ((s.conditions c request).find? fun condition => !condition.1).map Prod.snd

/-- A session with both seats filled takes moves unless it is over. -/
lemma phase_isActive_of_filled {s : Session} (filled : s.seats.areFilled = true) :
    s.phase.isActive = !s.isOver := by
  unfold phase
  cases h : s.isOver <;> simp [filled, Phase.isActive]

/-- A move is refused by the first condition that it does not meet. -/
lemma increment_eq_error_iff {s : Session} {c : Conn} {n : Int64} {e : Refusal} :
    s.increment c n = .error e ↔ s.objection? c (.increment n) = some e := by
  unfold increment objection? conditions
  by_cases filled : s.seats.areFilled = true
  case neg => simp [filled]
  by_cases seated : s.seats.isSeated c = true
  case neg => simp [filled, seated]
  cases done : s.isOver with
  | true => simp [filled, seated, done, phase_isActive_of_filled]
  | false =>
    by_cases range : 0 ≤ n ∧ n < 25
    · obtain ⟨q, hq⟩ := Square.exists_ofNumber_iff.2 range
      simp only [filled, seated, done, phase_isActive_of_filled, hq, range]
      cases (s.board.bump q).win? <;> simp
    · cases hq : Square.ofNumber n with
      | ok q => exact absurd (Square.exists_ofNumber_iff.1 ⟨q, hq⟩) range
      | error e' =>
        have reason := Square.ofNumber_eq_error hq
        simp [filled, seated, done, phase_isActive_of_filled, range, reason]

/-- A vote is refused by the first condition that it does not meet. -/
lemma vote_eq_error_iff {s : Session} {c : Conn} {e : Refusal} :
    s.vote c = .error e ↔ s.objection? c .rematch = some e := by
  unfold vote Ballot.vote objection? conditions Seats.areFilled Seats.isSeated
  cases s.seats.pair with
  | none => simp
  | some p =>
    cases s.seats.roleOf c with
    | none => simp
    | some r =>
      by_cases few : (s.ballot.add c).count < totalPlayers
      · simp [few]
      · simp [few]

/-- A request is refused by the first condition that it does not meet. -/
lemma serve_eq_error_iff {s : Session} {c : Conn} {request : Request} {e : Refusal} :
    s.serve c request = .error e ↔ s.objection? c request = some e := by
  cases request with
  | increment n => exact increment_eq_error_iff
  | rematch => exact vote_eq_error_iff

/-- A request that meets all conditions is granted, and no other. -/
lemma exists_serve_eq_ok_iff {s : Session} {c : Conn} {request : Request} :
    (∃ t, s.serve c request = .ok t) ↔ ∀ k ∈ s.conditions c request, k.1 = true := by
  have met : s.objection? c request = none ↔ ∀ k ∈ s.conditions c request, k.1 = true := by
    simp [objection?]
  rw [← met]
  cases h : s.serve c request with
  | ok t =>
    have none : s.objection? c request = none := by
      rw [Option.eq_none_iff_forall_ne_some]
      intro e he
      rw [serve_eq_error_iff.2 he] at h
      cases h
    simp [none]
  | error e => simp [serve_eq_error_iff.1 h]

/-- A connection is refused for one reason, and exactly when others hold both seats. -/
lemma connect_eq_error_iff {s : Session} {c : Conn} {e : Refusal} : s.connect c = .error e ↔
    e = .full ∧ s.seats.isSeated c = false ∧ s.seats.areFilled = true := by
  rw [← Seats.assign_eq_error_iff, connect]
  cases s.seats.assign c with
  | ok _ => simp
  | error _ => simp

end Session

end ParityDuel
