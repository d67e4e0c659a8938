import Mathlib.Tactic.Lemma
import ParityDuel.Session

/-!
# Session inversion

What a successful operation of a session tells about the session before and after it. Seating has
three ways to succeed (`Seats.Assigned`), and a request has three as well (`Session.Served`): a
move, a first vote for a rematch, and the vote that agrees on one. Each `*_inv` lemma says that an
operation that succeeds does so in one of these ways, with the letters that are sent; the lemmas
about what follows argue by cases on the ways and do not open the operations again.
-/

namespace ParityDuel

namespace Seats

/-- There is a pair when both seats are held. -/
lemma pair_eq_some_iff {s : Seats} {a b : Conn} :
    s.pair = some (a, b) ↔ s = ⟨some a, some b⟩ := by
  obtain ⟨odd, even⟩ := s
  cases odd <;> cases even <;> simp [pair]

/-- A connection is seated when it holds one of the seats. -/
lemma isSeated_iff {s : Seats} {c : Conn} :
    s.isSeated c = true ↔ s.odd = some c ∨ s.even = some c := by
  unfold isSeated roleOf
  split
  case isTrue h => simp [h]
  case isFalse h => split <;> simp_all

/-- Who has no seat has no role. -/
lemma isSeated_eq_false_iff {s : Seats} {c : Conn} : s.isSeated c = false ↔ s.roleOf c = none := by
  simp [isSeated]

lemma roleOf_eq_odd_iff {s : Seats} {c : Conn} : s.roleOf c = some .odd ↔ s.odd = some c := by
  unfold roleOf
  split
  case isTrue h => simp [h]
  case isFalse h => split <;> simp [h]

/-- The even player is the holder of the even seat, unless it also holds the odd one. -/
lemma roleOf_eq_even_iff {s : Seats} {c : Conn} :
    s.roleOf c = some .even ↔ s.odd ≠ some c ∧ s.even = some c := by
  unfold roleOf
  split
  case isTrue h => simp [h]
  case isFalse h => split <;> simp_all

/-- The ways in which a connection gets a seat. -/
inductive Assigned (s : Seats) (c : Conn) : Role → Seats → Prop where
  | kept {role} :
    s.roleOf c = some role →
    Assigned s c role s
  | odd :
    s.isSeated c = false →
    s.odd = none →
    Assigned s c .odd { s with odd := some c }
  | even {a} :
    s.isSeated c = false →
    s.odd = some a →
    s.even = none →
    Assigned s c .even { s with even := some c }

/-- Inversion for `assign`. -/
lemma assign_inv {s t : Seats} {c : Conn} {role : Role} (h : s.assign c = .ok (role, t)) :
    s.Assigned c role t := by
  unfold assign at h
  split at h
  case h_1 r hr =>
    cases h
    exact .kept hr
  case h_2 hr =>
    have new : s.isSeated c = false := isSeated_eq_false_iff.2 hr
    split at h
    case isTrue free =>
      cases h
      exact .odd new (Option.isNone_iff_eq_none.1 free)
    case isFalse taken =>
      obtain ⟨a, ha⟩ := Option.ne_none_iff_exists'.1 (mt Option.isNone_iff_eq_none.2 taken)
      split at h
      case isTrue free =>
        cases h
        exact .even new ha (Option.isNone_iff_eq_none.1 free)
      case isFalse => cases h

/-- A seat is refused for one reason, and exactly when both are filled by others. -/
lemma assign_eq_error_iff {s : Seats} {c : Conn} {e : Refusal} :
    s.assign c = .error e ↔ e = .full ∧ s.isSeated c = false ∧ s.areFilled = true := by
  rw [assign, isSeated]
  cases s.roleOf c with
  | some r => simp
  | none =>
    obtain ⟨odd, even⟩ := s
    cases odd <;> cases even <;> simp [areFilled, pair, eq_comm]

/-- Seating a connection seats nobody else. -/
lemma Assigned.eq_or_isSeated {s t : Seats} {c d : Conn} {role : Role} (as : s.Assigned c role t)
    (h : t.isSeated d = true) : d = c ∨ s.isSeated d = true := by
  cases as with
  | kept _ => exact .inr h
  | odd _ _ =>
    obtain e | e := isSeated_iff.1 h
    · exact .inl (Option.some.inj e).symm
    · exact .inr (isSeated_iff.2 (.inr e))
  | even _ _ _ =>
    obtain e | e := isSeated_iff.1 h
    · exact .inr (isSeated_iff.2 (.inl e))
    · exact .inl (Option.some.inj e).symm

/-- Two connections hold the two seats, either way round. -/
def AreOf (s : Seats) (a b : Conn) : Prop := s = ⟨some a, some b⟩ ∨ s = ⟨some b, some a⟩

lemma AreOf.symm {s : Seats} {a b : Conn} (held : s.AreOf a b) : s.AreOf b a :=
  Or.symm held

/-- A player of a duel has one opponent. -/
lemma AreOf.eq_opponent {s : Seats} {a b c o other : Conn} (held : s.AreOf c o)
    (seats : s = ⟨some a, some b⟩) (players : c = a ∧ other = b ∨ c = b ∧ other = a)
    (ne : a ≠ b) : other = o := by
  subst seats
  obtain e | e := held
  · cases e
    obtain ⟨_, rfl⟩ | ⟨e, _⟩ := players
    · rfl
    · exact absurd e ne
  · cases e
    obtain ⟨e, _⟩ | ⟨_, rfl⟩ := players
    · exact absurd e.symm ne
    · rfl

/-- The seats of two connections are filled by nobody else. -/
lemma AreOf.isSeated_iff {s : Seats} {a b c : Conn} (held : s.AreOf a b) :
    s.isSeated c = true ↔ c = a ∨ c = b := by
  rw [Seats.isSeated_iff]
  obtain rfl | rfl := held
  · simp [eq_comm]
  · simp [eq_comm, or_comm]

/-- The seats of two connections have room for nobody else. -/
lemma AreOf.not_assigned {s t : Seats} {a b c : Conn} {role : Role} (held : s.AreOf a b)
    (other : ¬ (c = a ∨ c = b)) : ¬ s.Assigned c role t := by
  intro assigned
  cases assigned with
  | kept hr => exact other (held.isSeated_iff.1 (by simp [isSeated, hr]))
  | odd _ free => obtain rfl | rfl := held <;> simp at free
  | even _ _ free => obtain rfl | rfl := held <;> simp at free

end Seats

namespace Ballot

/-- A vote that does not suffice is the only one. -/
lemma add_of_count_lt {b : Ballot} {c : Conn} (h : (b.add c).count < totalPlayers) :
    b.add c = ⟨[c]⟩ := by
  unfold add count totalPlayers at *
  by_cases hc : c ∈ b.voters
  · -- the connection has voted before, so its vote is all there is
    simp only [hc, if_true] at h ⊢
    obtain ⟨d, hd⟩ := List.length_eq_one_iff.1
      (Nat.le_antisymm (Nat.le_of_lt_succ h) (List.length_pos_of_mem hc))
    rw [hd, List.mem_singleton] at hc
    rw [hc, ← hd]
  · simp only [hc, if_false, List.length_append, List.length_singleton] at h ⊢
    have none : b.voters = [] := List.eq_nil_of_length_eq_zero (by omega)
    rw [none, List.nil_append]

/-- With a vote, its voter is on the ballot as well. -/
lemma mem_voters_add {b : Ballot} {c d : Conn} :
    d ∈ (b.add c).voters ↔ d ∈ b.voters ∨ d = c := by
  unfold add
  split
  case isTrue voted =>
    refine ⟨.inl, ?_⟩
    rintro (h | rfl)
    · exact h
    · exact voted
  case isFalse => simp

/-- Nothing is struck for a connection that has not voted. -/
lemma withdraw_of_not_mem {b : Ballot} {c : Conn} (h : c ∉ b.voters) : (b.withdraw c).2 = b := by
  obtain ⟨voters⟩ := b
  simp only [withdraw, mk.injEq, List.filter_eq_self, decide_eq_true_eq]
  intro d hd e
  exact h (e ▸ hd)

/-- Two votes of seated players agree. -/
lemma vote_of_enough {b : Ballot} {seats : Seats} {odd even c : Conn}
    (h : seats = ⟨some odd, some even⟩) (seated : seats.isSeated c = true)
    (enough : totalPlayers ≤ (b.add c).count) :
    b.vote seats c = .ok (.agreed odd even, empty) := by
  obtain ⟨role, hr⟩ := Option.isSome_iff_exists.1 seated
  simp [vote, Seats.pair_eq_some_iff.2 h, hr, Nat.not_lt_of_le enough]

/-- The ways in which a vote is counted. -/
inductive Counted (b : Ballot) (seats : Seats) (c : Conn) : Outcome → Ballot → Prop where
  | pending {odd even other} :
    seats = ⟨some odd, some even⟩ →
    c = odd ∧ other = even ∨ c = even ∧ other = odd →
    (b.add c).count < totalPlayers →
    Counted b seats c (.pending (b.add c).count c other) (b.add c)
  | agreed {odd even} :
    seats = ⟨some odd, some even⟩ →
    seats.isSeated c = true →
    totalPlayers ≤ (b.add c).count →
    Counted b seats c (.agreed odd even) empty

/-- Inversion for `vote`. -/
lemma vote_inv {b b' : Ballot} {seats : Seats} {c : Conn} {o : Outcome}
    (h : b.vote seats c = .ok (o, b')) : b.Counted seats c o b' := by
  unfold vote at h
  split at h
  case h_1 => cases h
  case h_2 odd even hp =>
    have filled := Seats.pair_eq_some_iff.1 hp
    split at h
    case h_1 => cases h
    case h_2 r hr =>
      dsimp only at h
      split at h
      case isTrue few =>
        cases h
        cases r with
        | odd =>
          rw [Seats.roleOf_eq_odd_iff, filled] at hr
          exact .pending filled (.inl ⟨(Option.some.inj hr).symm, rfl⟩) few
        | even =>
          rw [Seats.roleOf_eq_even_iff, filled] at hr
          exact .pending filled (.inr ⟨(Option.some.inj hr.2).symm, rfl⟩) few
      case isFalse enough =>
        cases h
        exact .agreed filled (by simp [Seats.isSeated, hr]) (Nat.le_of_not_lt enough)

/-- Nobody's vote is counted but that of a seated connection. -/
lemma Counted.isSeated {b b' : Ballot} {seats : Seats} {c : Conn} {o : Outcome}
    (counted : b.Counted seats c o b') : seats.isSeated c = true := by
  cases counted with
  | pending filled players _ =>
    exact (Seats.AreOf.isSeated_iff (.inl filled)).2 (players.imp And.left And.left)
  | agreed _ seated _ => exact seated

end Ballot

/-- Whether a notice tells of a move. -/
def Notice.isUpdate : Notice → Bool
  | .update _ _ => true
  | _ => false

/-- Whether a notice tells of a win. -/
def Notice.isGameOver : Notice → Bool
  | .gameOver _ _ => true
  | _ => false

namespace Session

/-- What a connection that has just been seated is told beyond its own role. -/
def greeting (s : Session) (c : Conn) : List Letter :=
  match s.seats.pair with
  | some (odd, even) => [s.assignment odd .odd, s.assignment even .even]
  | none => [⟨.one c, .waiting "Waiting for opponent..."⟩]

/-- Inversion for `connect`. -/
lemma connect_inv {s s' : Session} {c : Conn} {role : Role} {ls : List Letter}
    (h : s.connect c = .ok (role, s', ls)) :
    ∃ seats, s.seats.Assigned c role seats ∧ s' = { s with seats } ∧
      ls = s'.assignment c role :: s'.greeting c := by
  unfold connect at h
  split at h
  case h_1 => cases h
  case h_2 r seats hs =>
    cases h
    exact ⟨seats, Seats.assign_inv hs, rfl, rfl⟩

/-- Seating a connection is no move, and its letters tell of roles and of waiting only. -/
lemma connect_quiet {s s' : Session} {c : Conn} {role : Role} {ls : List Letter}
    (h : s.connect c = .ok (role, s', ls)) :
    s'.board = s.board ∧ s'.isOver = s.isOver ∧
      ∀ l ∈ ls, l.notice.isUpdate = false ∧ l.notice.isGameOver = false := by
  obtain ⟨seats, _, rfl, rfl⟩ := connect_inv h
  refine ⟨rfl, rfl, ?_⟩
  intro l hl
  obtain rfl | hl := List.mem_cons.1 hl
  · exact ⟨rfl, rfl⟩
  · unfold greeting at hl
    split at hl
    · obtain rfl | hl := List.mem_cons.1 hl
      · exact ⟨rfl, rfl⟩
      · rw [List.mem_singleton.1 hl]
        exact ⟨rfl, rfl⟩
    · rw [List.mem_singleton.1 hl]
      exact ⟨rfl, rfl⟩

/-- The letters about a new counter: to everyone, and the win behind it if there is one. -/
def moveLetters (board : Board) (q : Square) : List Letter :=
  ⟨.all, .update q.number (board.get q)⟩ ::
    board.win?.toList.map fun w => ⟨.all, Notice.ofWin w⟩

/-- The ways in which a request is granted. -/
inductive Served (s : Session) (c : Conn) : Request → Session → List Letter → Prop where
  | moved {n q} :
    s.seats.areFilled = true →
    s.seats.isSeated c = true →
    s.isOver = false →
    Square.ofNumber n = .ok q →
    Served s c (.increment n)
      { s with board := s.board.bump q, isOver := (s.board.bump q).win?.isSome }
      (moveLetters (s.board.bump q) q)
  | proposed {a b other} :
    s.seats = ⟨some a, some b⟩ →
    c = a ∧ other = b ∨ c = b ∧ other = a →
    (s.ballot.add c).count < totalPlayers →
    Served s c .rematch { s with ballot := ⟨[c]⟩ }
      [⟨.one c, voteNotice "Waiting for opponent to accept rematch..." 1⟩,
       ⟨.one other, voteNotice "Opponent wants a rematch. Click Play Again to accept." 1⟩]
  | agreed {a b} :
    s.seats = ⟨some a, some b⟩ →
    s.seats.isSeated c = true →
    totalPlayers ≤ (s.ballot.add c).count →
    Served s c .rematch ⟨.empty, ⟨some b, some a⟩, .empty, false⟩
      [⟨.one a, .assigned .even .empty⟩, ⟨.one b, .assigned .odd .empty⟩]

/-- Inversion for `increment`. -/
lemma increment_inv {s s' : Session} {c : Conn} {n : Int64} {ls : List Letter}
    (h : s.increment c n = .ok (s', ls)) : s.Served c (.increment n) s' ls := by
  unfold increment at h
  split at h
  case isTrue => cases h
  case isFalse filled =>
    split at h
    case isTrue => cases h
    case isFalse seated =>
      split at h
      case isTrue => cases h
      case isFalse active =>
        simp only [Decidable.not_not] at filled seated active
        have running : s.isOver = false := by
          cases ho : s.isOver with
          | false => rfl
          | true => simp [phase, filled, ho, Phase.isActive] at active
        split at h
        case h_1 => cases h
        case h_2 q hq =>
          -- the latch was off, so leaving it alone without a win is the same as setting it
          have served := Served.moved filled seated running hq
          cases hw : (s.board.bump q).win? with
          | none =>
            simp only [hw, Except.ok.injEq, Prod.mk.injEq] at h
            obtain ⟨rfl, rfl⟩ := h
            simpa [moveLetters, hw, running] using served
          | some w =>
            simp only [hw, Except.ok.injEq, Prod.mk.injEq] at h
            obtain ⟨rfl, rfl⟩ := h
            simpa [moveLetters, hw] using served

/-- Inversion for `vote`. -/
lemma vote_inv {s s' : Session} {c : Conn} {ls : List Letter}
    (h : s.vote c = .ok (s', ls)) : s.Served c .rematch s' ls := by
  unfold vote at h
  split at h
  case h_1 => cases h
  case h_2 counted =>
    cases h
    cases Ballot.vote_inv counted with
    | pending seats players few =>
      rw [Ballot.add_of_count_lt few]
      exact .proposed seats players few
  case h_3 counted =>
    cases h
    cases Ballot.vote_inv counted with
    | agreed seats seated enough => exact .agreed seats seated enough

/-- Inversion for `serve`. -/
lemma serve_inv {s s' : Session} {c : Conn} {request : Request} {ls : List Letter}
    (h : s.serve c request = .ok (s', ls)) : s.Served c request s' ls := by
  cases request with
  | increment n => exact increment_inv h
  | rematch => exact vote_inv h

/-- Nobody but a seated connection is granted a request. -/
lemma Served.isSeated {s s' : Session} {c : Conn} {request : Request} {ls : List Letter}
    (sv : s.Served c request s' ls) : s.seats.isSeated c = true := by
  cases sv with
  | moved _ seated _ _ => exact seated
  | proposed seats players _ =>
    rw [Seats.isSeated_iff, seats]
    obtain ⟨rfl, _⟩ | ⟨rfl, _⟩ := players
    · exact .inl rfl
    · exact .inr rfl
  | agreed _ seated _ => exact seated

/-- A granted request seats nobody and unseats nobody. -/
lemma Served.isSeated_eq {s s' : Session} {c d : Conn} {request : Request} {ls : List Letter}
    (sv : s.Served c request s' ls) : s'.seats.isSeated d = s.seats.isSeated d := by
  cases sv with
  | moved _ _ _ _ => rfl
  | proposed _ _ _ => rfl
  | agreed seats _ _ =>
    rw [Bool.eq_iff_iff, Seats.isSeated_iff, Seats.isSeated_iff, seats]
    exact or_comm

/-- A granted request leaves the seats to the same two connections. -/
lemma Served.areOf {s s' : Session} {a b c : Conn} {request : Request} {ls : List Letter}
    (sv : s.Served c request s' ls) (held : s.seats.AreOf a b) : s'.seats.AreOf a b := by
  cases sv with
  | moved _ _ _ _ => exact held
  | proposed _ _ _ => exact held
  | agreed seats _ _ =>
    rw [seats] at held
    obtain e | e := held
    · cases e
      exact .inr rfl
    · cases e
      exact .inl rfl

/-- At the beginning nobody is seated. -/
@[simp] lemma isSeated_initial (c : Conn) : initial.seats.isSeated c = false := rfl

/-- When a seated connection leaves, the session starts over and everyone hears of it. -/
lemma leave_seated {s : Session} {c : Conn} (h : s.seats.isSeated c = true) :
    s.leave c = (initial, [⟨.all, .opponentLeft "Opponent disconnected. Game over."⟩]) := by
  simp [leave, h]

/-- When somebody else leaves, at most a vote is struck. -/
lemma leave_unseated {s : Session} {c : Conn} (h : s.seats.isSeated c = false) :
    s.leave c = ({ s with ballot := (s.ballot.withdraw c).2 }, []) := by
  simp [leave, h]

end Session

end ParityDuel
