import ParityDuel.Proofs.Board.Moves
import ParityDuel.Proofs.Room.Delivery

/-!
# Updates

No move is lost, doubled or told out of turn. Over a stretch of commands in which no rematch is
agreed and no player leaves (`Room.Calm`), the board is the one before with the accepted moves made
on it (`Room.moves`, `Board.bumpAll`), and everyone who is registered all the while hears of each
move once, in order, with the counter it led to (`Board.counters`). `board_and_updates_of_calm` is
this simulation; the rest is arithmetic on counters.
-/

namespace ParityDuel

/-- Whether an item tells of a move. -/
def Item.isUpdate : Item → Bool
  | .notice n => n.isUpdate
  | _ => false

/-- The notice of a move and the counter it led to. -/
def updateNotice (u : Square × UInt64) : Notice := .update u.1.number u.2

/-- Nobody hears of a move where no letter tells of one. -/
lemma heardBy_no_update {c : Conn} {ls : List Letter}
    (h : ∀ l ∈ ls, l.notice.isUpdate = false) : (heardBy c ls).filter Notice.isUpdate = [] := by
  rw [List.filter_eq_nil_iff]
  intro n hn
  obtain ⟨l, hl, rfl⟩ := List.mem_map.1 hn
  simp [h l (List.mem_filter.1 hl).1]

namespace Session

/-- Everyone hears of an accepted move once. -/
lemma heardBy_moveLetters (c : Conn) (board : Board) (q : Square) :
    (heardBy c (moveLetters board q)).filter Notice.isUpdate =
      [updateNotice (q, board.get q)] := by
  unfold moveLetters
  rw [heardBy_all, List.filter_cons_of_pos rfl, heardBy_no_update]
  · rfl
  · intro l hl
    obtain ⟨w, _, rfl⟩ := List.mem_map.1 hl
    rfl

end Session

namespace Room

/-- What a registered connection asks for by a command. -/
def request? (r : Room) : Command → Option (Conn × Request)
  | .frame c data =>
    if r.isRegistered c then (Request.ofFrame data).toOption.map fun request => (c, request)
    else none
  | _ => none

/-- A frame of a registered connection that reads as a request asks for it. -/
lemma request?_frame {r : Room} {c : Conn} {data : Bytes} {request : Request}
    (h : Request.ofFrame data = .ok request) :
    r.request? (.frame c data) = if r.isRegistered c then some (c, request) else none := by
  simp [request?, h, Except.toOption]

/-- The square of an accepted move. -/
def move? (r : Room) (cmd : Command) : Option Square :=
  match r.request? cmd with
  | some (c, .increment n) =>
    match r.session.increment c n with
    | .ok _ => (Square.ofNumber n).toOption
    | .error _ => none
  | _ => none

/-- Whether a command agrees on a rematch or takes a player out. -/
def endsGame (r : Room) (cmd : Command) : Bool :=
  match cmd with
  | .disconnect c => r.session.seats.isSeated c
  | _ =>
    match r.request? cmd with
    | some (c, .rematch) =>
      match r.session.ballot.vote r.session.seats c with
      | .ok (.agreed _ _, _) => true
      | _ => false
    | _ => false

/-- No command of the list ends a game. -/
def Calm (r : Room) : List Command → Prop
  | [] => True
  | cmd :: cs => r.endsGame cmd = false ∧ (r.step cmd).1.Calm cs

/-- The squares of the accepted moves, in the order in which they are made. -/
def moves (r : Room) : List Command → List Square
  | [] => []
  | cmd :: cs => (r.move? cmd).toList ++ (r.step cmd).1.moves cs

/-- A member stays one over a stretch of commands. -/
def Stays (r : Room) (m : Member) : List Command → Prop
  | [] => m ∈ r.members
  | cmd :: cs => m ∈ r.members ∧ (r.step cmd).1.Stays m cs

/-- Whoever stays a member is one at the beginning. -/
lemma Stays.mem {r : Room} {m : Member} {cs : List Command} (stays : r.Stays m cs) :
    m ∈ r.members := by
  cases cs with
  | nil => exact stays
  | cons _ _ => exact stays.1

/-- A command that ends no game makes the move it asks for, if it is accepted, and tells everyone.
-/
lemma Step.board_and_updates {r r' : Room} {cmd : Command} {ls : List Letter} {ds : List Delivery}
    (st : r.Step cmd r' ls ds) (sd : r.Sound) (calm : r.endsGame cmd = false) (c : Conn) :
    r'.session.board = r.session.board.bumpAll (r.move? cmd).toList ∧
      (heardBy c ls).filter Notice.isUpdate =
        (r.session.board.counters (r.move? cmd).toList).map updateNotice := by
  cases st with
  | known _ => exact ⟨rfl, rfl⟩
  | turnedAway _ _ => exact ⟨rfl, rfl⟩
  | joined _ hc =>
    obtain ⟨board, _, quiet⟩ := Session.connect_quiet hc
    exact ⟨board, heardBy_no_update fun l hl => (quiet l hl).1⟩
  | @passedOver d data hr =>
    have move : r.move? (.frame d data) = none := by simp [move?, request?, hr]
    rw [move]
    exact ⟨rfl, rfl⟩
  | @unread d data e _ hf =>
    have move : r.move? (.frame d data) = none := by simp [move?, request?, hf, Except.toOption]
    rw [move]
    exact ⟨rfl, heardBy_no_update (by simp [Notice.isUpdate])⟩
  | @refused d data request e hr hf hs =>
    have move : r.move? (.frame d data) = none := by
      cases request with
      | increment n =>
        have refused : r.session.increment d n = .error e := hs
        simp [move?, request?_frame hf, hr, refused]
      | rematch => simp [move?, request?_frame hf, hr]
    rw [move]
    exact ⟨rfl, heardBy_no_update (by simp [Notice.isUpdate])⟩
  | @granted d data request s ls hr hf hs =>
    cases Session.serve_inv hs with
    | @moved n q _ _ _ hq =>
      have accepted : r.session.increment d n = _ := hs
      have move : r.move? (.frame d data) = some q := by
        simp [move?, request?_frame hf, hr, accepted, hq, Except.toOption]
      rw [move]
      exact ⟨rfl, Session.heardBy_moveLetters c _ q⟩
    | proposed _ _ _ =>
      have move : r.move? (.frame d data) = none := by simp [move?, request?_frame hf, hr]
      rw [move]
      exact ⟨rfl, heardBy_no_update (by simp [Notice.isUpdate, Session.voteNotice])⟩
    | agreed seats seated enough =>
      -- this vote would have ended the game
      simp [endsGame, request?_frame hf, hr, Ballot.vote_of_enough seats seated enough] at calm
  | absent _ => exact ⟨rfl, rfl⟩
  | left _ hl =>
    obtain ⟨seated, _⟩ | ⟨_, rfl, rfl⟩ := sd.session.leave_inv hl
    · simp [endsGame, seated] at calm
    · exact ⟨rfl, rfl⟩
  | looked => exact ⟨rfl, rfl⟩

/-- Over a calm stretch the accepted moves are made on the board, and the inbox of everyone who
stays a member gets their updates, once and in order. -/
lemma board_and_updates_of_calm {r : Room} {cs : List Command} (sd : r.Sound)
    (own : r.OwnInboxes cs) (h : .shutdown ∉ cs) (calm : r.Calm cs) :
    (r.run cs).1.session.board = r.session.board.bumpAll (r.moves cs) ∧
      ∀ c inbox, r.Stays ⟨c, inbox⟩ cs →
        (itemsFor inbox (r.run cs).2).filter Item.isUpdate =
          (r.session.board.counters (r.moves cs)).map fun u => .notice (updateNotice u) := by
  induction cs generalizing r with
  | nil => exact ⟨rfl, fun _ _ _ => rfl⟩
  | cons cmd cs ih =>
    rw [List.mem_cons, not_or] at h
    obtain ⟨ls, st⟩ := step_inv sd.isOpen (Ne.symm h.1)
    obtain ⟨board, updates⟩ := ih (sd.of_step st) (own.of_step st) h.2 calm.2
    refine ⟨?_, ?_⟩
    · -- what becomes of the board is the same for every listener
      rw [run_cons, board, moves, Board.bumpAll_append,
        (st.board_and_updates sd calm.1 ⟨0⟩).1]
    · intro c inbox stays
      have rest := updates c inbox stays.2
      obtain ⟨boardStep, heard⟩ := st.board_and_updates sd calm.1 c
      have items : (itemsFor inbox (r.step cmd).2.2).filter Item.isUpdate =
          (r.session.board.counters (r.move? cmd).toList).map fun u =>
            .notice (updateNotice u) := by
        rw [st.itemsFor_eq sd own stays.2.mem, List.filter_map]
        show ((heardBy c ls).filter Notice.isUpdate).map _ = _
        rw [heard, List.map_map]
        rfl
      rw [run_cons, itemsFor_append, List.filter_append, items, rest, moves,
        Board.counters_append, List.map_append, boardStep]

/-- In every stretch of an orderly run in which no rematch is agreed and no player leaves, and in
which no counter runs over: every counter grows by the number of accepted moves on its square; all
who are registered throughout get one and the same list of updates, one for each accepted move, in
the order of the moves; and the updates of a square count on from its counter without a gap. -/
theorem updates_of_stretch {before stretch : List Command} {r : Room}
    (h : Orderly (before ++ stretch)) (reached : (initial.run before).1 = r)
    (calm : r.Calm stretch)
    (fit : ∀ i, (r.session.board.get i).toNat + (r.moves stretch).count i < 2 ^ 64) :
    (∀ i, ((r.run stretch).1.session.board.get i).toNat =
      (r.session.board.get i).toNat + (r.moves stretch).count i) ∧
    ∃ updates : List (Square × UInt64),
      updates.map Prod.fst = r.moves stretch ∧
      (∀ c inbox, r.Stays ⟨c, inbox⟩ stretch →
        (itemsFor inbox (r.run stretch).2).filter Item.isUpdate =
          updates.map fun u => .notice (.update u.1.number u.2)) ∧
      ∀ i, (updates.filter (·.1 = i)).map (·.2.toNat) =
        List.range' ((r.session.board.get i).toNat + 1) ((r.moves stretch).count i) := by
  subst reached
  have sd := sound_initial.run h.left
  have own := (ownInboxes_of_orderly h).run sound_initial h.left
  obtain ⟨board, updates⟩ := board_and_updates_of_calm sd own h.right calm
  refine ⟨fun i => ?_, _, Board.map_fst_counters _ _, updates, fun i => ?_⟩
  · rw [board]
    exact Board.toNat_get_bumpAll (fit i)
  · exact Board.counters_of_square (fit i)

/-- Three moves, one of the leftover that is refused, and a vote in between. -/
def busyStretch : List Command :=
  [.frame ⟨4⟩ (Request.frame (.increment 12)), .frame ⟨2⟩ (Request.frame (.increment 12)),
    .frame ⟨5⟩ (Request.frame .rematch), .connect ⟨6⟩ 4,
    .frame ⟨5⟩ (Request.frame (.increment 12)), .disconnect ⟨2⟩, .snapshot,
    .frame ⟨4⟩ (Request.frame (.increment 12))]

/-- Both players of the second game get the same updates. -/
theorem updates_of_stretch_busy :
    Orderly (leftoverRun ++ busyStretch) ∧ (initial.run leftoverRun).1.Calm busyStretch ∧
    (initial.run leftoverRun).1.moves busyStretch = [12, 12, 12] ∧
    (initial.run leftoverRun).1.Stays ⟨⟨4⟩, 2⟩ busyStretch ∧
    (initial.run leftoverRun).1.Stays ⟨⟨5⟩, 3⟩ busyStretch ∧
    (((initial.run leftoverRun).1.run busyStretch).1.session.board.get 12).toNat = 3 ∧
    ∃ updates : List (Square × UInt64), updates.map Prod.fst = [12, 12, 12] ∧
      (itemsFor 2 ((initial.run leftoverRun).1.run busyStretch).2).filter Item.isUpdate =
        updates.map (fun u => .notice (.update u.1.number u.2)) ∧
      (itemsFor 3 ((initial.run leftoverRun).1.run busyStretch).2).filter Item.isUpdate =
        updates.map (fun u => .notice (.update u.1.number u.2)) ∧
      (updates.filter (·.1 = 12)).map (·.2.toNat) = [1, 2, 3] := by
  have orderly : Orderly (leftoverRun ++ busyStretch) := ⟨by decide, by decide⟩
  have calm : (initial.run leftoverRun).1.Calm busyStretch := by
    simp only [busyStretch, Calm, endsGame, request?_frame ofFrame_middle,
      request?_frame ofFrame_rematch, step_frame ofFrame_middle, step_frame ofFrame_rematch]
    decide +kernel
  have moves : (initial.run leftoverRun).1.moves busyStretch = [12, 12, 12] := by
    simp only [busyStretch, Room.moves, move?, request?_frame ofFrame_middle,
      request?_frame ofFrame_rematch, step_frame ofFrame_middle, step_frame ofFrame_rematch]
    decide +kernel
  have odd : (initial.run leftoverRun).1.Stays ⟨⟨4⟩, 2⟩ busyStretch := by
    simp only [busyStretch, Stays, step_frame ofFrame_middle, step_frame ofFrame_rematch]
    decide +kernel
  have even : (initial.run leftoverRun).1.Stays ⟨⟨5⟩, 3⟩ busyStretch := by
    simp only [busyStretch, Stays, step_frame ofFrame_middle, step_frame ofFrame_rematch]
    decide +kernel
  obtain ⟨grown, updates, order, lists, numbers⟩ := updates_of_stretch orderly rfl calm
    (by rw [moves]; decide +kernel)
  rw [moves] at grown order numbers
  refine ⟨orderly, calm, moves, odd, even, ?_, updates, order, lists _ _ odd, lists _ _ even, ?_⟩
  · rw [grown]
    decide +kernel
  · rw [numbers]
    decide +kernel

end Room

end ParityDuel
